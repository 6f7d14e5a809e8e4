import NativeExtension.HostLayout
import NativeExtension.Proofs.Build.Tool
import NativeExtension.Toolchain

/-!
What the steps with an external tool make of the one call that they make.
-/
namespace NativeExtension

open Command (Outcome)

/-- An error is one of a stage, names a command or none, and repeats what a tool said. -/
structure BuildError.IsReport (e : BuildError) (stage : ToolStage) (command? : Option (List String))
    (said : String) : Prop where
  stage_eq : e.stage = stage.label
  command?_eq : e.command? = command?
  diagnostics_eq : e.diagnostics = said

namespace Build

/-- A runner is asked once between two states. The call is recorded with the answer, and the files
    are as the runner left them. -/
structure CallsOnce (runner : Command.Runner) (call : Command.Call) (answer : Except Fault Outcome)
    (s s' : BuildState) : Prop where
  reply : runner (s.calls.map (·.call)) call s.files = (answer, s'.files)
  recorded : s'.calls = s.calls ++ [⟨call, answer⟩]

/-- How a step of a stage ends once its tool is called, by the answer to the call. A tool that exits
    with status zero may still have failed: `check` finds whether it did, and what the error repeats
    then. -/
inductive ReportsCall {α : Type} (stage : ToolStage) (args : List String)
    (check : Outcome → Except Fault (Option String)) :
    Except Fault Outcome → Except Failure α → Prop
  | returned {outcome : Outcome} {a : α} (hstatus : outcome.status = 0)
      (hcheck : check outcome = .ok none) : ReportsCall stage args check (.ok outcome) (.ok a)
  | unusable {outcome : Outcome} {said : String} {e : BuildError} (hstatus : outcome.status = 0)
      (hcheck : check outcome = .ok (some said)) (he : e.IsReport stage (some args) said) :
      ReportsCall stage args check (.ok outcome) (.error (.build e))
  | unchecked {outcome : Outcome} {fault : Fault} (hstatus : outcome.status = 0)
      (hcheck : check outcome = .error fault) :
      ReportsCall stage args check (.ok outcome) (.error (.fault fault))
  | exited {outcome : Outcome} {e : BuildError} (hstatus : outcome.status ≠ 0)
      (he : e.IsReport stage (some args) outcome.stderr) :
      ReportsCall stage args check (.ok outcome) (.error (.build e))
  | expired {asked : List String} {limit : Option Seconds} {e : BuildError}
      (he : e.IsReport stage (some args) "") :
      ReportsCall stage args check (.error (.expired asked limit)) (.error (.build e))
  | notStarted {cause : SystemError} {e : BuildError} (he : e.IsReport stage (some args) "") :
      ReportsCall stage args check (.error (.system cause)) (.error (.build e))
  | passedOn {fault : Fault} (hexpired : ∀ asked limit, fault ≠ .expired asked limit)
      (hsystem : ∀ cause, fault ≠ .system cause) :
      ReportsCall stage args check (.error fault) (.error (.fault fault))

/-- A step ends with a report of the one call that it makes. What `check` finds depends on the files
    that the step leaves. -/
def ReportsOneCall {α : Type} (runner : Command.Runner) (call : Command.Call) (stage : ToolStage)
    (check : FileTree → Outcome → Except Fault (Option String)) (s : BuildState)
    (r : Except Failure α) (s' : BuildState) : Prop :=
  ∃ answer, CallsOnce runner call answer s s' ∧
    ReportsCall stage call.args (check s'.files) answer r

section Runs

variable {α : Type} {runner : Command.Runner} {args : List String} {stage : ToolStage}
  {limit : Option Seconds} {answer : Except Fault Outcome} {s s' : BuildState}

theorem runTool_callsOnce {r : Except Failure Outcome}
    (h : Ends (runTool runner args stage limit) s r s') :
    ∃ answer, CallsOnce runner ⟨args, limit⟩ answer s s' ∧
      r = toolResult args stage limit answer := by
  have hreply : runner (s.calls.map (·.call)) ⟨args, limit⟩ s.files = (_, _) := rfl
  obtain ⟨t, hends, hfiles, hcalls⟩ := runTool_ends_toolResult stage hreply
  obtain ⟨rfl, rfl⟩ := h.unique hends
  exact ⟨_, ⟨by rw [hfiles], hcalls⟩, rfl⟩

/-- What ends a tool in a failure is reported, whatever the step does with tools that succeed. -/
theorem reportsCall_of_toolResult_error {failure : Failure}
    {check : Outcome → Except Fault (Option String)} (hargs : args ≠ [])
    (h : toolResult args stage limit answer = .error failure) :
    ReportsCall stage args check answer (.error failure : Except Failure α) := by
  unfold toolResult at h
  split at h
  next outcome =>
    split at h
    next => cases h
    next hok =>
      cases h
      exact .exited (by simpa [Outcome.ok] using hok) ⟨rfl, rfl, rfl⟩
  next =>
    cases h
    exact .expired ⟨rfl, rfl, rfl⟩
  next =>
    rw [if_neg hargs] at h
    cases h
    exact .notStarted ⟨rfl, rfl, rfl⟩
  next fault hexpired hsystem =>
    cases h
    exact .passedOn (fun _ _ h => hexpired _ _ h) fun _ h => hsystem _ h

/-- A step that runs a tool and goes on without another call reports that call, where it does so
    for tools that exit with status zero. -/
theorem reportsOneCall_of_runTool_bind {next : Outcome → Build α} {r : Except Failure α}
    {check : FileTree → Outcome → Except Fault (Option String)} (hargs : args ≠ [])
    (h : Ends (runTool runner args stage limit >>= next) s r s')
    (hnext : ∀ outcome s₁, outcome.status = 0 → Ends (next outcome) s₁ r s' →
      s'.files = s₁.files ∧ s'.calls = s₁.calls ∧
        ReportsCall stage args (check s'.files) (.ok outcome) r) :
    ReportsOneCall runner ⟨args, limit⟩ stage check s r s' := by
  obtain ⟨failure, htool, rfl⟩ | ⟨outcome, s₁, htool, hthen⟩ := ends_bind_iff.mp h
  · obtain ⟨answer, honce, hresult⟩ := runTool_callsOnce htool
    exact ⟨answer, honce, reportsCall_of_toolResult_error hargs hresult.symm⟩
  · obtain ⟨answer, ⟨hreply, hrecorded⟩, hresult⟩ := runTool_callsOnce htool
    obtain ⟨rfl, hok⟩ := toolResult_eq_ok hresult.symm
    obtain ⟨hfiles, hcalls, hreports⟩ := hnext outcome s₁ (by simpa [Outcome.ok] using hok) hthen
    exact ⟨.ok outcome, ⟨hfiles ▸ hreply, hcalls ▸ hrecorded⟩, hreports⟩

/-- A tool that exits with another status than zero fails the step with what it said. -/
theorem ReportsOneCall.of_status_ne_zero {call : Command.Call} {r : Except Failure α}
    {check : FileTree → Outcome → Except Fault (Option String)} {outcome : Outcome}
    (h : ReportsOneCall runner call stage check s r s')
    (hreply : (runner (s.calls.map (·.call)) call s.files).1 = .ok outcome)
    (hstatus : outcome.status ≠ 0) :
    ∃ e, r = .error (.build e) ∧ e.IsReport stage (some call.args) outcome.stderr := by
  obtain ⟨answer, honce, hreports⟩ := h
  obtain rfl : answer = .ok outcome := by rw [← hreply, honce.reply]
  cases hreports with
  | returned hzero => exact absurd hzero hstatus
  | unusable hzero => exact absurd hzero hstatus
  | unchecked hzero => exact absurd hzero hstatus
  | exited _ he => exact ⟨_, rfl, he⟩

end Runs

end Build

open Build

variable {s s' : BuildState} {r : Except Failure Path}

namespace HostLayout

/-- Output that is no directory is answered with what the tool said beside it. -/
def checkOutput (outcome : Outcome) : Except Fault (Option String) :=
  .ok (if directory? outcome.stdout = none then some outcome.stderr else none)

theorem query_reports {executable flag : String} {runner : Command.Runner} {limit : Option Seconds}
    (h : Ends (query executable runner limit flag) s r s') :
    ReportsOneCall runner ⟨[executable, flag], limit⟩ .hostConfig (fun _ => checkOutput) s r s' := by
  refine reportsOneCall_of_runTool_bind (List.cons_ne_nil _ _) h fun outcome s₁ hstatus h => ?_
  split at h
  next hnone =>
    obtain ⟨rfl, rfl⟩ := ends_failWith_iff.mp h
    have hcheck : checkOutput outcome = .ok (some outcome.stderr) := by simp [checkOutput, hnone]
    exact ⟨rfl, rfl, .unusable hstatus hcheck ⟨rfl, rfl, rfl⟩⟩
  next directory hdirectory =>
    simp only [ends_bind_iff, ends_say_iff, ends_pure_iff] at h
    obtain ⟨_, ⟨⟨⟩, _⟩, _⟩ | ⟨_, _, ⟨_, rfl⟩, rfl, rfl⟩ := h
    exact ⟨rfl, rfl, .returned hstatus (by simp [checkOutput, hdirectory])⟩

end HostLayout

namespace Toolchain

variable {tools : Tools} {buildDir source object includeDir libraryDir : Path} {i : Identity}
  {extra : Option String}

/-- Where the object file is missing there is nothing to repeat. -/
def checkObject (object : Path) (files : FileTree) : Except Fault (Option String) :=
  (files.isFile object).map fun found => if found then none else some ""

theorem compileObject_reports
    (h : Ends (compileObject tools buildDir source i includeDir libraryDir) s r s') :
    let object := buildDir.child i.objectName
    let args := Command.compile tools.compiler source object i includeDir libraryDir
    ReportsOneCall tools.runner ⟨args, tools.limit⟩ .compile
      (fun files _ => checkObject object files) s r s' := by
  refine reportsOneCall_of_runTool_bind (List.cons_ne_nil _ _) h fun outcome s₁ hstatus h => ?_
  obtain ⟨rfl, fault, hfound, rfl⟩ | ⟨rfl, hfound, rfl⟩ | ⟨hfound, h⟩ := need_cases h
  · exact ⟨rfl, rfl, .unchecked hstatus (by simp [checkObject, hfound, Except.map])⟩
  · have hcheck : checkObject (buildDir.child i.objectName) s'.files = .ok (some "") := by
      simp [checkObject, hfound, Except.map]
    exact ⟨rfl, rfl, .unusable hstatus hcheck ⟨rfl, rfl, rfl⟩⟩
  · obtain ⟨rfl, rfl⟩ := ends_pure_iff.mp h
    exact ⟨rfl, rfl, .returned hstatus (by simp [checkObject, hfound, Except.map])⟩

/-- Linking without an object file calls nothing, and its error is about no command. -/
def Refuses (object : Path) (s : BuildState) (r : Except Failure Path) (s' : BuildState) : Prop :=
  s' = s ∧ match s.files.isFile object with
    | .ok true => False
    | .ok false => ∃ e, r = .error (.build e) ∧ e.IsReport .link none ""
    | .error fault => r = .error (.fault fault)

theorem linkSharedLibrary_reports
    (h : Ends (linkSharedLibrary tools buildDir object i libraryDir extra) s r s') :
    let args := Command.link tools.compiler object (buildDir.child i.sharedLibraryName)
      (Command.archivePath libraryDir i) extra
    Refuses object s r s' ∨ s.files.isFile object = .ok true ∧
      ReportsOneCall tools.runner ⟨args, tools.limit⟩ .link (fun _ _ => .ok none) s r s' := by
  obtain ⟨rfl, fault, hfound, rfl⟩ | ⟨rfl, hfound, rfl⟩ | ⟨hfound, h⟩ := need_cases h
  · exact .inl ⟨rfl, by rw [hfound]⟩
  · exact .inl ⟨rfl, by rw [hfound]; exact ⟨_, rfl, rfl, rfl, rfl⟩⟩
  · refine .inr ⟨hfound, reportsOneCall_of_runTool_bind (List.cons_ne_nil _ _) h ?_⟩
    intro outcome s₁ hstatus h
    obtain ⟨rfl, rfl⟩ := ends_pure_iff.mp h
    exact ⟨rfl, rfl, .returned hstatus rfl⟩

/-- Asking for a directory, compiling and linking call one tool at most, and what they fail with
    tells of that call: its stage, its command and what the tool said. Only a tool that exits with
    status zero lets them return. -/
theorem tools_report_calls {s s' : BuildState} {r : Except Failure Path} :
    (∀ {executable flag : String} {runner : Command.Runner} {limit : Option Seconds},
      Ends (HostLayout.query executable runner limit flag) s r s' →
        ReportsOneCall runner ⟨[executable, flag], limit⟩ .hostConfig
          (fun _ => HostLayout.checkOutput) s r s') ∧
    ∀ {tools : Tools} {buildDir libraryDir : Path} {i : Identity},
      (∀ {source includeDir : Path},
        Ends (compileObject tools buildDir source i includeDir libraryDir) s r s' →
          let object := buildDir.child i.objectName
          let args := Command.compile tools.compiler source object i includeDir libraryDir
          ReportsOneCall tools.runner ⟨args, tools.limit⟩ .compile
            (fun files _ => checkObject object files) s r s') ∧
      ∀ {object : Path} {extra : Option String},
        Ends (linkSharedLibrary tools buildDir object i libraryDir extra) s r s' →
          let shared := buildDir.child i.sharedLibraryName
          let args := Command.link tools.compiler object shared (Command.archivePath libraryDir i)
            extra
          Refuses object s r s' ∨ s.files.isFile object = .ok true ∧
            ReportsOneCall tools.runner ⟨args, tools.limit⟩ .link (fun _ _ => .ok none) s r s' :=
  ⟨HostLayout.query_reports, ⟨compileObject_reports, linkSharedLibrary_reports⟩⟩

/-- Tools that all refuse to work, in the same words. -/
def refusingTools : Tools where
  runner _ call files := (.ok ⟨call.args, 1, "", "unknown option\n"⟩, files)
  compiler := Command.defaultCompiler
  limit := none

/-- An extension that those tools do not build. -/
def unbuilt : Identity where
  name := "demo"
  description := "A demo"
  version := "0.3"
  name_nonempty := by decide
  description_nonempty := by decide
  version_nonempty := by decide
  name_plain := by decide
  version_plain := by decide

/-- A host without files on which nothing was run. -/
def bareHost : BuildState where
  files := { entries := [], current := [] }
  calls := []
  messages := []

/-- How the steps end in `/b` with tools that refuse to work. Without an object file there is no tool
    to blame. -/
theorem tools_report_calls_refused :
    let said := "unknown option\n"
    let object := (Path.ofString "/b").child unbuilt.objectName
    let query := HostLayout.query "pg_config" refusingTools.runner none HostLayout.sharedFlag
    let compile := compileObject refusingTools (.ofString "/b") (.ofString "/b/demo.c") unbuilt
      (.ofString "/i") (.ofString "/l")
    let link := linkSharedLibrary refusingTools (.ofString "/b") object unbuilt (.ofString "/l") none
    (∃ r s', Ends query bareHost r s' ∧ ∃ e, r = .error (.build e) ∧
      e.IsReport .hostConfig (some ["pg_config", HostLayout.sharedFlag]) said) ∧
    (∃ r s', Ends compile bareHost r s' ∧ ∃ e, r = .error (.build e) ∧
      e.IsReport .compile (some (Command.compile Command.defaultCompiler (.ofString "/b/demo.c")
        object unbuilt (.ofString "/i") (.ofString "/l"))) said) ∧
    ∃ r s', Ends link bareHost r s' ∧ ∃ e, r = .error (.build e) ∧ e.IsReport .link none "" := by
  intro said object query compile link
  refine ⟨?query, ?compile, ?link⟩
  case query =>
    obtain ⟨r, s', hends⟩ := exists_ends query bareHost
    exact ⟨r, s', hends, (tools_report_calls.1 hends).of_status_ne_zero rfl (by decide)⟩
  case compile =>
    obtain ⟨r, s', hends⟩ := exists_ends compile bareHost
    exact ⟨r, s', hends, ((tools_report_calls.2).1 hends).of_status_ne_zero rfl (by decide)⟩
  case link =>
    obtain ⟨r, s', hends⟩ := exists_ends link bareHost
    have hmissing : bareHost.files.isFile object = .ok false := eq_ok_of_toOption (by decide +kernel)
    obtain ⟨-, hrefused⟩ | ⟨hfound, -⟩ := (tools_report_calls.2).2 hends
    · rw [hmissing] at hrefused
      exact ⟨r, s', hends, hrefused⟩
    · simp [hmissing] at hfound

end Toolchain

end NativeExtension

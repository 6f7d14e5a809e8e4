import NativeExtension.Program.Runner
import NativeExtension.Proofs.Build.Tool

/-!
What a stage makes of a tool that came to its end. The status decides, but only where the octets on
both channels are text: they are decoded before anything looks at the status.
-/
namespace NativeExtension.Program

open Build

section Completion

variable {α : Type} {start : FileTree → List String → Except Errno α}
  {execute : Command.Call → α → FileTree → Option Ended × FileTree} {call : Command.Call}
  {args : List String} {limit : Option Seconds} {stage : ToolStage} {ended : Ended}
  {s : BuildState} {t after : FileTree}

/-- The text that octets stand for: what they encode, with every line end as a line feed. -/
def Spells (octets : ByteArray) (text : String) : Prop :=
  ∃ raw : String, raw.toUTF8 = octets ∧ text = String.ofList (Text.unifyNewlines raw.toList)

theorem written_cases (octets : ByteArray) :
    (octets.IsValidUTF8 ∧ ∃ text, written octets = .ok text ∧ Spells octets text) ∨
      (¬ octets.IsValidUTF8 ∧ ∃ e, written octets = .error (.undecodable e)) := by
  unfold written Text.Utf8.decode String.fromUTF8?
  by_cases h : octets.IsValidUTF8
  · rw [dif_pos h]
    exact .inl ⟨h, _, rfl, String.fromUTF8 octets h, rfl, rfl⟩
  · rw [dif_neg h]
    exact .inr ⟨h, _, rfl⟩

/-- The octets on both channels are text. -/
structure Ended.Readable (e : Ended) : Prop where
  stdout : e.stdout.IsValidUTF8
  stderr : e.stderr.IsValidUTF8

theorem Ended.outcome_cases (e : Ended) (args : List String) :
    (e.Readable ∧ ∃ o, e.outcome args = .ok o ∧ o.args = args ∧ o.status = statusOf e.exit ∧
        Spells e.stdout o.stdout ∧ Spells e.stderr o.stderr) ∨
      (¬ e.Readable ∧ ∃ error, e.outcome args = .error (.undecodable error)) := by
  obtain ⟨hout, out, houtWritten, houtSpells⟩ | ⟨hout, error, hfault⟩ := written_cases e.stdout
  · obtain ⟨herr, err, herrWritten, herrSpells⟩ | ⟨herr, error, hfault⟩ := written_cases e.stderr
    · refine .inl ⟨⟨hout, herr⟩, ⟨args, statusOf e.exit, out, err⟩, ?_, rfl, rfl, houtSpells,
        herrSpells⟩
      rw [outcome, houtWritten, herrWritten]
      rfl
    · refine .inr ⟨fun h => herr h.stderr, error, ?_⟩
      rw [outcome, houtWritten, hfault]
      rfl
  · refine .inr ⟨fun h => hout h.stdout, error, ?_⟩
    rw [outcome, hfault]
    rfl

/-- A program starts with the arguments of a call and comes to its end in time. -/
structure Completes (start : FileTree → List String → Except Errno α)
    (execute : Command.Call → α → FileTree → Option Ended × FileTree) (call : Command.Call)
    (t : FileTree) (ended : Ended) (after : FileTree) : Prop where
  named : call.args ≠ []
  plain : ∀ arg ∈ call.args, '\x00' ∉ arg.toList
  executed : ∃ image, start t call.args = .ok image ∧ execute call image t = (some ended, after)

/-- Nothing but a limit that cannot be waited for keeps a program that completes from being told. -/
theorem Completes.answer (h : Completes start execute call t ended after)
    (earlier : List Command.Call) :
    runnerOf start execute earlier call t =
      match limitFault? call.limit with
      | some fault => (.error fault, t)
      | none => (ended.outcome call.args, after) := by
  obtain ⟨hnamed, hplain, image, hstart, hexecute⟩ := h
  have hnul : ¬ call.args.any (·.toList.contains '\x00') = true := by
    simpa [List.any_eq_true] using hplain
  rw [runnerOf, if_neg hnamed, if_neg hnul, hstart]
  cases limitFault? call.limit with
  | some fault => rfl
  | none => simp only [hexecute]

/-- A limit that cannot be waited for is no matter of the stage. -/
theorem toolResult_limitFault {fault : Fault} (h : limitFault? limit = some fault) :
    toolResult args stage limit (.error fault) = .error (.fault fault) := by
  unfold limitFault? at h
  split at h
  · cases h
  · cases h
    rfl
  · cases h
    rfl
  · split at h
    · cases h
      rfl
    split at h
    · cases h
    split at h <;> cases h <;> rfl

/-- A tool is reported by its end: with status zero it gives its outcome, and otherwise the error of
    its stage, which names the status and holds what the tool wrote to its second channel. -/
def Reports (args : List String) (stage : ToolStage) (ended : Ended) :
    Except Failure Command.Outcome → Prop
  | .ok o =>
    statusOf ended.exit = 0 ∧ o.args = args ∧ o.status = 0 ∧ Spells ended.stdout o.stdout ∧
      Spells ended.stderr o.stderr
  | .error reason =>
    statusOf ended.exit ≠ 0 ∧ ∃ diagnostics, Spells ended.stderr diagnostics ∧
      reason = .build (.tool stage args (.exited (statusOf ended.exit) diagnostics))

theorem reports_toolResult {o : Command.Outcome} (hargs : args ≠ []) (ho : o.args = args)
    (hstatus : o.status = statusOf ended.exit) (hout : Spells ended.stdout o.stdout)
    (herr : Spells ended.stderr o.stderr) :
    Reports args stage ended (toolResult args stage limit (.ok o)) := by
  by_cases hzero : statusOf ended.exit = 0
  · have hok : o.ok = true := by simp [Command.Outcome.ok, hstatus, hzero]
    rw [toolResult, if_pos hok]
    exact ⟨hzero, ho, hstatus.trans hzero, hout, herr⟩
  · have hok : ¬ o.ok = true := by simp [Command.Outcome.ok, hstatus, hzero]
    rw [toolResult, if_neg hok, if_neg hargs, hstatus]
    exact ⟨hzero, _, herr, rfl⟩

theorem runTool_of_limitFault (stage : ToolStage) {fault : Fault}
    (h : Completes start execute ⟨args, limit⟩ s.files ended after)
    (hlimit : limitFault? limit = some fault) :
    ∃ s', Ends (runTool (runnerOf start execute) args stage limit) s (.error (.fault fault)) s' := by
  have hanswer := h.answer (s.calls.map (·.call))
  simp only [hlimit] at hanswer
  obtain ⟨s', hends, -⟩ := runTool_ends_toolResult stage hanswer
  rw [toolResult_limitFault hlimit] at hends
  exact ⟨s', hends⟩

theorem Completes.ends (stage : ToolStage)
    (h : Completes start execute ⟨args, limit⟩ s.files ended after)
    (hlimit : limitFault? limit = none) :
    ∃ s', Ends (runTool (runnerOf start execute) args stage limit) s
      (toolResult args stage limit (ended.outcome args)) s' ∧ s'.files = after := by
  have hanswer := h.answer (s.calls.map (·.call))
  simp only [hlimit] at hanswer
  obtain ⟨s', hends, hfiles, -⟩ := runTool_ends_toolResult stage hanswer
  exact ⟨s', hends, hfiles⟩

theorem runTool_of_readable (stage : ToolStage)
    (h : Completes start execute ⟨args, limit⟩ s.files ended after)
    (hlimit : limitFault? limit = none) (hreadable : ended.Readable) :
    ∃ r s', Ends (runTool (runnerOf start execute) args stage limit) s r s' ∧ s'.files = after ∧
      Reports args stage ended r := by
  obtain ⟨s', hends, hfiles⟩ := h.ends stage hlimit
  obtain ⟨-, o, houtcome, ho, hstatus, hout, herr⟩ | ⟨hunreadable, -⟩ := ended.outcome_cases args
  · rw [houtcome] at hends
    exact ⟨_, s', hends, hfiles, reports_toolResult h.named ho hstatus hout herr⟩
  · exact absurd hreadable hunreadable

theorem runTool_of_unreadable (stage : ToolStage)
    (h : Completes start execute ⟨args, limit⟩ s.files ended after)
    (hlimit : limitFault? limit = none) (hunreadable : ¬ ended.Readable) :
    ∃ e s', Ends (runTool (runnerOf start execute) args stage limit) s
      (.error (.fault (.undecodable e))) s' ∧ s'.files = after := by
  obtain ⟨s', hends, hfiles⟩ := h.ends stage hlimit
  obtain ⟨hreadable, -⟩ | ⟨-, e, houtcome⟩ := ended.outcome_cases args
  · exact absurd hreadable hunreadable
  · rw [houtcome] at hends
    exact ⟨e, s', hends, hfiles⟩

/-- A tool that comes to its end is reported by it exactly when the octets that it wrote to both
    channels are text. Where they are not, the stage ends with a fault that is not its own, whatever
    the status is; and a limit that cannot be waited for is a fault before anything is read. -/
theorem runTool_reports_iff (stage : ToolStage)
    (h : Completes start execute ⟨args, limit⟩ s.files ended after) :
    ∃ r s', Ends (runTool (runnerOf start execute) args stage limit) s r s' ∧
      match limitFault? limit with
      | some fault => r = .error (.fault fault)
      | none => s'.files = after ∧ (Reports args stage ended r ↔ ended.Readable) ∧
          (¬ ended.Readable → ∃ e, r = .error (.fault (.undecodable e))) := by
  cases hlimit : limitFault? limit with
  | some fault =>
    obtain ⟨s', hends⟩ := runTool_of_limitFault stage h hlimit
    exact ⟨_, s', hends, rfl⟩
  | none =>
    by_cases hreadable : ended.Readable
    · obtain ⟨r, s', hends, hfiles, hreports⟩ := runTool_of_readable stage h hlimit hreadable
      exact ⟨r, s', hends, hfiles, iff_of_true hreports hreadable, absurd hreadable⟩
    · obtain ⟨e, s', hends, hfiles⟩ := runTool_of_unreadable stage h hlimit hreadable
      refine ⟨_, s', hends, hfiles, iff_of_false ?_ hreadable, fun _ => ⟨e, rfl⟩⟩
      rintro ⟨-, _, -, hreason⟩
      cases hreason

end Completion

/-- A call of the shell of a host that has nothing but its programs. -/
def shellCall (script : String) : Command.Call := ⟨["/bin/sh", "-c", script], none⟩

/-- How a script ends on such a host, where it runs and ends. -/
def shellEnd? (script : String) : Option Ended :=
  match start baseTree (shellCall script).args with
  | .ok image => (runImage (usualVariables ++ []) (shellCall script) image baseTree).1
  | .error _ => none

/-- Ends are compared by what was written. -/
instance : DecidableEq Ended := fun a b =>
  decidable_of_iff
    (a.exit = b.exit ∧ a.stdout.data = b.stdout.data ∧ a.stderr.data = b.stderr.data) (by
      cases a
      cases b
      simp [ByteArray.ext_iff])

theorem completes_shellCall {script : String} {ended : Ended} (hplain : '\x00' ∉ script.toList)
    (h : shellEnd? script = some ended) :
    ∃ after, Completes start (runImage (usualVariables ++ [])) (shellCall script) baseTree ended
      after := by
  unfold shellEnd? at h
  split at h
  next image hstart =>
    refine ⟨_, List.cons_ne_nil _ _, ?_, image, hstart, Prod.ext h rfl⟩
    simpa [shellCall] using hplain
  next => cases h

/-- A script that complains and exits with a status of its own. -/
def complaint : String := "echo no >&2; exit 3"

theorem runTool_reports_iff_complaint :
    ∃ ended after, ended.exit = .status 3 ∧
      Completes start (runImage (usualVariables ++ [])) (shellCall complaint) baseTree ended after ∧
      ∃ r s', Ends (runTool (runner []) (shellCall complaint).args .compile none)
          ⟨baseTree, [], []⟩ r s' ∧
        s'.files = after ∧ Reports (shellCall complaint).args .compile ended r := by
  have hplain : '\x00' ∉ complaint.toList := by decide
  have hend : shellEnd? complaint = some ⟨.status 3, .empty, "no\n".toUTF8⟩ := by decide +kernel
  obtain ⟨after, h⟩ := completes_shellCall hplain hend
  obtain ⟨r, s', hends, hfiles, hreports, -⟩ :=
    runTool_reports_iff .compile (s := ⟨baseTree, [], []⟩) h
  exact ⟨_, after, rfl, h, r, s', hends, hfiles, hreports.mpr ⟨by decide, by decide⟩⟩

/-- Scripts that print one octet that is no text: one of them succeeds, the other one fails. -/
def garbled : String := "printf '\\377'"

def garbledComplaint : String := "printf '\\377' >&2; exit 3"

/-- Neither end is reported: a success gives no outcome, and a failure is not the stage's. -/
theorem runTool_reports_no_garbled :
    (∃ after e s', Completes start (runImage (usualVariables ++ [])) (shellCall garbled) baseTree
        ⟨.status 0, ⟨#[0xff]⟩, .empty⟩ after ∧
      Ends (runTool (runner []) (shellCall garbled).args .compile none) ⟨baseTree, [], []⟩
        (.error (.fault (.undecodable e))) s') ∧
    ∃ after e s', Completes start (runImage (usualVariables ++ [])) (shellCall garbledComplaint)
        baseTree ⟨.status 3, .empty, ⟨#[0xff]⟩⟩ after ∧
      Ends (runTool (runner []) (shellCall garbledComplaint).args .compile none)
        ⟨baseTree, [], []⟩ (.error (.fault (.undecodable e))) s' := by
  have hbad : ¬ (⟨#[0xff]⟩ : ByteArray).IsValidUTF8 := by decide
  constructor
  · have hplain : '\x00' ∉ garbled.toList := by decide
    have hend : shellEnd? garbled = some ⟨.status 0, ⟨#[0xff]⟩, .empty⟩ := by decide +kernel
    obtain ⟨after, h⟩ := completes_shellCall hplain hend
    obtain ⟨e, s', hends, -⟩ := runTool_of_unreadable .compile (s := ⟨baseTree, [], []⟩) h rfl
      fun hreadable => hbad hreadable.stdout
    exact ⟨after, e, s', h, hends⟩
  · have hplain : '\x00' ∉ garbledComplaint.toList := by decide
    have hend : shellEnd? garbledComplaint = some ⟨.status 3, .empty, ⟨#[0xff]⟩⟩ := by
      decide +kernel
    obtain ⟨after, h⟩ := completes_shellCall hplain hend
    obtain ⟨e, s', hends, -⟩ := runTool_of_unreadable .compile (s := ⟨baseTree, [], []⟩) h rfl
      fun hreadable => hbad hreadable.stderr
    exact ⟨after, e, s', h, hends⟩

end NativeExtension.Program

import NativeExtension.Proofs.Manifest.Nesting
import NativeExtension.Proofs.Pipeline.Footprint

namespace NativeExtension

open Build FileTree

/-- The faults that a build lets through. -/
inductive Fault.Escapes : Fault → Prop where
  /-- A NUL in a path. -/
  | nul : Escapes .embeddedNul
  /-- Values of a manifest or directories to be made that are nested more deeply than calls. -/
  | nested : Escapes (.tooLarge .nesting)
  /-- A file that never ends. -/
  | endless : Escapes (.tooLarge .reading)
  /-- An integer in a manifest with more digits than can be read. -/
  | longInteger (digits : Nat) : Escapes (.badValue (Toml.integerTooLongMessage digits))
  /-- A path or a name that is too long where it is only asked what it names. -/
  | longPath (path : String) : Escapes (.system (.about .nameTooLong path))
  /-- A path through a directory that is closed where it is only asked what it names. -/
  | closedPath (path : String) : Escapes (.system (.about .accessDenied path))
  /-- A project named from a working directory that was removed. -/
  | adrift : Escapes (.system .noCurrent)

theorem Fault.OfProgram.escapes (fault : Fault) (h : fault.OfProgram) : fault.Escapes := by
  obtain rfl | rfl | rfl := h
  · exact .nul
  · exact .nested
  · exact .endless

theorem Fault.OfAsking.escapes (fault : Fault) (h : fault.OfAsking) : fault.Escapes := by
  obtain ⟨path, rfl | rfl⟩ := h
  · exact .longPath path
  · exact .closedPath path

/-- A runner that answers each call with an outcome, an error of the operating system or that the
    command took too long. -/
def Command.Runner.Answers (runner : Command.Runner) : Prop :=
  ∀ earlier c t fault, (runner earlier c t).1 = .error fault →
    (∃ e, fault = .system e) ∨ ∃ args limit, fault = .expired args limit

theorem Command.Runner.Answers.runnerFaults {runner : Command.Runner} (h : runner.Answers)
    {Q : Fault → Prop} : FailsWith.RunnerFaults Q runner := by
  intro earlier c t fault hfault hsystem hexpired
  obtain ⟨e, rfl⟩ | ⟨args, limit, rfl⟩ := h earlier c t fault hfault
  · exact absurd rfl (hsystem e)
  · exact absurd rfl (hexpired args limit)

namespace Project

theorem scriptsAmong_ofFiles (t : FileTree) (directory : Path) (names : List String) :
    Raises Fault.OfFiles (scriptsAmong t directory names) := by
  induction names with
  | nil => exact .pure _
  | cons name rest ih =>
    have hrest (found : Bool) : Raises Fault.OfFiles (do
        let others ← scriptsAmong t directory rest
        pure (if found then name :: others else others)) :=
      .bind ih fun _ => .pure _
    unfold scriptsAmong
    split
    · exact .bind ((isFile_ofAsking _).mono fun _ => Fault.OfAsking.ofFiles) hrest
    · exact hrest false

theorem findScript_fails (project : Path) :
    FailsWith (·.stage = "project") Fault.Escapes (findScript project) := by
  refine .need rfl (fun _ => (isDirectory_ofAsking _).mono Fault.OfAsking.escapes) ?_
  refine .look_bind fun t => .bind ?_ fun _ => ?_
  · refine .orSystem (fun _ => rfl) Fault.OfProgram.escapes ?_
    exact .bind (list_ofFiles _) fun _ => scriptsAmong_ofFiles _ _ _
  · split
    · exact .pure _
    · exact .failWith rfl

theorem isThere_escapes (t : FileTree) (project : Path) :
    Raises Fault.Escapes (isThere t project) := by
  unfold isThere
  split
  · exact .pure _
  · exact (isDirectory_ofAsking _).mono Fault.OfAsking.escapes

/-- Where a directory is is known unless the working directory was removed. -/
theorem location_escapes {t : FileTree} {project : Path} (h : isThere t project = .ok true) :
    Raises Fault.Escapes (location t project) := by
  unfold isThere at h
  unfold location
  split
  next => exact .throw .adrift
  next hadrift =>
    rw [Bool.not_eq_true] at hadrift
    obtain ⟨l, mode, hfind⟩ := find_of_isDirectory (by simpa [hadrift] using h)
    rw [hfind]
    exact .pure _

theorem locate_fails (project : Path) (profile : String) :
    FailsWith (·.stage = "project") Fault.Escapes (locate project profile) := by
  refine .of_failure fun h => ?_
  obtain ⟨-, fault, hfault, ⟨⟩⟩ | ⟨-, -, ⟨⟩⟩ | ⟨hdirectory, h⟩ := need_cases h
  · exact isThere_escapes _ _ _ hfault
  · rfl
  -- the directory that was asked for is located in the same files
  obtain ⟨_, hlook, -⟩ | ⟨result, s₁, hlook, h⟩ := ends_bind_iff.mp h
  · simp at hlook
  obtain ⟨hresult, rfl⟩ := ends_look_iff.mp hlook
  obtain rfl : result = location s₁.files project := by simpa using hresult
  refine FailsWith.failure (.bind ?_ fun _ => .bind (findScript_fails _) fun _ => .pure _) h
  exact .orFault (location_escapes hdirectory)

end Project

theorem Manifest.parse_raises (source text : String) :
    Raises (OfKind (·.stage = "manifest") Fault.Escapes) (parse source text) := by
  unfold parse parseWith
  split
  · exact .throw rfl
  · exact .throw (.longInteger _)
  · exact .throw .nested
  next document _ =>
    cases hidentity : identity source document with
    | ok i => exact .pure _
    | error e => exact .throw rfl

theorem Manifest.readIdentity_fails (path : Path) :
    FailsWith (·.stage = "manifest") Fault.Escapes (readIdentity path) := by
  refine .look_bind fun t => .bind ?_ fun text => ?_
  · exact .orRead (fun _ => rfl) Fault.OfProgram.escapes (readText_raises _)
  · exact .bind (.ofResult (parse_raises _ _)) fun _ => .bind (.say ..) fun _ => .pure _

theorem Scan.declarations_fails (sql : String) :
    FailsWith (·.stage = "scan") Fault.Escapes (declarations sql) := by
  unfold declarations
  split
  · exact .failWith rfl
  · exact .bind (.say ..) fun _ => .pure _

theorem Scan.wrapper_fails {K : BuildError → Prop} {Q : Fault → Prop} (names : List String) :
    FailsWith K Q (wrapper names) := by
  unfold wrapper
  split
  · exact .bind (.say ..) fun _ => .pure _
  · exact .pure _

theorem HostLayout.query_fails {runner : Command.Runner} (hrunner : runner.Answers)
    (executable : String) (limit : Option Seconds) (flag : String) :
    FailsWith (·.stage = "host-config") Fault.Escapes (query executable runner limit flag) := by
  refine .bind (.runTool (by simp) (fun _ => rfl) hrunner.runnerFaults) fun outcome => ?_
  split
  · exact .failWith rfl
  · exact .bind (.say ..) fun _ => .pure _

namespace Deployment

theorem installAll_fails (files : List DeployedFile) :
    FailsWith (·.stage = "deploy") Fault.Escapes (installAll files) := by
  induction files with
  | nil => exact .pure _
  | cons f rest ih =>
    refine .bind ?_ fun _ => .bind ih fun _ => .pure _
    refine .changeAnywayOr (fun _ => rfl) Fault.OfProgram.escapes
      (fun _ => install_ofFiles _ _) ?_
    exact .bind (.say ..) fun _ => .pure _

end Deployment

namespace Pipeline

theorem read_fails (layout : ProjectLayout) :
    FailsWith (·.stage ∈ readingStages) Fault.Escapes (read layout) := by
  have stage {name : String} (hname : name ∈ readingStages) (e : BuildError) (he : e.stage = name) :
      e.stage ∈ readingStages := he ▸ hname
  refine .bind ((Manifest.readIdentity_fails _).mono (stage (by decide))) fun _ => ?_
  refine .look_bind fun t => .bind ?_ fun _ => ?_
  · have hproject : "project" ∈ readingStages := by decide
    exact .orRead (fun _ => hproject) Fault.OfProgram.escapes (readText_raises _)
  refine .bind ((Scan.declarations_fails _).mono (stage (by decide))) fun _ => ?_
  exact .bind (Scan.wrapper_fails _) fun _ => .pure _

theorem run_fails {runner : Command.Runner} (hrunner : runner.Answers) (layout : ProjectLayout)
    (executable compiler : String) (limit : Option Seconds) (extra : Option String) :
    FailsWith (fun _ => True) Fault.Escapes
      (run layout (.queried executable runner limit) ⟨runner, compiler, limit⟩ extra) := by
  have asked (flag : String) := HostLayout.query_fails hrunner executable limit flag
  have askedAny (flag : String) :
      FailsWith (fun _ => True) Fault.Escapes (HostLayout.query executable runner limit flag) :=
    (asked flag).mono fun _ _ => trivial
  rw [run_eq]
  refine .bind ((read_fails layout).mono fun _ _ => trivial) fun found => ?_
  refine .bind ((fill_fails Fault.OfProgram.escapes Fault.OfAsking.escapes hrunner.runnerFaults
    (asked _) extra found).mono fun _ _ => trivial) fun artifacts => ?_
  refine .bind ?_ fun _ => .bind (.say ..) fun _ => .pure _
  refine .bind (askedAny _) fun _ => .bind (askedAny _) fun _ => ?_
  exact (Deployment.installAll_fails _).mono fun _ _ => trivial

/-- Locating a project and building it. -/
def locateAndRun (project : Path) (profile executable compiler : String) (runner : Command.Runner)
    (limit : Option Seconds) (extra : Option String) : Build PipelineResult := do
  let layout ← Project.locate project profile
  run layout (.queried executable runner limit) ⟨runner, compiler, limit⟩ extra

/-- Whatever the files hold and the runner answers, a build ends with a result, with an error of its
    own, or with one of the few faults that it lets through. -/
theorem locateAndRun_ends {runner : Command.Runner} (hrunner : runner.Answers)
    (project : Path) (profile executable compiler : String) (limit : Option Seconds)
    (extra : Option String) (s : BuildState) :
    ∃ r s', Ends (locateAndRun project profile executable compiler runner limit extra) s r s' ∧
      ∀ fault, r = .error (.fault fault) → fault.Escapes := by
  have hfails : FailsWith (fun _ => True) Fault.Escapes
      (locateAndRun project profile executable compiler runner limit extra) :=
    .bind ((Project.locate_fails project profile).mono fun _ _ => trivial) fun layout =>
      run_fails hrunner layout executable compiler limit extra
  obtain ⟨r, s', h⟩ := exists_ends
    (locateAndRun project profile executable compiler runner limit extra) s
  refine ⟨r, s', h, ?_⟩
  rintro fault rfl
  exact hfails.fault h

theorem sampleRunner_answers : sampleRunner.Answers := by
  intro earlier c t fault hfault
  unfold sampleRunner Command.Runner.writing at hfault
  split at hfault
  · cases hfault
  · split at hfault
    · cases hfault
    · cases hfault

theorem locateAndRun_ends_sample :
    ∃ r s', Ends (locateAndRun (.ofString "/p") "release" "pg_config" Command.defaultCompiler
        sampleRunner none none) (sampleState "") r s' ∧
      ∀ fault, r = .error (.fault fault) → fault.Escapes :=
  locateAndRun_ends sampleRunner_answers _ _ _ _ _ _ _

/-- The project in `/p` where the manifest spells a name with a NUL in it. -/
def nulState : BuildState :=
  { sampleState "" with
    files := (sampleState "").files.put ["p", "Cargo.toml"] (.file
      "[package]\nname = \"a\\u0000b\"\ndescription = \"d\"\nversion = \"1\"\n".toUTF8 0o644) }

/-- The fault in which a result failed. -/
def fault? {α : Type} : Except Failure α → Option Fault
  | .error (.fault fault) => some fault
  | _ => none

theorem exists_ends_fault {α : Type} {m : Build α} {s : BuildState} {fault : Fault}
    (h : fault? (Id.run (m.run.run s)).1 = some fault) :
    ∃ s', Ends m s (.error (.fault fault)) s' := by
  obtain ⟨r, s', hends⟩ := exists_ends m s
  rw [hends] at h
  cases r with
  | ok a => cases h
  | error failure =>
    cases failure with
    | build e => cases h
    | fault fault' =>
      obtain rfl : fault' = fault := Option.some.inj h
      exact ⟨s', hends⟩

/-- The project in `/p`, in which names may not be looked up. -/
def closedState : BuildState :=
  { sampleState "" with files := (sampleState "").files.put ["p"] (.directory 0o600) }

/-- The project in `/p`, seen from a working directory that was removed. -/
def adriftState : BuildState :=
  { sampleState "" with files := { (sampleState "").files with current := ["removed"] } }

/-- A build can fail with no error of its own: a manifest can spell a NUL, which no path takes, the
    directory of the project can be closed, and the project can be named from a working directory
    that was removed. -/
theorem locateAndRun_escapes :
    (∃ s', Ends (locateAndRun (.ofString "/p") "release" "pg_config" Command.defaultCompiler
      sampleRunner none none) nulState (.error (.fault .embeddedNul)) s') ∧
    (∃ s', Ends (locateAndRun (.ofString "/p") "release" "pg_config" Command.defaultCompiler
      sampleRunner none none) closedState
        (.error (.fault (.system (.about .accessDenied "/p/sql")))) s') ∧
    ∃ s', Ends (locateAndRun (.ofString ".") "release" "pg_config" Command.defaultCompiler
      sampleRunner none none) adriftState (.error (.fault (.system .noCurrent))) s' :=
  ⟨exists_ends_fault (by decide +kernel), exists_ends_fault (by decide +kernel),
    exists_ends_fault (by decide +kernel)⟩

/-- A manifest whose first entry opens more arrays in each other than calls can be nested ends every
    run with a fault, before anything is changed. -/
theorem run_openArrays {layout : ProjectLayout} {s : BuildState} {n : Nat} {rest : List Char}
    (hdeep : callLimit < Toml.arrayCalls * n)
    (hread : s.files.readText layout.manifest =
      .ok ("x = " ++ String.ofList (Toml.openArrays n rest)))
    (host : HostLayout) (tools : Toolchain.Tools) (extra : Option String) :
    Ends (run layout host tools extra) s (.error (.fault (.tooLarge .nesting))) s := by
  have hidentity : Ends (Manifest.readIdentity layout.manifest) s
      (.error (.fault (.tooLarge .nesting))) s := by
    refine ends_bind_iff.mpr (.inr ⟨_, s, ends_look_iff.mpr ⟨rfl, rfl⟩, ?_⟩)
    rw [hread]
    refine ends_bind_iff.mpr (.inr ⟨_, s, ends_pure_iff.mpr ⟨rfl, rfl⟩, ?_⟩)
    rw [Manifest.parse_openArrays _ rest hdeep]
    exact ends_bind_iff.mpr (.inl ⟨_, ends_ofResult_iff.mpr ⟨rfl, rfl⟩, rfl⟩)
  rw [run_eq]
  exact ends_bind_iff.mpr (.inl ⟨_, ends_bind_iff.mpr (.inl ⟨_, hidentity, rfl⟩), rfl⟩)

end Pipeline

end NativeExtension

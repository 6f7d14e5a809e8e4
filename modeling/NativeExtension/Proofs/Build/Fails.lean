import NativeExtension.Proofs.Build.Change
import NativeExtension.Proofs.Build.Tool
import NativeExtension.Proofs.Files.Faults

namespace NativeExtension.Build

variable {α β : Type} {K : BuildError → Prop} {Q : Fault → Prop} {m : Build α} {f : α → Build β}

/-- A step that fails with errors and faults of certain kinds only. -/
structure FailsWith (K : BuildError → Prop) (Q : Fault → Prop) (m : Build α) : Prop where
  error : ∀ {s s' e}, Ends m s (.error (.build e)) s' → K e
  fault : ∀ {s s' fault}, Ends m s (.error (.fault fault)) s' → Q fault

/-- Whether a failure is of the given kinds. -/
def OfKind (K : BuildError → Prop) (Q : Fault → Prop) : Failure → Prop
  | .build e => K e
  | .fault fault => Q fault

theorem failureOf_ofKind {wrap : SystemError → BuildError} (hwrap : ∀ e, K (wrap e)) {fault : Fault}
    (hfault : fault.OfFiles) (hprogram : ∀ fault : Fault, fault.OfProgram → Q fault) :
    OfKind K Q (failureOf wrap fault) := by
  obtain hfault | ⟨e, rfl⟩ := hfault
  · obtain rfl | rfl | rfl := id hfault
    · exact hprogram _ hfault
    · exact hprogram _ hfault
    · exact hprogram _ hfault
  · exact hwrap e

namespace FailsWith

theorem of_failure (h : ∀ {s s' failure}, Ends m s (.error failure) s' → OfKind K Q failure) :
    FailsWith K Q m :=
  ⟨fun hends => h hends, fun hends => h hends⟩

theorem failure (h : FailsWith K Q m) {s s' : BuildState} {failure : Failure}
    (hends : Ends m s (.error failure) s') : OfKind K Q failure := by
  cases failure with
  | build e => exact h.error hends
  | fault fault => exact h.fault hends

theorem of_ends {result : BuildState → Except Failure α} {after : BuildState → BuildState}
    (hends : ∀ s, Ends m s (result s) (after s))
    (hresult : ∀ s failure, result s = .error failure → OfKind K Q failure) : FailsWith K Q m :=
  of_failure fun h => hresult _ _ ((hends _).unique h).1

theorem mono {K' : BuildError → Prop} (h : FailsWith K Q m) (hK : ∀ e, K e → K' e) :
    FailsWith K' Q m :=
  ⟨fun hends => hK _ (h.error hends), h.fault⟩

theorem bind (hm : FailsWith K Q m) (hf : ∀ a, FailsWith K Q (f a)) : FailsWith K Q (m >>= f) := by
  refine of_failure fun h => ?_
  obtain ⟨e, hfailed, he⟩ | ⟨a, s₁, -, hrest⟩ := ends_bind_iff.mp h
  · cases he
    exact hm.failure hfailed
  · exact (hf a).failure hrest

protected theorem pure (a : α) : FailsWith K Q (pure a) :=
  of_ends (fun _ => ends_pure_iff.mpr ⟨rfl, rfl⟩) (by simp)

theorem failWith {e : BuildError} (he : K e) : FailsWith K Q (failWith e : Build α) :=
  of_ends (fun _ => ends_failWith_iff.mpr ⟨rfl, rfl⟩) (by rintro _ _ ⟨⟩; exact he)

theorem ofResult {result : Except Failure α} (hresult : Raises (OfKind K Q) result) :
    FailsWith K Q (ofResult result) :=
  of_ends (fun _ => ends_ofResult_iff.mpr ⟨rfl, rfl⟩) fun _ => hresult

theorem say (level : Level) (text : String) : FailsWith K Q (say level text) :=
  of_ends (fun _ => ends_say_iff.mpr ⟨rfl, rfl⟩) (by simp)

/-- What reading the files gives is all that the step after it has to be right for. -/
theorem look_bind {read : FileTree → Except Fault α} {f : Except Fault α → Build β}
    (hf : ∀ t, FailsWith K Q (f (read t))) : FailsWith K Q (look read >>= f) := by
  refine of_failure fun h => ?_
  obtain ⟨_, hlook, -⟩ | ⟨result, s₁, hlook, h⟩ := ends_bind_iff.mp h
  · simp at hlook
  obtain ⟨hresult, rfl⟩ := ends_look_iff.mp hlook
  obtain rfl : result = read s₁.files := by simpa using hresult
  exact (hf _).failure h

protected theorem orFault {result : Except Fault α} (hresult : Raises Q result) :
    FailsWith K Q (orFault result) := by
  cases result with
  | ok a => exact .pure a
  | error fault =>
    refine of_ends (fun _ => ends_orFault_error_iff.mpr ⟨rfl, rfl⟩) ?_
    rintro _ _ ⟨⟩
    exact hresult fault rfl

protected theorem orSystem {wrap : SystemError → BuildError} {result : Except Fault α}
    (hwrap : ∀ e, K (wrap e)) (hprogram : ∀ fault : Fault, fault.OfProgram → Q fault)
    (hresult : Raises Fault.OfFiles result) : FailsWith K Q (orSystem wrap result) := by
  cases result with
  | ok a => exact .pure a
  | error fault =>
    refine of_ends (fun _ => ends_orSystem_error_iff.mpr ⟨rfl, rfl⟩) ?_
    rintro _ _ ⟨⟩
    exact failureOf_ofKind hwrap (hresult fault rfl) hprogram

protected theorem orRead {wrap : ReadError → BuildError} {result : Except Fault α}
    (hwrap : ∀ e, K (wrap e)) (hprogram : ∀ fault : Fault, fault.OfProgram → Q fault)
    (hresult : Raises (fun fault => fault.OfFiles ∨ ∃ e, fault = .undecodable e) result) :
    FailsWith K Q (orRead wrap result) := by
  cases result with
  | ok a => exact .pure a
  | error fault =>
    obtain (hfault | ⟨e, rfl⟩) | ⟨e, rfl⟩ := hresult fault rfl
    · obtain rfl | rfl | rfl := id hfault
      all_goals
        refine of_ends (fun _ => ends_faultWith_iff.mpr ⟨rfl, rfl⟩) ?_
        rintro _ _ ⟨⟩
        exact hprogram _ hfault
    · exact .failWith (hwrap _)
    · exact .failWith (hwrap _)

theorem changeOr {wrap : SystemError → BuildError} {f : FileTree → Except Fault FileTree}
    {rest : Build β} (hwrap : ∀ e, K (wrap e))
    (hprogram : ∀ fault : Fault, fault.OfProgram → Q fault)
    (hf : ∀ t, Raises Fault.OfFiles (f t)) (hrest : FailsWith K Q rest) :
    FailsWith K Q (do
      orSystem wrap (← Build.change f)
      rest) := by
  refine of_failure fun h => ?_
  obtain ⟨fault, hfault, -, he⟩ | ⟨_, -, h⟩ := changeOr_cases h
  · cases he
    exact failureOf_ofKind hwrap (hf _ fault hfault) hprogram
  · exact hrest.failure h

theorem changeAnywayOr {wrap : SystemError → BuildError}
    {f : FileTree → Except Fault Unit × FileTree} {rest : Build β} (hwrap : ∀ e, K (wrap e))
    (hprogram : ∀ fault : Fault, fault.OfProgram → Q fault)
    (hf : ∀ t, Raises Fault.OfFiles (f t).1) (hrest : FailsWith K Q rest) :
    FailsWith K Q (do
      orSystem wrap (← Build.changeAnyway f)
      rest) := by
  refine of_failure fun h => ?_
  obtain ⟨fault, hfault, -, he⟩ | ⟨-, h⟩ := changeAnywayOr_cases h
  · cases he
    exact failureOf_ofKind hwrap (hf _ fault hfault) hprogram
  · exact hrest.failure h

theorem need {read : FileTree → Except Fault Bool} {error : BuildError} (herror : K error)
    (hread : ∀ t, Raises Q (read t)) (hm : FailsWith K Q m) :
    FailsWith K Q (do
      if !(← Build.orFault (← Build.look read)) then Build.failWith error
      m) := by
  refine of_failure fun h => ?_
  obtain ⟨-, fault, hfault, he⟩ | ⟨-, -, he⟩ | ⟨-, h⟩ := need_cases h
  · cases he
    exact hread _ fault hfault
  · cases he
    exact herror
  · exact hm.failure h

/-- The faults of a runner that a build does not take on as errors of its own. -/
def RunnerFaults (Q : Fault → Prop) (runner : Command.Runner) : Prop :=
  ∀ earlier c t fault, (runner earlier c t).1 = .error fault → (∀ e, fault ≠ .system e) →
    (∀ args limit, fault ≠ .expired args limit) → Q fault

theorem runTool {runner : Command.Runner} {args : List String} {limit : Option Seconds}
    {stage : ToolStage} (hargs : args ≠ []) (herror : ∀ cause, K (.tool stage args cause))
    (hrunner : RunnerFaults Q runner) : FailsWith K Q (Build.runTool runner args stage limit) := by
  refine of_failure fun h => ?_
  obtain ⟨_, hsay, -⟩ | ⟨_, s₁, hsay, h⟩ := ends_bind_iff.mp h
  · simp at hsay
  obtain ⟨_, hcall, -⟩ | ⟨answer, s₂, hcall, h⟩ := ends_bind_iff.mp h
  · obtain ⟨_, ⟨⟩, -⟩ := hcall.calls_call
  obtain ⟨hresult, -⟩ := ends_ofResult_iff.mp h
  obtain ⟨cause, rfl⟩ | ⟨fault, rfl, hanswer, hsystem, hexpired⟩ :=
    toolResult_failure hargs hresult.symm
  · exact herror cause
  · exact hrunner _ _ _ fault (hcall.answer_call.trans hanswer) hsystem hexpired

end FailsWith

end NativeExtension.Build

import NativeExtension.Proofs.Build.Ends

namespace NativeExtension.Build

variable {α β : Type} {kind : BuildError → Prop} {m : Build α} {f : α → Build β}

/-- A step that runs no command and fails with errors of one kind only, or with a fault of the
    host. -/
structure Quiet (kind : BuildError → Prop) (m : Build α) : Prop where
  calls_eq : ∀ {s s' r}, Ends m s r s' → s'.calls = s.calls
  kind_of_error : ∀ {s s' e}, Ends m s (.error (.build e)) s' → kind e

namespace Quiet

theorem of_ends {result : BuildState → Except Failure α} {after : BuildState → BuildState}
    (hends : ∀ s, Ends m s (result s) (after s)) (hcalls : ∀ s, (after s).calls = s.calls)
    (hkind : ∀ s e, result s = .error (.build e) → kind e) : Quiet kind m where
  calls_eq h := by
    obtain ⟨-, rfl⟩ := h.unique (hends _)
    exact hcalls _
  kind_of_error h := hkind _ _ ((hends _).unique h).1

theorem bind (hm : Quiet kind m) (hf : ∀ a, Quiet kind (f a)) : Quiet kind (m >>= f) where
  calls_eq h := by
    obtain ⟨e, hfailed, -⟩ | ⟨a, s₁, hfirst, hrest⟩ := ends_bind_iff.mp h
    · exact hm.calls_eq hfailed
    · exact ((hf a).calls_eq hrest).trans (hm.calls_eq hfirst)
  kind_of_error h := by
    obtain ⟨e, hfailed, he⟩ | ⟨a, s₁, -, hrest⟩ := ends_bind_iff.mp h
    · cases he
      exact hm.kind_of_error hfailed
    · exact (hf a).kind_of_error hrest

protected theorem pure (a : α) : Quiet kind (pure a) :=
  of_ends (fun _ => ends_pure_iff.mpr ⟨rfl, rfl⟩) (fun _ => rfl) (by simp)

theorem failWith {e : BuildError} (he : kind e) : Quiet kind (failWith e : Build α) := by
  refine of_ends (fun _ => ends_failWith_iff.mpr ⟨rfl, rfl⟩) (fun _ => rfl) ?_
  intro _ _ herror
  cases herror
  exact he

theorem faultWith (fault : Fault) : Quiet kind (faultWith fault : Build α) :=
  of_ends (fun _ => ends_faultWith_iff.mpr ⟨rfl, rfl⟩) (fun _ => rfl) (by simp)

theorem ofResult {result : Except Failure α} (hresult : ∀ e, result = .error (.build e) → kind e) :
    Quiet kind (ofResult result) :=
  of_ends (fun _ => ends_ofResult_iff.mpr ⟨rfl, rfl⟩) (fun _ => rfl) fun _ => hresult

theorem say (level : Level) (text : String) : Quiet kind (say level text) :=
  of_ends (fun _ => ends_say_iff.mpr ⟨rfl, rfl⟩) (fun _ => rfl) (by simp)

theorem look (read : FileTree → Except Fault α) : Quiet kind (look read) :=
  of_ends (fun _ => ends_look_iff.mpr ⟨rfl, rfl⟩) (fun _ => rfl) (by simp)

theorem changeAnyway (f : FileTree → Except Fault Unit × FileTree) :
    Quiet kind (changeAnyway f) :=
  of_ends (fun _ => ends_changeAnyway_iff.mpr ⟨rfl, rfl⟩) (fun _ => rfl) (by simp)

theorem change (f : FileTree → Except Fault FileTree) : Quiet kind (change f) where
  calls_eq h := by
    obtain ⟨_, -, -, rfl⟩ | ⟨_, -, -, rfl⟩ := ends_change_iff.mp h <;> rfl
  kind_of_error h := by simp [ends_change_iff] at h

theorem orFault (result : Except Fault α) : Quiet kind (orFault result) := by
  cases result with
  | ok a => exact Quiet.pure a
  | error fault => exact faultWith fault

theorem orSystem {wrap : SystemError → BuildError} (hwrap : ∀ e, kind (wrap e))
    (result : Except Fault α) : Quiet kind (orSystem wrap result) := by
  cases result with
  | ok a => exact Quiet.pure a
  | error fault =>
    cases fault with
    | system e => exact failWith (hwrap e)
    | _ => exact faultWith _

theorem orRead {wrap : ReadError → BuildError} (hwrap : ∀ e, kind (wrap e))
    (result : Except Fault α) : Quiet kind (orRead wrap result) := by
  cases result with
  | ok a => exact Quiet.pure a
  | error fault =>
    cases fault with
    | system e => exact failWith (hwrap (.system e))
    | undecodable e => exact failWith (hwrap (.undecodable e))
    | _ => exact faultWith _

end Quiet

end NativeExtension.Build

import NativeExtension.Build

namespace NativeExtension.Build

/-- How a step ends that starts in a state: with which value or failure, and in which state. -/
def Ends {α : Type} (m : Build α) (s : BuildState) (r : Except Failure α) (s' : BuildState) : Prop :=
  Id.run (m.run.run s) = (r, s')

theorem exists_ends {α : Type} (m : Build α) (s : BuildState) : ∃ r s', Ends m s r s' :=
  ⟨_, _, rfl⟩

theorem Ends.unique {α : Type} {m : Build α} {s s₁ s₂ : BuildState} {r₁ r₂ : Except Failure α}
    (h₁ : Ends m s r₁ s₁) (h₂ : Ends m s r₂ s₂) : r₁ = r₂ ∧ s₁ = s₂ := by
  have heq := h₁.symm.trans h₂
  simpa only [Prod.mk.injEq] using heq

/-- A failure of the first step ends both, and the second goes on where the first succeeds. -/
theorem ends_bind_iff {α β : Type} {m : Build α} {f : α → Build β} {s s' : BuildState}
    {r : Except Failure β} :
    Ends (m >>= f) s r s' ↔ (∃ e, Ends m s (.error e) s' ∧ r = .error e) ∨
      ∃ a s₁, Ends m s (.ok a) s₁ ∧ Ends (f a) s₁ r s' := by
  unfold Ends
  have hrun : Id.run ((m >>= f).run.run s) = match Id.run (m.run.run s) with
      | (.ok a, s₁) => Id.run ((f a).run.run s₁)
      | (.error e, s₁) => (.error e, s₁) := by
    unfold ExceptT.run StateT.run Id.run
    simp only [bind, ExceptT.bind, ExceptT.mk, StateT.bind, ExceptT.bindCont]
    cases m s with
    | mk result next => cases result <;> rfl
  rw [hrun]
  cases Id.run (m.run.run s) with
  | mk result next =>
    cases result with
    | error e =>
      constructor
      · rintro ⟨⟩
        exact .inl ⟨e, rfl, rfl⟩
      · rintro (⟨_, ⟨⟩, rfl⟩ | ⟨_, _, ⟨⟩, _⟩)
        rfl
    | ok a =>
      constructor
      · intro h
        exact .inr ⟨a, next, rfl, h⟩
      · rintro (⟨_, ⟨⟩, _⟩ | ⟨_, _, ⟨⟩, h⟩)
        exact h

theorem ends_bind_ok_iff {α β : Type} {m : Build α} {f : α → Build β} {s s' : BuildState} {b : β} :
    Ends (m >>= f) s (.ok b) s' ↔ ∃ a s₁, Ends m s (.ok a) s₁ ∧ Ends (f a) s₁ (.ok b) s' := by
  simp [ends_bind_iff]

/-- A failure of the first step is handled in the state in which it left things. -/
theorem ends_tryCatch_iff {α : Type} {m : Build α} {handle : Failure → Build α}
    {s s' : BuildState} {r : Except Failure α} :
    Ends (tryCatch m handle) s r s' ↔ (∃ a, Ends m s (.ok a) s' ∧ r = .ok a) ∨
      ∃ e s₁, Ends m s (.error e) s₁ ∧ Ends (handle e) s₁ r s' := by
  unfold Ends
  have hrun : Id.run ((tryCatch m handle).run.run s) = match Id.run (m.run.run s) with
      | (.ok a, s₁) => (.ok a, s₁)
      | (.error e, s₁) => Id.run ((handle e).run.run s₁) := by
    unfold ExceptT.run StateT.run Id.run
    simp only [tryCatch, tryCatchThe, MonadExceptOf.tryCatch, ExceptT.tryCatch, ExceptT.mk, bind,
      StateT.bind]
    cases m s with
    | mk result next => cases result <;> rfl
  rw [hrun]
  cases Id.run (m.run.run s) with
  | mk result next =>
    cases result with
    | ok a =>
      constructor
      · rintro ⟨⟩
        exact .inl ⟨a, rfl, rfl⟩
      · rintro (⟨_, ⟨⟩, rfl⟩ | ⟨_, _, ⟨⟩, _⟩)
        rfl
    | error e =>
      constructor
      · intro h
        exact .inr ⟨e, next, rfl, h⟩
      · rintro (⟨_, ⟨⟩, _⟩ | ⟨_, _, ⟨⟩, h⟩)
        exact h

@[simp] theorem ends_pure_iff {α : Type} {a : α} {s s' : BuildState} {r : Except Failure α} :
    Ends (pure a) s r s' ↔ r = .ok a ∧ s' = s := by
  change (Except.ok a, s) = (r, s') ↔ _
  simp [eq_comm]

@[simp] theorem ends_failWith_iff {α : Type} {error : BuildError} {s s' : BuildState}
    {r : Except Failure α} : Ends (failWith error) s r s' ↔ r = .error (.build error) ∧ s' = s := by
  change (Except.error (Failure.build error), s) = (r, s') ↔ _
  simp [eq_comm]

@[simp] theorem ends_faultWith_iff {α : Type} {fault : Fault} {s s' : BuildState}
    {r : Except Failure α} : Ends (faultWith fault) s r s' ↔ r = .error (.fault fault) ∧ s' = s := by
  change (Except.error (Failure.fault fault), s) = (r, s') ↔ _
  simp [eq_comm]

@[simp] theorem ends_ofResult_iff {α : Type} {result r : Except Failure α} {s s' : BuildState} :
    Ends (ofResult result) s r s' ↔ r = result ∧ s' = s := by
  change (result, s) = (r, s') ↔ _
  simp [eq_comm]

@[simp] theorem ends_say_iff {level : Level} {text : String} {s s' : BuildState}
    {r : Except Failure Unit} :
    Ends (say level text) s r s' ↔
      r = .ok () ∧ s' = { s with messages := s.messages ++ [⟨level, text⟩] } := by
  change (Except.ok (), _) = (r, s') ↔ _
  simp [eq_comm]

theorem ends_say_pure {α : Type} {level : Level} {text : String} {a : α} {s : BuildState} :
    Ends (do say level text; pure a) s (.ok a)
      { s with messages := s.messages ++ [⟨level, text⟩] } :=
  ends_bind_ok_iff.mpr ⟨(), _, ends_say_iff.mpr ⟨rfl, rfl⟩, ends_pure_iff.mpr ⟨rfl, rfl⟩⟩

@[simp] theorem ends_look_iff {α : Type} {read : FileTree → Except Fault α} {s s' : BuildState}
    {r : Except Failure (Except Fault α)} :
    Ends (look read) s r s' ↔ r = .ok (read s.files) ∧ s' = s := by
  change (Except.ok (read s.files), s) = (r, s') ↔ _
  simp [eq_comm]

@[simp] theorem ends_changeAnyway_iff {f : FileTree → Except Fault Unit × FileTree}
    {s s' : BuildState} {r : Except Failure (Except Fault Unit)} :
    Ends (changeAnyway f) s r s' ↔
      r = .ok (f s.files).1 ∧ s' = { s with files := (f s.files).2 } := by
  change (Except.ok (f s.files).1, _) = (r, s') ↔ _
  simp [eq_comm]

/-- A change of the files that may fail makes the change or none. -/
theorem ends_change_iff {f : FileTree → Except Fault FileTree} {s s' : BuildState}
    {r : Except Failure (Except Fault Unit)} :
    Ends (change f) s r s' ↔
      (∃ files, f s.files = .ok files ∧ r = .ok (.ok ()) ∧ s' = { s with files }) ∨
      ∃ fault, f s.files = .error fault ∧ r = .ok (.error fault) ∧ s' = s := by
  cases hchange : f s.files with
  | ok files =>
    have hends : Ends (change f) s (.ok (.ok ())) { s with files } := by
      refine ends_bind_iff.mpr (.inr ⟨s, s, rfl, ?_⟩)
      rw [hchange]
      rfl
    refine ⟨fun h => .inl ⟨files, rfl, h.unique hends⟩, ?_⟩
    rintro (⟨_, ⟨⟩, rfl, rfl⟩ | ⟨_, ⟨⟩, -⟩)
    exact hends
  | error fault =>
    have hends : Ends (change f) s (.ok (.error fault)) s := by
      refine ends_bind_iff.mpr (.inr ⟨s, s, rfl, ?_⟩)
      rw [hchange]
      rfl
    refine ⟨fun h => .inr ⟨fault, rfl, h.unique hends⟩, ?_⟩
    rintro (⟨_, ⟨⟩, -⟩ | ⟨_, ⟨⟩, rfl, rfl⟩)
    exact hends

/-- A call is recorded with the answer that it is given. -/
theorem Ends.calls_call {runner : Command.Runner} {c : Command.Call} {s s' : BuildState}
    {r : Except Failure (Except Fault Command.Outcome)} (h : Ends (call runner c) s r s') :
    ∃ answer, r = .ok answer ∧ s'.calls = s.calls ++ [⟨c, answer⟩] := by
  obtain ⟨rfl, rfl⟩ : r = .ok (runner (s.calls.map (·.call)) c s.files).1 ∧ s' = _ := by
    change (Except.ok _, _) = (r, s') at h
    simpa [eq_comm] using h
  exact ⟨_, rfl, rfl⟩

/-- The answer to a call is the runner's, given the calls made before and the files. -/
theorem Ends.answer_call {runner : Command.Runner} {c : Command.Call} {s s' : BuildState}
    {answer : Except Fault Command.Outcome} (h : Ends (call runner c) s (.ok answer) s') :
    (runner (s.calls.map (·.call)) c s.files).1 = answer := by
  change (Except.ok _, _) = (_, _) at h
  simp only [Prod.mk.injEq, Except.ok.injEq] at h
  exact h.1

@[simp] theorem ends_orFault_ok_iff {α : Type} {a : α} {s s' : BuildState}
    {r : Except Failure α} : Ends (orFault (.ok a)) s r s' ↔ r = .ok a ∧ s' = s :=
  ends_pure_iff

@[simp] theorem ends_orFault_error_iff {α : Type} {fault : Fault} {s s' : BuildState}
    {r : Except Failure α} :
    Ends (orFault (.error fault)) s r s' ↔ r = .error (.fault fault) ∧ s' = s :=
  ends_faultWith_iff

/-- What becomes of a fault where errors of the operating system are taken on. -/
def failureOf (wrap : SystemError → BuildError) : Fault → Failure
  | .system e => .build (wrap e)
  | fault => .fault fault

@[simp] theorem ends_orSystem_ok_iff {α : Type} {wrap : SystemError → BuildError} {a : α}
    {s s' : BuildState} {r : Except Failure α} :
    Ends (orSystem wrap (.ok a)) s r s' ↔ r = .ok a ∧ s' = s :=
  ends_pure_iff

@[simp] theorem ends_orSystem_error_iff {α : Type} {wrap : SystemError → BuildError}
    {fault : Fault} {s s' : BuildState} {r : Except Failure α} :
    Ends (orSystem wrap (.error fault)) s r s' ↔ r = .error (failureOf wrap fault) ∧ s' = s := by
  cases fault with
  | system e => exact ends_failWith_iff
  | _ => exact ends_faultWith_iff

theorem eq_ok_of_toOption {ε α : Type} {x : Except ε α} {a : α} (h : x.toOption = some a) :
    x = .ok a := by
  cases x with
  | ok b => simpa [Except.toOption] using h
  | error e => simp [Except.toOption] at h

theorem ends_ok_of_toOption {α : Type} {m : Build α} {s : BuildState} {a : α}
    (h : (Id.run (m.run.run s)).1.toOption = some a) :
    Ends m s (.ok a) (Id.run (m.run.run s)).2 :=
  Prod.ext (eq_ok_of_toOption h) rfl

theorem exists_ends_ok {α : Type} {m : Build α} {s : BuildState} {a : α}
    (h : (Id.run (m.run.run s)).1.toOption = some a) : ∃ s', Ends m s (.ok a) s' :=
  ⟨_, ends_ok_of_toOption h⟩

end NativeExtension.Build

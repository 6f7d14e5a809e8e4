import NativeExtension.Proofs.Build.Ends

namespace NativeExtension.Build

variable {β : Type} {wrap : SystemError → BuildError} {rest : Build β} {s s' : BuildState}
  {r : Except Failure β}

/-- A change of the files that fails ends the step and changes none. -/
theorem changeOr_cases {f : FileTree → Except Fault FileTree}
    (h : Ends (do
      orSystem wrap (← change f)
      rest) s r s') :
    (∃ fault, f s.files = .error fault ∧ s' = s ∧ r = .error (failureOf wrap fault)) ∨
      ∃ files, f s.files = .ok files ∧ Ends rest { s with files } r s' := by
  obtain ⟨_, hchange, -⟩ | ⟨result, s₁, hchange, h⟩ := ends_bind_iff.mp h
  · simp [ends_change_iff] at hchange
  obtain ⟨files, hf, hresult, rfl⟩ | ⟨fault, hf, hresult, rfl⟩ := ends_change_iff.mp hchange
  · obtain rfl : result = .ok () := by simpa using hresult
    obtain ⟨_, hok, -⟩ | ⟨_, _, hok, h⟩ := ends_bind_iff.mp h
    · simp at hok
    · obtain ⟨-, rfl⟩ := ends_orSystem_ok_iff.mp hok
      exact .inr ⟨files, hf, h⟩
  · obtain rfl : result = .error fault := by simpa using hresult
    obtain ⟨failure, herror, rfl⟩ | ⟨_, _, herror, -⟩ := ends_bind_iff.mp h
    · obtain ⟨hfailure, rfl⟩ := ends_orSystem_error_iff.mp herror
      exact .inl ⟨fault, hf, rfl, by simpa using hfailure⟩
    · simp at herror

/-- A change of the files that stays done where it fails. -/
theorem changeAnywayOr_cases {f : FileTree → Except Fault Unit × FileTree}
    (h : Ends (do
      orSystem wrap (← changeAnyway f)
      rest) s r s') :
    (∃ fault, (f s.files).1 = .error fault ∧ s' = { s with files := (f s.files).2 } ∧
        r = .error (failureOf wrap fault)) ∨
      (f s.files).1 = .ok () ∧ Ends rest { s with files := (f s.files).2 } r s' := by
  obtain ⟨_, hchange, -⟩ | ⟨result, s₁, hchange, h⟩ := ends_bind_iff.mp h
  · simp at hchange
  obtain ⟨hresult, rfl⟩ := ends_changeAnyway_iff.mp hchange
  obtain rfl : result = (f s.files).1 := by simpa using hresult
  cases hf : (f s.files).1 with
  | ok =>
    rw [hf] at h
    obtain ⟨_, hok, -⟩ | ⟨_, _, hok, h⟩ := ends_bind_iff.mp h
    · simp at hok
    · obtain ⟨-, rfl⟩ := ends_orSystem_ok_iff.mp hok
      exact .inr ⟨rfl, h⟩
  | error fault =>
    rw [hf] at h
    obtain ⟨failure, herror, rfl⟩ | ⟨_, _, herror, -⟩ := ends_bind_iff.mp h
    · obtain ⟨hfailure, rfl⟩ := ends_orSystem_error_iff.mp herror
      exact .inl ⟨fault, rfl, rfl, by simpa using hfailure⟩
    · simp at herror

end NativeExtension.Build

import NativeExtension.Proofs.Build.Ends

namespace NativeExtension.Build

variable {args : List String} {stage : ToolStage} {limit : Option Seconds}
  {answer : Except Fault Command.Outcome} {outcome : Command.Outcome} {s s' : BuildState}

theorem toolResult_eq_ok (h : toolResult args stage limit answer = .ok outcome) :
    answer = .ok outcome ∧ outcome.ok = true := by
  unfold toolResult at h
  split at h
  next =>
    split at h
    next hok =>
      cases h
      exact ⟨rfl, hok⟩
    next => split at h <;> cases h
  next => cases h
  next => split at h <;> cases h
  next => cases h

theorem toolResult_eq_error {e : BuildError}
    (h : toolResult args stage limit answer = .error (.build e)) :
    ∃ cause, e = .tool stage args cause := by
  unfold toolResult at h
  split at h
  next =>
    split at h
    next => cases h
    next => split at h <;> cases h; exact ⟨_, rfl⟩
  next =>
    cases h
    exact ⟨_, rfl⟩
  next => split at h <;> cases h; exact ⟨_, rfl⟩
  next => cases h

/-- A tool fails in its stage, or with a fault that is neither the operating system's nor that of a
    command that took too long. -/
theorem toolResult_failure {failure : Failure} (hargs : args ≠ [])
    (h : toolResult args stage limit answer = .error failure) :
    (∃ cause, failure = .build (.tool stage args cause)) ∨
      ∃ fault, failure = .fault fault ∧ answer = .error fault ∧ (∀ e, fault ≠ .system e) ∧
        ∀ args limit, fault ≠ .expired args limit := by
  unfold toolResult at h
  split at h
  next =>
    split at h
    next => cases h
    next =>
      cases h
      exact .inl ⟨_, rfl⟩
  next =>
    cases h
    exact .inl ⟨_, rfl⟩
  next =>
    rw [if_neg hargs] at h
    cases h
    exact .inl ⟨_, rfl⟩
  next fault hexpired hsystem =>
    cases h
    exact .inr ⟨fault, rfl, rfl, fun e he => hsystem e he, fun a l he => hexpired a l he⟩

/-- A tool makes one call. It gives the outcome with which the call was answered, which is then a
    success, or fails its stage. -/
theorem runTool_cases {runner : Command.Runner} {r : Except Failure Command.Outcome}
    (h : Ends (runTool runner args stage limit) s r s') :
    ∃ a : Command.Answered, s'.calls = s.calls ++ [a] ∧ a.call = ⟨args, limit⟩ ∧
      (∀ outcome, r = .ok outcome → a.answer = .ok outcome ∧ a.succeeded = true) ∧
      ∀ e, r = .error (.build e) → ∃ cause, e = .tool stage args cause := by
  obtain ⟨_, hsay, -⟩ | ⟨_, s₁, hsay, h⟩ := ends_bind_iff.mp h
  · simp at hsay
  obtain ⟨_, hcall, -⟩ | ⟨answer, s₂, hcall, h⟩ := ends_bind_iff.mp h
  · obtain ⟨_, ⟨⟩, -⟩ := hcall.calls_call
  obtain ⟨_, ⟨⟩, hcalls⟩ := hcall.calls_call
  obtain ⟨rfl, rfl⟩ := ends_ofResult_iff.mp h
  obtain rfl : s₁ = _ := (ends_say_iff.mp hsay).2
  refine ⟨⟨⟨args, limit⟩, answer⟩, hcalls, rfl, ?_, fun e => toolResult_eq_error⟩
  intro outcome hresult
  obtain ⟨rfl, hok⟩ := toolResult_eq_ok hresult
  exact ⟨rfl, hok⟩

/-- A tool that succeeds gives the outcome with which the runner answers the call. -/
theorem runTool_answer {runner : Command.Runner}
    (h : Ends (runTool runner args stage limit) s (.ok outcome) s') :
    (runner (s.calls.map (·.call)) ⟨args, limit⟩ s.files).1 = .ok outcome := by
  obtain ⟨_, s₁, hsay, h⟩ := ends_bind_ok_iff.mp h
  obtain ⟨answer, s₂, hcall, h⟩ := ends_bind_ok_iff.mp h
  obtain ⟨-, rfl⟩ := ends_say_iff.mp hsay
  obtain rfl := hcall.answer_call
  exact (toolResult_eq_ok (ends_ofResult_iff.mp h).1.symm).1

/-- A tool ends with what the answer to its one call means for its stage. -/
theorem runTool_ends_toolResult (stage : ToolStage) {runner : Command.Runner} {files : FileTree}
    (h : runner (s.calls.map (·.call)) ⟨args, limit⟩ s.files = (answer, files)) :
    ∃ s', Ends (runTool runner args stage limit) s (toolResult args stage limit answer) s' ∧
      s'.files = files ∧ s'.calls = s.calls ++ [⟨⟨args, limit⟩, answer⟩] := by
  have hcall (said : List Message) : Ends (call runner ⟨args, limit⟩) { s with messages := said }
      (.ok (runner (s.calls.map (·.call)) ⟨args, limit⟩ s.files).1) _ := rfl
  rw [h] at hcall
  refine ⟨_, ends_bind_iff.mpr (.inr ⟨(), _, ends_say_iff.mpr ⟨rfl, rfl⟩,
    ends_bind_iff.mpr (.inr ⟨_, _, hcall _, ends_ofResult_iff.mpr ⟨rfl, rfl⟩⟩)⟩), ?_, ?_⟩
  · rw [h]
  · rw [h]

/-- A tool whose call is answered with a success. -/
theorem runTool_ends {runner : Command.Runner} {files : FileTree}
    (h : runner (s.calls.map (·.call)) ⟨args, limit⟩ s.files = (.ok outcome, files))
    (hok : outcome.ok = true) :
    ∃ s', Ends (runTool runner args stage limit) s (.ok outcome) s' ∧ s'.files = files ∧
      s'.calls = s.calls ++ [⟨⟨args, limit⟩, .ok outcome⟩] := by
  have hresult : toolResult args stage limit (.ok outcome) = .ok outcome := by
    simp [toolResult, hok]
  exact hresult ▸ runTool_ends_toolResult stage h

/-- A step that needs something to be there fails where it is not and otherwise goes on in the same
    state. -/
theorem need_cases {read : FileTree → Except Fault Bool} {error : BuildError} {β : Type}
    {m : Build β} {r : Except Failure β}
    (h : Ends (do
      if !(← orFault (← look read)) then failWith error
      m) s r s') :
    (s' = s ∧ ∃ fault, read s.files = .error fault ∧ r = .error (.fault fault)) ∨
      (s' = s ∧ read s.files = .ok false ∧ r = .error (.build error)) ∨
      read s.files = .ok true ∧ Ends m s r s' := by
  obtain ⟨_, hlook, -⟩ | ⟨found, s₁, hlook, hfound⟩ := ends_bind_iff.mp h
  · simp at hlook
  obtain ⟨hread, rfl⟩ := ends_look_iff.mp hlook
  obtain rfl : found = read s₁.files := by simpa using hread
  cases hanswer : read s₁.files with
  | error fault =>
    rw [hanswer] at hfound
    simp only [ends_bind_iff, ends_orFault_error_iff] at hfound
    obtain ⟨_, ⟨⟨⟩, rfl⟩, rfl⟩ | ⟨_, _, ⟨⟨⟩, _⟩, _⟩ := hfound
    exact .inl ⟨rfl, fault, rfl, rfl⟩
  | ok answer =>
    rw [hanswer] at hfound
    obtain ⟨_, hok, -⟩ | ⟨_, _, hok, hthen⟩ := ends_bind_iff.mp hfound
    · simp at hok
    obtain ⟨⟨⟩, rfl⟩ := ends_orFault_ok_iff.mp hok
    cases answer with
    | false =>
      obtain ⟨_, hfailed, rfl⟩ | ⟨_, _, hfailed, -⟩ := ends_bind_iff.mp hthen
      · obtain ⟨⟨⟩, rfl⟩ := ends_failWith_iff.mp hfailed
        exact .inr (.inl ⟨rfl, rfl, rfl⟩)
      · simp at hfailed
    | true => exact .inr (.inr ⟨rfl, hthen⟩)

theorem ends_need {read : FileTree → Except Fault Bool} {error : BuildError} {β : Type}
    {m : Build β} {r : Except Failure β} (hread : read s.files = .ok true) (h : Ends m s r s') :
    Ends (do
      if !(← orFault (← look read)) then failWith error
      m) s r s' := by
  refine ends_bind_iff.mpr (.inr ⟨_, s, ends_look_iff.mpr ⟨rfl, rfl⟩, ?_⟩)
  rw [hread]
  exact ends_bind_iff.mpr (.inr ⟨true, s, ends_orFault_ok_iff.mpr ⟨rfl, rfl⟩, h⟩)

end NativeExtension.Build

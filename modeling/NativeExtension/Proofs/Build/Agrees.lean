import NativeExtension.Proofs.Build.Tool
import NativeExtension.Proofs.Files.Matching

namespace NativeExtension.Build

variable {α β : Type} {P P' : FileTree → FileTree → Prop} {Q Q' : α → FileTree → FileTree → Prop}
  {R : β → FileTree → FileTree → Prop} {m : Build α} {f : α → Build β}

/-- Two states that differ in their files at most, and these are in a relation. -/
structure Beside (P : FileTree → FileTree → Prop) (s s' : BuildState) : Prop where
  calls : s'.calls = s.calls
  messages : s'.messages = s.messages
  files : P s.files s'.files

/-- A step that ends alike from two states: with the same failure, or with the same value, the same
    calls and messages, and files that are in a relation. -/
def EndsAlike (Q : α → FileTree → FileTree → Prop) (m : Build α) (s s' : BuildState) : Prop :=
  ∃ r t t', Ends m s r t ∧ Ends m s' r t' ∧ ∀ a, r = .ok a → Beside (Q a) t t'

/-- A step that ends alike from any two states whose files are in a relation. -/
structure Agrees (P : FileTree → FileTree → Prop) (m : Build α)
    (Q : α → FileTree → FileTree → Prop) : Prop where
  ends : ∀ {s s'}, Beside P s s' → EndsAlike Q m s s'

theorem EndsAlike.refl {s : BuildState} (hQ : ∀ a t, Q a t t) : EndsAlike Q m s s := by
  obtain ⟨r, t, ht⟩ := exists_ends m s
  exact ⟨r, t, t, ht, ht, fun a _ => ⟨rfl, rfl, hQ a _⟩⟩

theorem EndsAlike.bind {s s' : BuildState} (hm : EndsAlike Q m s s')
    (hf : ∀ a t, Ends m s (.ok a) t → Agrees (Q a) (f a) R) : EndsAlike R (m >>= f) s s' := by
  obtain ⟨r, t, t', ht, ht', hafter⟩ := hm
  cases r with
  | error e =>
    exact ⟨.error e, t, t', ends_bind_iff.mpr (.inl ⟨e, ht, rfl⟩),
      ends_bind_iff.mpr (.inl ⟨e, ht', rfl⟩), by simp⟩
  | ok a =>
    obtain ⟨r, u, u', hu, hu', hrest⟩ := (hf a t ht).ends (hafter a rfl)
    exact ⟨r, u, u', ends_bind_iff.mpr (.inr ⟨a, t, ht, hu⟩),
      ends_bind_iff.mpr (.inr ⟨a, t', ht', hu'⟩), hrest⟩

namespace Agrees

theorem bind (hm : Agrees P m Q) (hf : ∀ a, Agrees (Q a) (f a) R) : Agrees P (m >>= f) R :=
  ⟨fun hs => (hm.ends hs).bind fun a _ _ => hf a⟩

theorem mono (h : Agrees P m Q) (hP : ∀ t u, P' t u → P t u) (hQ : ∀ a t u, Q a t u → Q' a t u) :
    Agrees P' m Q' where
  ends hs := by
    obtain ⟨r, t, t', ht, ht', hafter⟩ := h.ends ⟨hs.calls, hs.messages, hP _ _ hs.files⟩
    refine ⟨r, t, t', ht, ht', fun a ha => ?_⟩
    have hend := hafter a ha
    exact ⟨hend.calls, hend.messages, hQ _ _ _ hend.files⟩

/-- A step that gives the same result in both states and does the same to both. -/
theorem of_ends {result : BuildState → Except Failure α} {after : BuildState → BuildState}
    (hends : ∀ s, Ends m s (result s) (after s))
    (hafter : ∀ s s', Beside P s s' → result s' = result s ∧
      ∀ a, result s = .ok a → Beside (Q a) (after s) (after s')) : Agrees P m Q where
  ends {s s'} hs := by
    obtain ⟨hresult, hfiles⟩ := hafter s s' hs
    exact ⟨result s, after s, after s', hends s, hresult ▸ hends s', hfiles⟩

protected theorem pure {a : α} (h : ∀ t u, P t u → Q a t u) : Agrees P (pure a) Q :=
  of_ends (fun _ => ends_pure_iff.mpr ⟨rfl, rfl⟩) fun _ _ hs =>
    ⟨rfl, by rintro _ ⟨⟩; exact ⟨hs.calls, hs.messages, h _ _ hs.files⟩⟩

theorem failWith (e : BuildError) : Agrees P (failWith e : Build α) Q :=
  of_ends (fun _ => ends_failWith_iff.mpr ⟨rfl, rfl⟩) fun _ _ _ => ⟨rfl, by simp⟩

theorem faultWith (fault : Fault) : Agrees P (faultWith fault : Build α) Q :=
  of_ends (fun _ => ends_faultWith_iff.mpr ⟨rfl, rfl⟩) fun _ _ _ => ⟨rfl, by simp⟩

theorem say (level : Level) (text : String) : Agrees P (say level text) fun _ => P :=
  of_ends (fun _ => ends_say_iff.mpr ⟨rfl, rfl⟩) fun _ _ hs =>
    ⟨rfl, fun _ _ => ⟨hs.calls, by rw [hs.messages], hs.files⟩⟩

theorem ofResult {result : Except Failure α} (h : ∀ a t u, result = .ok a → P t u → Q a t u) :
    Agrees P (ofResult result) Q :=
  of_ends (fun _ => ends_ofResult_iff.mpr ⟨rfl, rfl⟩) fun _ _ hs =>
    ⟨rfl, fun a ha => ⟨hs.calls, hs.messages, h a _ _ ha hs.files⟩⟩

theorem look {read : FileTree → Except Fault α} (h : ∀ t u, P t u → read u = read t) :
    Agrees P (look read) fun _ => P :=
  of_ends (fun _ => ends_look_iff.mpr ⟨rfl, rfl⟩) fun s s' hs =>
    ⟨by rw [h _ _ hs.files], fun _ _ => hs⟩

theorem orFault (result : Except Fault α) : Agrees P (orFault result) fun _ => P := by
  cases result with
  | ok a => exact .pure fun _ _ => id
  | error fault => exact .faultWith fault

theorem orRead (wrap : ReadError → BuildError) (result : Except Fault α) :
    Agrees P (orRead wrap result) fun _ => P := by
  cases result with
  | ok a => exact .pure fun _ _ => id
  | error fault =>
    cases fault with
    | system e => exact .failWith _
    | undecodable e => exact .failWith _
    | _ => exact .faultWith _

/-- A step that may fail with an error of the operating system and otherwise goes on. -/
theorem orSystem {wrap : SystemError → BuildError} {result : Except Fault α}
    (h : ∀ a, result = .ok a → ∀ t u, P t u → Q a t u) : Agrees P (orSystem wrap result) Q := by
  cases result with
  | ok a => exact .pure (h a rfl)
  | error fault =>
    cases fault with
    | system e => exact .failWith _
    | _ => exact .faultWith _

theorem need {read : FileTree → Except Fault Bool} {error : BuildError}
    (hread : ∀ t u, P t u → read u = read t) (hm : Agrees P m Q) :
    Agrees P (do
      if !(← Build.orFault (← Build.look read)) then Build.failWith error
      m) Q := by
  refine .bind (.look hread) fun result => .bind (.orFault result) fun found => ?_
  cases found with
  | false => exact .bind (Q := fun _ => P) (.failWith error) fun _ => hm
  | true => exact hm

theorem change {f : FileTree → Except Fault FileTree} {S : FileTree → FileTree → Prop}
    (h : ∀ t u, P t u → Matching S (f t) (f u)) :
    Agrees P (change f) fun result t u => result = .ok () → S t u where
  ends {s s'} hs := by
    obtain ⟨t, u, ht, hu, hrest⟩ | ⟨fault, ht, hu⟩ := (h _ _ hs.files).ok_or_error
    · exact ⟨_, _, _, ends_change_iff.mpr (.inl ⟨t, ht, rfl, rfl⟩),
        ends_change_iff.mpr (.inl ⟨u, hu, rfl, rfl⟩),
        fun _ _ => ⟨hs.calls, hs.messages, fun _ => hrest⟩⟩
    · refine ⟨_, _, _, ends_change_iff.mpr (.inr ⟨fault, ht, rfl, rfl⟩),
        ends_change_iff.mpr (.inr ⟨fault, hu, rfl, rfl⟩), ?_⟩
      rintro _ ⟨⟩
      exact ⟨hs.calls, hs.messages, by simp⟩

theorem changeOr {wrap : SystemError → BuildError} {f : FileTree → Except Fault FileTree}
    {S : FileTree → FileTree → Prop} {rest : Build β}
    (h : ∀ t u, P t u → Matching S (f t) (f u)) (hrest : Agrees S rest R) :
    Agrees P (do
      Build.orSystem wrap (← Build.change f)
      rest) R :=
  .bind (.change h) fun _ => .bind (.orSystem fun _ hok _ _ hS => hS hok) fun _ => hrest

theorem changeAnyway {f : FileTree → Except Fault Unit × FileTree} {S : FileTree → FileTree → Prop}
    (h : ∀ t u, P t u → (f u).1 = (f t).1 ∧ ((f t).1 = .ok () → S (f t).2 (f u).2)) :
    Agrees P (changeAnyway f) fun result t u => result = .ok () → S t u := by
  refine of_ends (fun _ => ends_changeAnyway_iff.mpr ⟨rfl, rfl⟩) fun s s' hs => ?_
  obtain ⟨hresult, hfiles⟩ := h _ _ hs.files
  refine ⟨by rw [hresult], ?_⟩
  rintro _ ⟨⟩
  exact ⟨hs.calls, hs.messages, hfiles⟩

theorem changeAnywayOr {wrap : SystemError → BuildError}
    {f : FileTree → Except Fault Unit × FileTree} {S : FileTree → FileTree → Prop} {rest : Build β}
    (h : ∀ t u, P t u → (f u).1 = (f t).1 ∧ ((f t).1 = .ok () → S (f t).2 (f u).2))
    (hrest : Agrees S rest R) :
    Agrees P (do
      Build.orSystem wrap (← Build.changeAnyway f)
      rest) R :=
  .bind (.changeAnyway h) fun _ => .bind (.orSystem fun _ hok _ _ hS => hS hok) fun _ => hrest

/-- A tool that is run by a runner that gives the same answers in both trees. -/
theorem runTool {runner : Command.Runner} {args : List String} {limit : Option Seconds}
    {S : FileTree → FileTree → Prop} (stage : ToolStage)
    (h : ∀ earlier t u, P t u →
      (runner earlier ⟨args, limit⟩ u).1 = (runner earlier ⟨args, limit⟩ t).1 ∧
      ∀ outcome, (runner earlier ⟨args, limit⟩ t).1 = .ok outcome → outcome.ok = true →
        S (runner earlier ⟨args, limit⟩ t).2 (runner earlier ⟨args, limit⟩ u).2) :
    Agrees P (Build.runTool runner args stage limit) fun _ => S := by
  have hcall : Agrees P (Build.call runner ⟨args, limit⟩) fun answer t u =>
      ∀ outcome, answer = .ok outcome → outcome.ok = true → S t u := by
    refine of_ends (fun _ => rfl) fun s s' hs => ?_
    obtain ⟨hanswer, hfiles⟩ := h (s.calls.map (·.call)) _ _ hs.files
    rw [hs.calls]
    refine ⟨by simpa using hanswer, ?_⟩
    rintro _ ⟨⟩
    exact ⟨by simp [hanswer], hs.messages, hfiles⟩
  refine .bind (.say ..) fun _ => .bind hcall fun answer => .ofResult fun outcome t u hok hS => ?_
  obtain ⟨hanswer, hsucceeded⟩ := toolResult_eq_ok hok
  exact hS outcome hanswer hsucceeded

end Agrees

end NativeExtension.Build

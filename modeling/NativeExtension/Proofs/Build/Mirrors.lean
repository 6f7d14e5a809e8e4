import NativeExtension.Proofs.Build.Tool

namespace NativeExtension.Build

/-- Calls but for those whose arguments are among the given ones. -/
def unasked (asked : List (List String)) (calls : List Command.Call) : List Command.Call :=
  calls.filter fun c => c.args ∉ asked

/-- What is recorded of the calls but for those whose arguments are among the given ones. -/
def withoutCalls (asked : List (List String)) (calls : List Command.Answered) :
    List Command.Answered :=
  calls.filter fun a => a.call.args ∉ asked

/-- The runner behind one that answers some commands itself: it is run for the others, and sees no
    calls but those. -/
def Behind (asked : List (List String)) (runner inner : Command.Runner) : Prop :=
  ∀ earlier c t, c.args ∉ asked →
    runner earlier c t = inner (unasked asked earlier) c t

variable {α β : Type} {asked : List (List String)} {m m' : Build α} {f f' : α → Build β}

/-- Two states with the same files, where the second lacks the calls that are asked in the first
    only. What was said may differ. -/
structure Without (asked : List (List String)) (s s' : BuildState) : Prop where
  files : s'.files = s.files
  calls : s'.calls = withoutCalls asked s.calls

/-- Two steps that end alike, one of which does without some calls of the other. -/
structure Mirrors (asked : List (List String)) (m m' : Build α) : Prop where
  ends : ∀ {s s'}, Without asked s s' →
    ∃ r t t', Ends m s r t ∧ Ends m' s' r t' ∧ Without asked t t'

namespace Mirrors

theorem bind (hm : Mirrors asked m m') (hf : ∀ a, Mirrors asked (f a) (f' a)) :
    Mirrors asked (m >>= f) (m' >>= f') where
  ends hs := by
    obtain ⟨r, t, t', ht, ht', hafter⟩ := hm.ends hs
    cases r with
    | error e =>
      exact ⟨.error e, t, t', ends_bind_iff.mpr (.inl ⟨e, ht, rfl⟩),
        ends_bind_iff.mpr (.inl ⟨e, ht', rfl⟩), hafter⟩
    | ok a =>
      obtain ⟨r, u, u', hu, hu', hrest⟩ := (hf a).ends hafter
      exact ⟨r, u, u', ends_bind_iff.mpr (.inr ⟨a, t, ht, hu⟩),
        ends_bind_iff.mpr (.inr ⟨a, t', ht', hu'⟩), hrest⟩

/-- A step that gives the same result in both states and does the same to both. -/
theorem of_ends {result : BuildState → Except Failure α} {after : BuildState → BuildState}
    (hends : ∀ s, Ends m s (result s) (after s))
    (hafter : ∀ s s', Without asked s s' →
      result s' = result s ∧ Without asked (after s) (after s')) : Mirrors asked m m where
  ends {s s'} hs := by
    obtain ⟨hresult, hwithout⟩ := hafter s s' hs
    exact ⟨result s, after s, after s', hends s, hresult ▸ hends s', hwithout⟩

protected theorem pure (a : α) : Mirrors asked (pure a) (pure a) :=
  of_ends (fun _ => ends_pure_iff.mpr ⟨rfl, rfl⟩) fun _ _ hs => ⟨rfl, hs⟩

theorem failWith (e : BuildError) : Mirrors asked (failWith e : Build α) (failWith e) :=
  of_ends (fun _ => ends_failWith_iff.mpr ⟨rfl, rfl⟩) fun _ _ hs => ⟨rfl, hs⟩

theorem faultWith (fault : Fault) : Mirrors asked (faultWith fault : Build α) (faultWith fault) :=
  of_ends (fun _ => ends_faultWith_iff.mpr ⟨rfl, rfl⟩) fun _ _ hs => ⟨rfl, hs⟩

theorem ofResult (result : Except Failure α) : Mirrors asked (ofResult result) (ofResult result) :=
  of_ends (fun _ => ends_ofResult_iff.mpr ⟨rfl, rfl⟩) fun _ _ hs => ⟨rfl, hs⟩

theorem say (level : Level) (text : String) : Mirrors asked (say level text) (say level text) :=
  of_ends (fun _ => ends_say_iff.mpr ⟨rfl, rfl⟩) fun _ _ hs => ⟨rfl, hs.files, hs.calls⟩

theorem look (read : FileTree → Except Fault α) : Mirrors asked (look read) (look read) :=
  of_ends (fun _ => ends_look_iff.mpr ⟨rfl, rfl⟩) fun _ _ hs => ⟨by rw [hs.files], hs⟩

theorem changeAnyway (f : FileTree → Except Fault Unit × FileTree) :
    Mirrors asked (changeAnyway f) (changeAnyway f) :=
  of_ends (fun _ => ends_changeAnyway_iff.mpr ⟨rfl, rfl⟩) fun _ _ hs =>
    ⟨by rw [hs.files], by rw [hs.files], hs.calls⟩

theorem change (f : FileTree → Except Fault FileTree) :
    Mirrors asked (change f) (change f) where
  ends {s s'} hs := by
    cases hchange : f s.files with
    | ok files =>
      have hchange' : f s'.files = .ok files := hs.files ▸ hchange
      exact ⟨_, _, _, ends_change_iff.mpr (.inl ⟨files, hchange, rfl, rfl⟩),
        ends_change_iff.mpr (.inl ⟨files, hchange', rfl, rfl⟩), rfl, hs.calls⟩
    | error fault =>
      have hchange' : f s'.files = .error fault := hs.files ▸ hchange
      exact ⟨_, _, _, ends_change_iff.mpr (.inr ⟨fault, hchange, rfl, rfl⟩),
        ends_change_iff.mpr (.inr ⟨fault, hchange', rfl, rfl⟩), hs⟩

theorem orFault (result : Except Fault α) : Mirrors asked (orFault result) (orFault result) := by
  cases result with
  | ok a => exact .pure a
  | error fault => exact .faultWith fault

theorem orSystem (wrap : SystemError → BuildError) (result : Except Fault α) :
    Mirrors asked (orSystem wrap result) (orSystem wrap result) := by
  cases result with
  | ok a => exact .pure a
  | error fault =>
    cases fault with
    | system e => exact .failWith _
    | _ => exact .faultWith _

theorem orRead (wrap : ReadError → BuildError) (result : Except Fault α) :
    Mirrors asked (orRead wrap result) (orRead wrap result) := by
  cases result with
  | ok a => exact .pure a
  | error fault =>
    cases fault with
    | system e => exact .failWith _
    | undecodable e => exact .failWith _
    | _ => exact .faultWith _

theorem need (read : FileTree → Except Fault Bool) (error : BuildError)
    (hm : Mirrors asked m m') :
    Mirrors asked
      (do
        if !(← Build.orFault (← Build.look read)) then Build.failWith error
        m)
      (do
        if !(← Build.orFault (← Build.look read)) then Build.failWith error
        m') := by
  refine .bind (.look read) fun result => .bind (.orFault result) fun found => ?_
  cases found with
  | false => exact .bind (.failWith error) fun _ => hm
  | true => exact hm

/-- A tool that is not among the commands asked is run by the inner runner in the same way. -/
theorem runTool {runner inner : Command.Runner} (hinner : Behind asked runner inner)
    {args : List String} (hargs : args ∉ asked) (stage : ToolStage) (limit : Option Seconds) :
    Mirrors asked (runTool runner args stage limit) (Build.runTool inner args stage limit) := by
  have hcall : Mirrors asked (call runner ⟨args, limit⟩) (call inner ⟨args, limit⟩) := by
    constructor
    intro s s' hs
    have hearlier : s'.calls.map (·.call) = unasked asked (s.calls.map (·.call)) := by
      rw [hs.calls, withoutCalls, unasked, List.filter_map]
      rfl
    have hanswer : inner (s'.calls.map (·.call)) ⟨args, limit⟩ s'.files =
        runner (s.calls.map (·.call)) ⟨args, limit⟩ s.files := by
      rw [hinner _ _ _ hargs, hearlier, hs.files]
    have hends : Ends (call inner ⟨args, limit⟩) s'
        (.ok (inner (s'.calls.map (·.call)) ⟨args, limit⟩ s'.files).1) _ := rfl
    rw [hanswer] at hends
    refine ⟨_, _, _, rfl, hends, rfl, ?_⟩
    simp [hs.calls, withoutCalls, List.filter_append, hargs]
  exact .bind (.say ..) fun _ => .bind hcall fun _ => .ofResult _

end Mirrors

end NativeExtension.Build

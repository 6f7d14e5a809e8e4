import NativeExtension.Proofs.Build.Tool

namespace NativeExtension.Build

variable {α β : Type} {P : FileTree → Prop} {m : Build α} {f : α → Build β}

/-- A step that, however it ends, leaves files with a property where it found such files. -/
structure Preserves (P : FileTree → Prop) (m : Build α) : Prop where
  files : ∀ {s s' r}, Ends m s r s' → P s.files → P s'.files

namespace Preserves

theorem of_ends {result : BuildState → Except Failure α} {after : BuildState → BuildState}
    (hends : ∀ s, Ends m s (result s) (after s)) (hfiles : ∀ s, P s.files → P (after s).files) :
    Preserves P m where
  files h hP := by
    obtain ⟨-, rfl⟩ := h.unique (hends _)
    exact hfiles _ hP

theorem bind (hm : Preserves P m) (hf : ∀ a, Preserves P (f a)) : Preserves P (m >>= f) where
  files h hP := by
    obtain ⟨e, hfailed, -⟩ | ⟨a, s₁, hfirst, hrest⟩ := ends_bind_iff.mp h
    · exact hm.files hfailed hP
    · exact (hf a).files hrest (hm.files hfirst hP)

protected theorem pure (a : α) : Preserves P (pure a) :=
  of_ends (fun _ => ends_pure_iff.mpr ⟨rfl, rfl⟩) fun _ => id

theorem failWith (e : BuildError) : Preserves P (failWith e : Build α) :=
  of_ends (fun _ => ends_failWith_iff.mpr ⟨rfl, rfl⟩) fun _ => id

theorem faultWith (fault : Fault) : Preserves P (faultWith fault : Build α) :=
  of_ends (fun _ => ends_faultWith_iff.mpr ⟨rfl, rfl⟩) fun _ => id

theorem ofResult (result : Except Failure α) : Preserves P (ofResult result) :=
  of_ends (fun _ => ends_ofResult_iff.mpr ⟨rfl, rfl⟩) fun _ => id

theorem say (level : Level) (text : String) : Preserves P (say level text) :=
  of_ends (fun _ => ends_say_iff.mpr ⟨rfl, rfl⟩) fun _ => id

theorem look (read : FileTree → Except Fault α) : Preserves P (look read) :=
  of_ends (fun _ => ends_look_iff.mpr ⟨rfl, rfl⟩) fun _ => id

theorem change {f : FileTree → Except Fault FileTree} (hf : ∀ t u, P t → f t = .ok u → P u) :
    Preserves P (change f) where
  files h hP := by
    obtain ⟨u, hchange, -, rfl⟩ | ⟨_, -, -, rfl⟩ := ends_change_iff.mp h
    · exact hf _ u hP hchange
    · exact hP

theorem orSystem (wrap : SystemError → BuildError) (result : Except Fault α) :
    Preserves P (orSystem wrap result) := by
  cases result with
  | ok a => exact .pure a
  | error fault =>
    cases fault with
    | system e => exact .failWith _
    | _ => exact .faultWith _

theorem orRead (wrap : ReadError → BuildError) (result : Except Fault α) :
    Preserves P (orRead wrap result) := by
  cases result with
  | ok a => exact .pure a
  | error fault =>
    cases fault with
    | system e => exact .failWith _
    | undecodable e => exact .failWith _
    | _ => exact .faultWith _

theorem runTool {runner : Command.Runner} {args : List String} {limit : Option Seconds}
    (stage : ToolStage) (hrunner : ∀ earlier t, P t → P (runner earlier ⟨args, limit⟩ t).2) :
    Preserves P (runTool runner args stage limit) := by
  refine .bind (.say ..) fun _ => .bind ?_ fun _ => .ofResult _
  exact of_ends (fun _ => rfl) fun s => hrunner (s.calls.map (·.call)) s.files

theorem need {read : FileTree → Except Fault Bool} {error : BuildError} (hm : Preserves P m) :
    Preserves P (do
      if !(← Build.orFault (← Build.look read)) then Build.failWith error
      m) where
  files h hP := by
    obtain ⟨rfl, -⟩ | ⟨rfl, -⟩ | ⟨-, h⟩ := need_cases h
    · exact hP
    · exact hP
    · exact hm.files h hP

end Preserves

end NativeExtension.Build

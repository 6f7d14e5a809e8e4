import NativeExtension.Proofs.Build.Quiet
import NativeExtension.Proofs.Build.Tool

namespace NativeExtension

/-- From one state to another, calls with a property were recorded behind those made before. -/
def BuildState.Adds (P : Command.Call → Prop) (s s' : BuildState) : Prop :=
  ∃ made, s'.calls = s.calls ++ made ∧ ∀ a ∈ made, P a.call

namespace BuildState.Adds

variable {P : Command.Call → Prop} {s s₁ s' : BuildState}

theorem of_calls_eq (h : s'.calls = s.calls) : Adds P s s' := ⟨[], by simpa using h, by simp⟩

theorem trans (h : Adds P s s₁) (h' : Adds P s₁ s') : Adds P s s' := by
  obtain ⟨first, hcalls, hall⟩ := h
  obtain ⟨rest, hcalls', hall'⟩ := h'
  refine ⟨first ++ rest, by rw [hcalls', hcalls, List.append_assoc], fun a ha => ?_⟩
  exact (List.mem_append.mp ha).elim (hall a) (hall' a)

end BuildState.Adds

namespace Build

open BuildState

variable {α β : Type} {P : Command.Call → Prop} {m : Build α} {f : α → Build β}

/-- A step that, however it ends, makes only calls with a property. -/
structure Records (P : Command.Call → Prop) (m : Build α) : Prop where
  adds : ∀ {s s' r}, Ends m s r s' → Adds P s s'

namespace Records

theorem of_quiet {kind : BuildError → Prop} (h : Quiet kind m) : Records P m where
  adds hends := .of_calls_eq (h.calls_eq hends)

theorem mono {Q : Command.Call → Prop} (hm : Records P m) (h : ∀ c, P c → Q c) : Records Q m where
  adds hends := by
    obtain ⟨made, hcalls, hall⟩ := hm.adds hends
    exact ⟨made, hcalls, fun a ha => h a.call (hall a ha)⟩

/-- A step that runs no command, whatever it fails with. -/
theorem silent (h : Quiet (fun _ => True) m) : Records P m := of_quiet h

theorem bind (hm : Records P m) (hf : ∀ a, Records P (f a)) : Records P (m >>= f) where
  adds h := by
    obtain ⟨e, hfailed, -⟩ | ⟨a, s₁, hfirst, hrest⟩ := ends_bind_iff.mp h
    · exact hm.adds hfailed
    · exact (hm.adds hfirst).trans ((hf a).adds hrest)

theorem tryCatch {handle : Failure → Build α} (hm : Records P m)
    (hhandle : ∀ e, Records P (handle e)) : Records P (tryCatch m handle) where
  adds h := by
    obtain ⟨a, hended, -⟩ | ⟨e, s₁, hfailed, hhandled⟩ := ends_tryCatch_iff.mp h
    · exact hm.adds hended
    · exact (hm.adds hfailed).trans ((hhandle e).adds hhandled)

theorem runTool {runner : Command.Runner} {args : List String} {limit : Option Seconds}
    (stage : ToolStage) (h : P ⟨args, limit⟩) : Records P (runTool runner args stage limit) where
  adds hends := by
    obtain ⟨a, hcalls, hcall, -⟩ := runTool_cases hends
    refine ⟨[a], hcalls, fun b hb => ?_⟩
    obtain rfl : b = a := by simpa using hb
    rwa [hcall]

theorem need {read : FileTree → Except Fault Bool} {error : BuildError} (hm : Records P m) :
    Records P (do
      if !(← Build.orFault (← Build.look read)) then Build.failWith error
      m) where
  adds h := by
    obtain ⟨rfl, -⟩ | ⟨rfl, -⟩ | ⟨-, h⟩ := need_cases h
    · exact .of_calls_eq rfl
    · exact .of_calls_eq rfl
    · exact hm.adds h

end Records

end Build

end NativeExtension

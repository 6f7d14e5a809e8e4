import NativeExtension.Proofs.Build.Agrees
import NativeExtension.Proofs.Command.Determined
import NativeExtension.Proofs.Host.Serves

namespace NativeExtension.HostLayout

open Build FileTree

/-- A way to ask for a directory whose answer depends on what is read only. -/
def SteadyQuestion (inputs : List String) (m : Build Path) : Prop :=
  Agrees (SameContents inputs) m fun _ _ _ => True

/-- A host whose answers depend on what is read only, and not on files that a build leaves. -/
structure Steady (host : HostLayout) (inputs : List String) : Prop where
  headers : SteadyQuestion inputs host.headers
  modules : SteadyQuestion inputs host.modules
  shared : SteadyQuestion inputs host.shared

theorem fixed_steady (d : ServerDirectories) (inputs : List String) : (fixed d).Steady inputs :=
  ⟨.pure fun _ _ _ => trivial, .pure fun _ _ _ => trivial, .pure fun _ _ _ => trivial⟩

section Query

variable {executable : String} {runner : Command.Runner} {limit : Option Seconds}
  {inputs : List String}

theorem query_steady (h : runner.Determined inputs) (flag : String) :
    SteadyQuestion inputs (query executable runner limit flag) := by
  have hcommand {t u : FileTree} (htu : SameContents inputs t u) :
      Command.SameTo inputs ⟨[executable, flag], limit⟩ t u :=
    ⟨htu, by simp [Command.linked?], by simp [Command.output?], by simp [Command.output?]⟩
  have htool : Agrees (SameContents inputs) (runTool runner [executable, flag] .hostConfig limit)
      fun _ _ _ => True :=
    .runTool _ fun earlier t u htu => ⟨h.answer earlier _ t u (hcommand htu), by simp⟩
  refine .bind htool fun outcome => ?_
  split
  · exact .failWith _
  · exact .bind (.say ..) fun _ => .pure fun _ _ => id

theorem queried_steady (h : runner.Determined inputs) :
    (queried executable runner limit).Steady inputs :=
  ⟨query_steady h _, query_steady h _, query_steady h _⟩

end Query

/-- What files have in common that are not changed is kept where they are asked about. -/
theorem Question.agrees {allowed : Path → Prop} {m : Build Path} {inputs : List String}
    {P : FileTree → FileTree → Prop} (h : Question allowed m) (hsteady : SteadyQuestion inputs m)
    (hinputs : ∀ t u, P t u → SameContents inputs t u)
    (hkept : ∀ t u t' u', P t u → WritesOnly [] t t' → WritesOnly [] u u' → P t' u') :
    Agrees P m fun p t u => allowed p ∧ P t u where
  ends {s s'} hs := by
    obtain ⟨r, t, t', ht, ht', hafter⟩ :=
      hsteady.ends ⟨hs.calls, hs.messages, hinputs _ _ hs.files⟩
    refine ⟨r, t, t', ht, ht', ?_⟩
    rintro p rfl
    obtain ⟨hcalls, hmessages, -⟩ := hafter p rfl
    exact ⟨hcalls, hmessages, h.answer ht, hkept _ _ _ _ hs.files (h.files ht) (h.files ht')⟩

end NativeExtension.HostLayout

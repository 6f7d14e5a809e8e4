import Mathlib.Data.List.Sort
import NativeExtension.Proofs.Build.Ends
import NativeExtension.Proofs.Text.Sorted
import NativeExtension.Scan

namespace NativeExtension

namespace Registration

section Repeated

variable {names listed : List String}

end Repeated

end Registration

namespace Scan

open Build Registration

/-- The messages about repeated names. -/
def warnings (names : List String) : List Message :=
  (warning? names).toList.map fun text => ⟨.warning, text⟩

/-- Generating the source succeeds and says no more than what there is to warn about. -/
theorem wrapper_ends (names : List String) (s : BuildState) :
    Ends (wrapper names) s (.ok (source names))
      { s with messages := s.messages ++ warnings names } := by
  unfold wrapper warnings
  cases warning? names with
  | none => exact ends_pure_iff.mpr ⟨rfl, by simp⟩
  | some text => exact ends_say_pure

end Scan

end NativeExtension

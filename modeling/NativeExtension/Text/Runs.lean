/-!
Classes of characters, given as runs of consecutive code points.
-/
namespace NativeExtension.Text

/-- Whether a code point lies in one of the runs, each given by its first and last code point. -/
def inRuns (runs : List (Nat × Nat)) (n : Nat) : Bool :=
  runs.any fun (first, last) => first ≤ n && n ≤ last

end NativeExtension.Text

import NativeExtension.Number.Shortest

/-!
How long a command may take.
-/
namespace NativeExtension

/-- A span of time in seconds, as it was given: a whole number, or one with a fraction. -/
inductive Seconds where
  | whole (n : Int)
  | real (x : Binary64)
  deriving DecidableEq, Repr

namespace Seconds

/-- The text of a span. -/
def text : Seconds → String
  | .whole n => toString n
  | .real x => x.text

/-- The text of a limit where there need be none. -/
def textOrNone : Option Seconds → String
  | none => "None"
  | some t => t.text

/-- Whether a span is zero or below. What is no number is not. -/
def isNonPositive : Seconds → Bool
  | .whole n => n ≤ 0
  | .real x => x.isNonPositive

/-- Whether a span, in millionths of a second, is at most `micros`. -/
def withinMicros (micros : Nat) : Seconds → Bool
  | .whole n => n * 1000000 ≤ micros
  | .real (.finite negative significand exponent) =>
    negative ||
      match exponent with
      | .ofNat e => (significand <<< e) * 1000000 ≤ micros
      | .negSucc e => significand * 1000000 ≤ micros <<< (e + 1)
  | .real (.infinite negative) => negative
  | .real .notANumber => false

end Seconds

end NativeExtension

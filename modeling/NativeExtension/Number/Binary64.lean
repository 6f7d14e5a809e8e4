/-!
Binary floating-point numbers of sixty-four bits as exact values, and the nearest one to a decimal
numeral. All arithmetic is on natural numbers.
-/
namespace NativeExtension

/-- A number of sixty-four bits: `significand * 2 ^ exponent` with a sign, an infinity, or none. -/
inductive Binary64 where
  | finite (negative : Bool) (significand : Nat) (exponent : Int)
  | infinite (negative : Bool)
  | notANumber
  deriving DecidableEq, Repr

namespace Binary64

/-- Significands of normal numbers start here and end below its double. -/
def hiddenBit : Nat := 1 <<< 52

/-- The exponent of the subnormal numbers. -/
def leastExponent : Int := -1074

/-- The exponent of the largest finite numbers. -/
def greatestExponent : Int := 971

/-- Zero. -/
def zero (negative : Bool) : Binary64 := .finite negative 0 leastExponent

/-- `num / den` to the nearest integer; a half goes to the even neighbour. -/
def roundHalfEven (num den : Nat) : Nat :=
  let q := num / den
  let twice := 2 * (num % den)
  if twice < den then q
  else if twice > den then q + 1
  else if q % 2 = 0 then q else q + 1

/-- The fraction `num / den` divided by a power of two, as another fraction. -/
def scaleDown (num den : Nat) (exponent : Int) : Nat × Nat :=
  match exponent with
  | .ofNat e => (num, den <<< e)
  | .negSucc e => (num <<< (e + 1), den)

/-- The number nearest to the positive fraction `num / den`. -/
def ofFraction (negative : Bool) (num den : Nat) : Binary64 :=
  let guess : Int := (Nat.log2 num : Int) - Nat.log2 den - 52
  let (n, d) := scaleDown num den guess
  let tight := if n < hiddenBit * d then guess - 1 else guess
  let exponent := max tight leastExponent
  let (n, d) := scaleDown num den exponent
  let rounded := roundHalfEven n d
  let (significand, exponent) :=
    if rounded = 2 * hiddenBit then (hiddenBit, exponent + 1) else (rounded, exponent)
  if exponent > greatestExponent then .infinite negative
  else .finite negative significand exponent

/-- The number nearest to `digits * 10 ^ power`. Numerals far beyond the range are decided by their
    size alone, so that no needless power of ten is built. -/
def ofDecimal (negative : Bool) (digits : Nat) (power : Int) : Binary64 :=
  if digits = 0 then zero negative
  else
    let magnitude := ((Nat.toDigits 10 digits).length : Int) + power
    if magnitude > 310 then .infinite negative
    else if magnitude < -330 then zero negative
    else
      match power with
      | .ofNat p => ofFraction negative (digits * Nat.pow 10 p) 1
      | .negSucc p => ofFraction negative digits (Nat.pow 10 (p + 1))

/-- Whether a number is zero or below. What is no number is not. -/
def isNonPositive : Binary64 → Bool
  | .finite negative significand _ => negative || significand == 0
  | .infinite negative => negative
  | .notANumber => false

end Binary64

end NativeExtension

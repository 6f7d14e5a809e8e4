import NativeExtension.Number.Binary64

/-!
Decimal text of binary floating-point numbers: the fewest digits that read back as the same number,
and among those the nearest.
-/
namespace NativeExtension.Binary64

/-- A positive fraction. -/
structure Fraction where
  num : Nat
  den : Nat
  deriving DecidableEq, Repr

/-- Whether one fraction is below another. -/
def Fraction.less (a b : Fraction) : Bool := a.num * b.den < b.num * a.den

/-- `n * 2 ^ e` as a fraction. -/
def Fraction.ofScaled (n : Nat) (e : Int) : Fraction :=
  match e with
  | .ofNat e => ⟨n <<< e, 1⟩
  | .negSucc e => ⟨n, 1 <<< (e + 1)⟩

/-- `n * 10 ^ p` as a fraction. -/
def Fraction.ofDecimal (n : Nat) (p : Int) : Fraction :=
  match p with
  | .ofNat p => ⟨n * Nat.pow 10 p, 1⟩
  | .negSucc p => ⟨n, Nat.pow 10 (p + 1)⟩

/-- The fractions that round to a number: those between the two bounds, the bounds included when the
    significand is even. -/
structure RoundingInterval where
  low : Fraction
  high : Fraction
  closed : Bool

/-- The fractions that round to a positive finite number. Below a power of two the neighbours lie
    half as far apart. -/
def roundingInterval (significand : Nat) (exponent : Int) : RoundingInterval where
  low :=
    if significand = hiddenBit && exponent > leastExponent then
      .ofScaled (4 * significand - 1) (exponent - 2)
    else .ofScaled (2 * significand - 1) (exponent - 1)
  high := .ofScaled (2 * significand + 1) (exponent - 1)
  closed := significand % 2 = 0

/-- Whether a fraction rounds to the number of the interval. -/
def RoundingInterval.holds (i : RoundingInterval) (x : Fraction) : Bool :=
  if i.closed then !x.less i.low && !i.high.less x else i.low.less x && x.less i.high

/-- Digits and a power of ten. -/
structure Decimal where
  digits : Nat
  power : Int
  deriving DecidableEq, Repr

/-- The power of ten just above a fraction: the least `p`, searched upward from `start`, with
    `x < 10 ^ p`. -/
def powerAbove (x : Fraction) : (fuel : Nat) → (start : Int) → Int
  | 0, p => p
  | fuel + 1, p => if x.less (.ofDecimal 1 p) then p else powerAbove x fuel (p + 1)

/-- The point of the grid `10 ^ p` that rounds to the number and is nearest to it; of two equally
    near the even one. -/
def nearestOnGrid? (i : RoundingInterval) (x : Fraction) (p : Int) : Option Decimal :=
  let unit := Fraction.ofDecimal 1 p
  let below := (x.num * unit.den) / (x.den * unit.num)
  let rest := (x.num * unit.den) % (x.den * unit.num)
  let lower := i.holds (.ofDecimal below p)
  let upper := i.holds (.ofDecimal (below + 1) p)
  let preferUpper :=
    2 * rest > x.den * unit.num || (2 * rest = x.den * unit.num && below % 2 = 1)
  if lower && upper then some ⟨if preferUpper then below + 1 else below, p⟩
  else if lower then some ⟨below, p⟩
  else if upper then some ⟨below + 1, p⟩
  else none

/-- The shortest decimal that rounds to a positive finite number. Seventeen digits always do. -/
def shortest (significand : Nat) (exponent : Int) : Decimal :=
  let x := Fraction.ofScaled significand exponent
  let i := roundingInterval significand exponent
  let bits : Int := (Nat.log2 significand : Int) + exponent
  let top := powerAbove x 5 (bits * 30103 / 100000 - 1)
  ((List.range 17).findSome? fun (k : Nat) => nearestOnGrid? i x (top - k - 1)).getD ⟨0, 0⟩

/-- An exponent as it stands after the mark: a sign and at least two digits. -/
def exponentText (e : Int) : String :=
  let digits := toString e.natAbs
  (if e < 0 then "-" else "+") ++ (if digits.length < 2 then "0" ++ digits else digits)

/-- A positive decimal: positional from `0.0001` up to sixteen digits before the point, with at
    least one digit after it, and otherwise with a power of ten. -/
def Decimal.text (d : Decimal) : String :=
  let all := Nat.toDigits 10 d.digits
  let digits := (all.reverse.dropWhile (· == '0')).reverse
  let point := (all.length : Int) + d.power
  if -4 < point && point ≤ 16 then
    let body :=
      if point ≤ 0 then '0' :: '.' :: List.replicate (-point).toNat '0' ++ digits
      else
        let before := point.toNat
        if digits.length ≤ before then
          digits ++ List.replicate (before - digits.length) '0' ++ ['.', '0']
        else digits.take before ++ '.' :: digits.drop before
    String.ofList body
  else
    let mantissa :=
      match digits with
      | [] => ['0']
      | [d] => [d]
      | d :: rest => d :: '.' :: rest
    String.ofList mantissa ++ "e" ++ exponentText (point - 1)

/-- The text of a number. -/
def text : Binary64 → String
  | .finite negative significand exponent =>
    let sign := if negative then "-" else ""
    if significand = 0 then sign ++ "0.0" else sign ++ (shortest significand exponent).text
  | .infinite negative => if negative then "-inf" else "inf"
  | .notANumber => "nan"

end NativeExtension.Binary64

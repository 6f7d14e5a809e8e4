import NativeExtension.Number.Binary64

/-!
Numbers written with a given count of digits: after the point, or after the first digit with a power
of ten behind them. The digits are those of the nearest such decimal; a half goes to the even one.
-/
namespace NativeExtension.Positional

/-- A fraction, `num / den`. -/
structure Fraction where
  num : Nat
  den : Nat

/-- The size of a number. -/
def Fraction.ofBinary (significand : Nat) (exponent : Int) : Fraction :=
  match exponent with
  | .ofNat e => ⟨significand <<< e, 1⟩
  | .negSucc e => ⟨significand, 1 <<< (e + 1)⟩

/-- A fraction times a power of ten, to the nearest whole number. -/
def Fraction.scaled (f : Fraction) (power : Int) : Nat :=
  match power with
  | .ofNat p => Binary64.roundHalfEven (f.num * Nat.pow 10 p) f.den
  | .negSucc p => Binary64.roundHalfEven f.num (f.den * Nat.pow 10 (p + 1))

/-- The digits of a number, with zeros in front up to a count. -/
def digitsOf (least n : Nat) : List Char :=
  let ds := Nat.toDigits 10 n
  List.replicate (least - ds.length) '0' ++ ds

/-- A number with so many places behind the point. -/
def fixed (f : Fraction) (places : Nat) (alternate : Bool) : List Char :=
  let ds := digitsOf (places + 1) (f.scaled places)
  let (whole, fraction) := ds.splitAt (ds.length - places)
  whole ++ if fraction = [] && !alternate then [] else '.' :: fraction

/-- The power of ten of the first digit of a fraction that is not zero: the greatest one that is not
    above it. -/
def magnitude (f : Fraction) : Int :=
  let guess : Int :=
    ((Nat.toDigits 10 f.num).length : Int) - (Nat.toDigits 10 f.den).length
  let isAtMost (p : Int) : Bool :=
    match p with
    | .ofNat p => f.den * Nat.pow 10 p ≤ f.num
    | .negSucc p => f.den ≤ f.num * Nat.pow 10 (p + 1)
  if isAtMost guess then guess else guess - 1

/-- The digits of a fraction, so many behind the first, and the power of ten of the first. -/
def leading (f : Fraction) (places : Nat) : Nat × Int :=
  if f.num = 0 then (0, 0)
  else
    let power := magnitude f
    let n := f.scaled (places - power)
    if n ≥ Nat.pow 10 (places + 1) then (n / 10, power + 1) else (n, power)

/-- A power of ten as it stands behind digits, with two digits at least. -/
def powerText (upper : Bool) (power : Int) : List Char :=
  (if upper then 'E' else 'e') :: (if power < 0 then '-' else '+') :: digitsOf 2 power.natAbs

/-- Digits with a point behind the first. -/
def pointed (ds : List Char) (alternate : Bool) : List Char :=
  ds.take 1 ++ if ds.length ≤ 1 && !alternate then [] else '.' :: ds.drop 1

/-- A number with one digit in front of the point, so many behind it, and a power of ten. -/
def scientific (f : Fraction) (places : Nat) (alternate upper : Bool) : List Char :=
  let (n, power) := leading f places
  pointed (digitsOf (places + 1) n) alternate ++ powerText upper power

/-- A number without the zeros at its end behind the point. -/
def withoutZeros (cs : List Char) : List Char :=
  if cs.contains '.' then
    let kept := (cs.reverse.dropWhile (· == '0')).reverse
    if kept.getLast? == some '.' then kept.dropLast else kept
  else cs

/-- A number with so many digits in all, with a power of ten where that is far from one. -/
def shorter (f : Fraction) (count : Nat) (alternate upper : Bool) : List Char :=
  let count := max count 1
  let (n, power) := leading f (count - 1)
  let trim (cs : List Char) : List Char := if alternate then cs else withoutZeros cs
  if power < -4 || power ≥ count then
    trim (pointed (digitsOf count n) alternate) ++ powerText upper power
  else trim (fixed f (count - 1 - power).toNat alternate)

/-- How many binary digits a significand has behind its first. -/
def significandBits : Nat := 52

/-- The least power of two that a number has. -/
def leastPower : Int := -1022

/-- A number with one hexadecimal digit in front of the point and a power of two behind all, with so
    many digits behind the point or with those that are needed. -/
def hexadecimal (significand : Nat) (exponent : Int) (places : Option Nat) (alternate upper : Bool) :
    List Char :=
  -- The first digit is a one, unless the number is too small for that.
  let top : Int := exponent + significand.log2
  let power := if significand = 0 then 0 else max top leastPower
  let n := significand <<< (exponent - power + significandBits).toNat
  let digitBits := 4
  let all := significandBits / digitBits
  let kept := min (places.getD all) all
  let cut := Binary64.roundHalfEven n (1 <<< (digitBits * (all - kept)))
  let ds := Nat.toDigits 16 (cut % (1 <<< (digitBits * kept)))
  let ds := if kept = 0 then [] else List.replicate (kept - ds.length) '0' ++ ds
  let ds := match places with
    | some count => ds ++ List.replicate (count - kept) '0'
    | none => (ds.reverse.dropWhile (· == '0')).reverse
  let text := digitsOf 1 (cut >>> (digitBits * kept)) ++
    (if ds = [] && !alternate then [] else '.' :: ds) ++
    'p' :: (if power < 0 then '-' else '+') :: digitsOf 1 power.natAbs
  if upper then text.map Char.toUpper else text

end NativeExtension.Positional

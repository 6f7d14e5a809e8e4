import NativeExtension.Text.Blank
import NativeExtension.Text.Digits

/-!
Numbers written by hand: blanks around them, a sign, digits of any script, and single underscores
between digits.
-/
namespace NativeExtension.Text

/-- A numeral in ASCII: digits of other scripts become ASCII digits and their blanks spaces. What is
    neither becomes a character that no numeral holds. -/
def asciiNumeral (cs : List Char) : List Char :=
  cs.map fun c =>
    if c.toNat < 128 then c
    else if isBlank c then ' '
    else
      match decimalDigit? c with
      | some d => Nat.digitChar d
      | none => '?'

/-- Blanks that may stand around a numeral. The ASCII information separators are not among them. -/
def isNumeralPadding (c : Char) : Bool :=
  c == ' ' || (0x09 ≤ c.toNat && c.toNat ≤ 0x0d)

/-- A numeral in ASCII without the blanks around it. -/
def numeralBody (cs : List Char) : List Char :=
  trimWhere isNumeralPadding (asciiNumeral cs)

/-- The sign in front of a numeral, true for minus, and what follows it. -/
def splitSign : List Char → Bool × List Char
  | '-' :: rest => (true, rest)
  | '+' :: rest => (false, rest)
  | rest => (false, rest)

/-- The value of digits of a base with single underscores between them. `afterDigit` says that an
    underscore may come next. -/
def baseDigits? (base : Nat) : (afterDigit : Bool) → (value : Nat) → List Char → Option Nat
  | afterDigit, value, [] => if afterDigit then some value else none
  | afterDigit, value, c :: rest =>
    if c == '_' then
      if afterDigit then baseDigits? base false value rest else none
    else
      match digitOrLetter? c with
      | some d => if d < base then baseDigits? base true (value * base + d) rest else none
      | none => none

/-- Digits after an optional mark of their base: `0b` for base two, `0x` for base sixteen. One
    underscore may follow the mark. -/
def markedDigits? (base : Nat) (cs : List Char) : Option Nat :=
  let marks := if base == 2 then ['b', 'B'] else if base == 16 then ['x', 'X'] else []
  match cs with
  | '0' :: mark :: rest =>
    if marks.contains mark then
      match rest with
      | '_' :: rest => baseDigits? base false 0 rest
      | rest => baseDigits? base false 0 rest
    else baseDigits? base false 0 cs
  | cs => baseDigits? base false 0 cs

/-- An integer of base two, ten or sixteen. -/
def integer? (base : Nat) (cs : List Char) : Option Int :=
  let (negative, digits) := splitSign (numeralBody cs)
  (markedDigits? base digits).map fun n => if negative then -(n : Int) else n

end NativeExtension.Text

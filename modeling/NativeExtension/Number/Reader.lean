import NativeExtension.Number.Binary64
import NativeExtension.Text.Numeral

/-!
Reading decimal numerals as binary floating-point numbers: digits with an optional point and an
optional power of ten, or the name of an infinity or of no number, in any case.
-/
namespace NativeExtension.Binary64

open Text

/-- The numeral without its underscores, each of which must stand between two digits. `previous` is
    the character before the rest. -/
def joinDigitGroups? (previous : Char) : List Char → Option (List Char)
  | [] => if previous == '_' then none else some []
  | c :: rest =>
    if c == '_' then
      if previous.isDigit then joinDigitGroups? c rest else none
    else if previous == '_' && !c.isDigit then none
    else (joinDigitGroups? c rest).map (c :: ·)

/-- The value of ASCII digits. -/
def digitsValue (cs : List Char) : Nat :=
  cs.foldl (fun n c => n * 10 + (c.toNat - '0'.toNat)) 0

/-- The power of ten after the digits, zero when nothing stands there. -/
def power? : List Char → Option Int
  | [] => some 0
  | e :: rest =>
    if e == 'e' || e == 'E' then
      let (negative, digits) := splitSign rest
      if digits.isEmpty || !digits.all Char.isDigit then none
      else some (if negative then -(digitsValue digits : Int) else digitsValue digits)
    else none

/-- A numeral without sign, blanks and underscores. -/
def unsigned? (negative : Bool) (cs : List Char) : Option Binary64 :=
  let name := String.ofList (cs.map Char.toLower)
  if name == "inf" || name == "infinity" then some (.infinite negative)
  else if name == "nan" then some .notANumber
  else
    let whole := cs.takeWhile Char.isDigit
    let rest := cs.dropWhile Char.isDigit
    let (fraction, rest) :=
      match rest with
      | '.' :: rest => (rest.takeWhile Char.isDigit, rest.dropWhile Char.isDigit)
      | rest => ([], rest)
    if whole.isEmpty && fraction.isEmpty then none
    else
      (power? rest).map fun p =>
        ofDecimal negative (digitsValue (whole ++ fraction)) (p - fraction.length)

/-- The number that a text spells. -/
def ofText? (text : String) : Option Binary64 := do
  let joined ← joinDigitGroups? ' ' (numeralBody text.toList)
  let (negative, rest) := splitSign joined
  unsigned? negative rest

/-- A numeral without its underscores, if it has some, none of them at an end or beside another. -/
def withoutUnderscores? (cs : List Char) : Option (List Char) :=
  let groups := cs.splitOn '_'
  if groups.length ≤ 1 || groups.contains [] then none else some groups.flatten

/-- The number that an argument of a command spells. Its digits are ASCII digits and it may stand
    between blanks. A numeral with underscores, wherever they divide it, stands without blanks. -/
def ofArgument? (text : String) : Option Binary64 :=
  let plain (cs : List Char) : Option Binary64 :=
    let (negative, rest) := splitSign cs
    unsigned? negative rest
  plain (trimWhere isSpacing text.toList) <|> (withoutUnderscores? text.toList).bind plain

end NativeExtension.Binary64

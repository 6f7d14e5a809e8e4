import NativeExtension.Sql.Cursor
import NativeExtension.Text.Digits

/-!
Escapes by number in strings that decode backslashes: octal and hexadecimal octets, and code points
of four and of eight digits. A run of octets that is one UTF-8 character stands for it, and a pair
of surrogates for the character they encode.
-/
namespace NativeExtension.Sql

/-- How an escape by number is written: its base, the fewest and the most digits, and the greatest
    value. -/
structure NumericForm where
  base : Nat
  fewest : Nat
  most : Nat
  greatest : Nat
  deriving DecidableEq, Repr

namespace NumericForm

/-- The form that a character after a backslash announces. An octal escape starts with its digits.
    -/
def announcedBy? : Option Char → Option NumericForm
  | some 'x' => some ⟨16, 1, 2, 0xff⟩
  | some 'u' => some ⟨16, 4, 4, 0xffff⟩
  | some 'U' => some ⟨16, 8, 8, 0x10ffff⟩
  | some c => if '0' ≤ c && c ≤ '7' then some ⟨8, 1, 3, 0o777⟩ else none
  | none => none

/-- Whether the form writes octets. -/
def isOctet (form : NumericForm) : Bool := form.base == 8 || form.greatest ≤ 0xff

/-- How far behind the backslash the digits start. -/
def digitsOffset (form : NumericForm) : Nat := if form.base == 8 then 1 else 2

/-- The digits from place `i` on, no more than `left` of them: their value and the place after them.
    Digits that would exceed the greatest value are left. -/
def readDigits (form : NumericForm) (text : Array Char) : (left : Nat) → (value i : Nat) → Nat × Nat
  | 0, value, i => (value, i)
  | left + 1, value, i =>
    match text[i]?.bind Text.digitOrLetter? with
    | none => (value, i)
    | some d =>
      if form.base ≤ d || form.greatest < value * form.base + d then (value, i)
      else readDigits form text left (value * form.base + d) (i + 1)

/-- The number written from place `i` on and the place after it; octets wrap. -/
def read? (form : NumericForm) (text : Array Char) (i : Nat) : Option Nat × Nat :=
  let (value, j) := form.readDigits text form.most 0 i
  if j - i < form.fewest then (none, j)
  else (some (if form.isOctet then value % 256 else value), j)

end NumericForm

/-- The octet escaped at a backslash at place `i`, and the place after it. -/
def octetAt? (text : Array Char) (i : Nat) : Option (Nat × Nat) := do
  let form ← NumericForm.announcedBy? text[i + 1]?
  guard form.isOctet
  let (value, j) := form.read? text (i + form.digitsOffset)
  pure (← value, j)

/-- How many octets a UTF-8 character has that starts with an octet of the right range. -/
def utf8Length (octet : Nat) : Nat :=
  if octet < 0xe0 then 2 else if octet < 0xf0 then 3 else 4

/-- Collects escaped continuation octets, at most `left` of them. -/
def collectOctets (text : Array Char) :
    (left : Nat) → (octets : List Nat) → (i : Nat) → List Nat × Nat
  | 0, octets, i => (octets, i)
  | left + 1, octets, i =>
    if text[i]? == some '\\' then
      match octetAt? text i with
      | some (b, j) =>
        if 0x80 ≤ b && b ≤ 0xbf then collectOctets text left (octets ++ [b]) j else (octets, i)
      | none => (octets, i)
    else (octets, i)

/-- The one character that octets encode. -/
def utf8Char? (octets : List Nat) : Option Char :=
  match (String.fromUTF8? (octets.map UInt8.ofNat).toByteArray).map String.toList with
  | some [c] => some c
  | _ => none

/-- The code point of two surrogates, or of a number that is none. What the second number is read
    from starts at place `i`. -/
def pairSurrogates (form : NumericForm) (mark : Char) (text : Array Char) (value i : Nat) :
    Option Nat × Nat :=
  if value < 0xd800 || 0xdfff < value then (some value, i)
  else if value ≤ 0xdbff && text[i]? == some '\\' && text[i + 1]? == some mark then
    match form.read? text (i + 2) with
    | (some low, j) =>
      if 0xdc00 ≤ low && low ≤ 0xdfff then
        (some (0x10000 + (value - 0xd800) * 1024 + (low - 0xdc00)), j)
      else (none, i)
    | _ => (none, i)
  else (none, i)

/-- The character escaped by number at a backslash that is the current character, and the cursor
    behind it. An escape at the very end of the text is none. -/
def numericEscape (c : Cursor) : Move (Option (Char × Cursor)) := do
  let text := c.text
  let some mark := c.next? | pure none
  let some form := NumericForm.announcedBy? (some mark) | pure none
  let (value, after) := form.read? text (c.place - 1 + form.digitsOffset)
  let some value := value | pure none
  let (value, after) := pairSurrogates form mark text value after
  let some value := value | pure none
  let run :=
    if form.isOctet && 0xc2 ≤ value && value ≤ 0xf4 then
      let (octets, runEnd) := collectOctets text (utf8Length value - 1) [value] after
      (utf8Char? octets).map (·, runEnd)
    else none
  match run with
  | some (char, runEnd) =>
    if runEnd < text.size then pure (some (char, ← c.advance (runEnd - c.place + 1)))
    else plain value after
  | none => plain value after
where
  /-- The character of one escape. -/
  plain (value after : Nat) : Move (Option (Char × Cursor)) := do
    if after < c.text.size then pure (some (Char.ofNat value, ← c.advance (after - c.place + 1)))
    else pure none

end NativeExtension.Sql

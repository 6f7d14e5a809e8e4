import NativeExtension.Text.Printable

/-!
Texts as they stand inside messages: between quotes, with everything that does not show written as
an escape, so that a message never breaks a line or hides a character.
-/
namespace NativeExtension.Text

/-- `n` in lower-case hexadecimal, with zeros in front up to `width` digits. -/
def hexPadded (width n : Nat) : List Char :=
  let digits := Nat.toDigits 16 n
  List.replicate (width - digits.length) '0' ++ digits

/-- One character of a quoted text: the backslash, the quote in use and the common controls get a
    backslash, and what does not show is written by its code point. -/
def quotedChar (quote c : Char) : List Char :=
  if c == '\\' || c == quote then ['\\', c]
  else if c == '\n' then ['\\', 'n']
  else if c == '\r' then ['\\', 'r']
  else if c == '\t' then ['\\', 't']
  else if isPrintable c then [c]
  else if c.toNat ≤ 0xff then '\\' :: 'x' :: hexPadded 2 c.toNat
  else if c.toNat ≤ 0xffff then '\\' :: 'u' :: hexPadded 4 c.toNat
  else '\\' :: 'U' :: hexPadded 8 c.toNat

/-- The quote around a text: the single one, unless the text holds it and no double one. -/
def quoteFor (cs : List Char) : Char :=
  if cs.contains '\x27' && !cs.contains '"' then '"' else '\x27'

/-- A text between quotes. -/
def quoted (s : String) : String :=
  let quote := quoteFor s.toList
  String.ofList (quote :: s.toList.flatMap (quotedChar quote) ++ [quote])

/-- Several texts between quotes and brackets, with commas between them. -/
def quotedList (texts : List String) : String :=
  "[" ++ ", ".intercalate (texts.map quoted) ++ "]"

/-- Several texts between quotes and parentheses; a single one keeps its comma. -/
def quotedTuple : List String → String
  | [single] => "(" ++ quoted single ++ ",)"
  | texts => "(" ++ ", ".intercalate (texts.map quoted) ++ ")"

end NativeExtension.Text

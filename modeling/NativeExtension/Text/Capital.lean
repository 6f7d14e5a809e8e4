/-!
Capital letters, as far as a comparison with a word of ASCII capitals needs them.
-/
namespace NativeExtension.Text

/-- The capital form of a character where it is made of ASCII letters, and the character itself
    elsewhere. Besides `a` to `z` these are the sharp s, the dotless i, the long s and the Latin
    ligatures. -/
def capital (c : Char) : List Char :=
  match c.toNat with
  | 0xdf => ['S', 'S']
  | 0x131 => ['I']
  | 0x17f => ['S']
  | 0xfb00 => ['F', 'F']
  | 0xfb01 => ['F', 'I']
  | 0xfb02 => ['F', 'L']
  | 0xfb03 => ['F', 'F', 'I']
  | 0xfb04 => ['F', 'F', 'L']
  | 0xfb05 => ['S', 'T']
  | 0xfb06 => ['S', 'T']
  | _ => [c.toUpper]

/-- A text in capitals. It equals a word of ASCII capitals exactly when the text, in any mixture of
    cases and ligatures, spells that word. -/
def capitals (s : String) : String :=
  String.ofList (s.toList.flatMap capital)

end NativeExtension.Text

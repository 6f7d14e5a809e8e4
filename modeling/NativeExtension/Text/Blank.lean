/-!
White space and its removal from both ends of a text.
-/
namespace NativeExtension.Text

/-- White space of any script, the four ASCII information separators among it. -/
def isBlank (c : Char) : Bool :=
  let n := c.toNat
  (0x09 ≤ n && n ≤ 0x0d) || (0x1c ≤ n && n ≤ 0x20) || n == 0x85 || n == 0xa0 || n == 0x1680 ||
    (0x2000 ≤ n && n ≤ 0x200a) || n == 0x2028 || n == 0x2029 || n == 0x202f || n == 0x205f ||
    n == 0x3000

/-- White space of any script that sets words apart; the information separators do not. -/
def isSpacing (c : Char) : Bool := isBlank c && !(0x1c ≤ c.toNat && c.toNat ≤ 0x1f)

/-- The characters of `cs` without those of class `p` at either end. -/
def trimWhere (p : Char → Bool) (cs : List Char) : List Char :=
  ((cs.dropWhile p).reverse.dropWhile p).reverse

/-- The characters of `cs` without the white space at either end. -/
def trim (cs : List Char) : List Char :=
  trimWhere isBlank cs

/-- A text without the white space at either end. -/
def stripped (s : String) : String :=
  String.ofList (trim s.toList)

end NativeExtension.Text

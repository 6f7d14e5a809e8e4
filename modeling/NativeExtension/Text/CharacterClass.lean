/-!
Classes of ASCII characters with names.
-/
namespace NativeExtension.Text

/-- A class of characters. -/
inductive CharacterClass where
  | alnum
  | alpha
  | blank
  | cntrl
  | digit
  | graph
  | lower
  | print
  | punct
  | space
  | upper
  | xdigit
  deriving DecidableEq, Repr

namespace CharacterClass

/-- The classes and their names. -/
def names : List (String × CharacterClass) :=
  [("alnum", alnum), ("alpha", alpha), ("blank", blank), ("cntrl", cntrl), ("digit", digit),
    ("graph", graph), ("lower", lower), ("print", print), ("punct", punct), ("space", space),
    ("upper", upper), ("xdigit", xdigit)]

/-- The class that a name stands for. -/
def ofName? (name : List Char) : Option CharacterClass := names.lookup (String.ofList name)

/-- Whether an ASCII character is in a class. -/
def contains (k : CharacterClass) (c : Char) : Bool :=
  let isGraph := '!' ≤ c && c ≤ '~'
  match k with
  | alnum => c.isAlphanum
  | alpha => c.isAlpha
  | blank => c == ' ' || c == '\t'
  | cntrl => c < ' ' || c == '\x7f'
  | digit => c.isDigit
  | graph => isGraph
  | lower => c.isLower
  | print => isGraph || c == ' '
  | punct => isGraph && !c.isAlphanum
  | space => c == ' ' || ('\t' ≤ c && c ≤ '\r')
  | upper => c.isUpper
  | xdigit => c.isDigit || ('a' ≤ c && c ≤ 'f') || ('A' ≤ c && c ≤ 'F')

/-- The ASCII characters of a class, in their order. -/
def members (k : CharacterClass) : List Char :=
  ((List.range 128).map Char.ofNat).filter k.contains

end CharacterClass

end NativeExtension.Text

import NativeExtension.Text.Alphanumeric
import NativeExtension.Text.CharacterClass
import NativeExtension.Text.Octets
import NativeExtension.Text.Utf8

/-!
Regular expressions and the texts that they are matched with. A text is a row of symbols: the
characters that octets spell, and the octets that spell none. The expressions are those of the
utilities that look for lines, edit them and take texts apart.
-/
namespace NativeExtension.Regex

/-- A symbol of a text: the code point of a character, or an octet that is a part of none, counted
    from behind the last code point. -/
abbrev Symbol := Nat

/-- The first symbol that stands for an octet. -/
def strayOctet : Symbol := 0x110000

/-- The symbols that octets spell. Every octet spends fuel. -/
def symbolsOf : (fuel : Nat) → List Char → List Symbol
  | 0, _ => []
  | _, [] => []
  | fuel + 1, c :: cs =>
    if c.toNat < 0x80 then c.toNat :: symbolsOf fuel cs
    else
      let length := if c.toNat < 0xe0 then 2 else if c.toNat < 0xf0 then 3 else 4
      match Text.Utf8.decode (Text.Octets.toBytes ((c :: cs).take length)) with
      | .ok s =>
        match s.toList with
        | [d] => d.toNat :: symbolsOf fuel ((c :: cs).drop length)
        | _ => (strayOctet + c.toNat) :: symbolsOf fuel cs
      | .error _ => (strayOctet + c.toNat) :: symbolsOf fuel cs

/-- The symbols of a text. -/
def symbols (cs : List Char) : List Symbol := symbolsOf cs.length cs

/-- The octets of a symbol. -/
def octets (s : Symbol) : List Char :=
  if s < 0x80 then [Char.ofNat s]
  else if s < strayOctet then Text.Octets.ofString (String.singleton (Char.ofNat s))
  else [Char.ofNat (s - strayOctet)]

/-- The text that symbols spell. -/
def text (symbols : List Symbol) : List Char := symbols.flatMap octets

/-- Whether a symbol is a part of a word. -/
def isWordSymbol (s : Symbol) : Bool :=
  if s < 0x80 then (Char.ofNat s).isAlphanum || s == '_'.toNat
  else s < strayOctet && Text.isAlphanumeric (Char.ofNat s)

/-- Whether a symbol is in a class of characters. -/
def isOfClass (k : Text.CharacterClass) (s : Symbol) : Bool :=
  if s < 0x80 then k.contains (Char.ofNat s)
  else if s ≥ strayOctet then false
  else
    match k with
    | .alnum | .alpha => isWordSymbol s
    | .graph | .print => true
    | .punct => !isWordSymbol s
    | _ => false

/-- A member of a set of symbols. -/
inductive Member where
  | range (first last : Symbol)
  | named (k : Text.CharacterClass)
  | word (isPart : Bool)
  deriving DecidableEq, Repr

/-- Whether a symbol is meant by a member of a set. -/
def Member.contains (s : Symbol) : Member → Bool
  | .range first last => first ≤ s && s ≤ last
  | .named k => isOfClass k s
  | .word isPart => isWordSymbol s == isPart

/-- A place between symbols that can be asked for. -/
inductive Edge where
  | lineStart
  | lineEnd
  | wordStart
  | wordEnd
  | wordEdge
  | noWordEdge
  | textStart
  | textEnd
  deriving DecidableEq, Repr

end Regex

/-- A regular expression. -/
inductive Regex where
  | nothing
  | symbol (s : Regex.Symbol)
  | anything
  | among (inverted : Bool) (members : List Regex.Member)
  | edge (e : Regex.Edge)
  | group (number : Nat) (inner : Regex)
  /-- What the group with the number matched. -/
  | again (number : Nat)
  | sequence (first second : Regex)
  | choice (first second : Regex)
  | repeated (least : Nat) (most : Option Nat) (inner : Regex)
  deriving DecidableEq, Repr

namespace Regex

/-- Whether an expression refers to what a group matched. -/
def refers : Regex → Bool
  | .again _ => true
  | .group _ r | .repeated _ _ r => r.refers
  | .sequence r s | .choice r s => r.refers || s.refers
  | _ => false

/-- How many groups an expression has. -/
def groupCount : Regex → Nat
  | .group _ r => r.groupCount + 1
  | .repeated _ _ r => r.groupCount
  | .sequence r s | .choice r s => r.groupCount + s.groupCount
  | _ => 0

/-- What is wrong with the text of an expression. -/
inductive Mistake where
  | openBracket
  | className
  | classPlace
  | openGroup
  | closedGroup
  | openInterval
  | interval
  | reference
  | trailing
  | range
  | collation
  | tooBig
  | nothingToRepeat
  | nothingMeant
  deriving DecidableEq, Repr

/-- The wording of a mistake. -/
def Mistake.message : Mistake → String
  | .openBracket => "Unmatched [, [^, [:, [., or [="
  | .className => "Invalid character class name"
  | .classPlace => "character class syntax is [[:space:]], not [:space:]"
  | .openGroup => "Unmatched ( or \\("
  | .closedGroup => "Unmatched ) or \\)"
  | .openInterval => "Unmatched \\\x7b"
  | .interval => "Invalid content of \\\x7b\\\x7d"
  | .reference => "Invalid back reference"
  | .trailing => "Trailing backslash"
  | .range => "Invalid range end"
  | .collation => "Invalid collation character"
  | .tooBig => "Regular expression too big"
  | .nothingToRepeat => "Invalid preceding regular expression"
  | .nothingMeant => "Invalid regular expression"

end Regex

end NativeExtension

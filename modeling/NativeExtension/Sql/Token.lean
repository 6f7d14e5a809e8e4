import NativeExtension.Text.Capital

/-!
Tokens of an SQL text, as far as they tell keywords, names, language names and separators apart.
-/
namespace NativeExtension.Sql

/-- The kinds of tokens. A `word` is what no other kind covers: keywords, plain names, operators,
    and strings with Unicode escapes. A `literal` is a number or a string of one of the special
    sorts; a `command` starts a statement that is not read further, and a `block` opens a block. -/
inductive Kind where
  | word
  | string
  | quotedName
  | literal
  | dot
  | semicolon
  | parameter
  | command
  | block
  deriving DecidableEq, Repr

/-- A token with its text and the line on which it ends. -/
structure Token where
  kind : Kind
  text : String
  line : Nat
  deriving DecidableEq, Repr

namespace Token

/-- Whether the text of a token was quoted or is a number, so that it spells no keyword. -/
def isLiteral (t : Token) : Bool :=
  match t.kind with
  | .string | .quotedName | .literal => true
  | _ => false

/-- Whether a token is the keyword spelled `word` in capitals. -/
def isKeyword (t : Token) (word : String) : Bool :=
  !t.isLiteral && Text.capitals t.text == word

/-- A letter or an underscore. -/
def isNameStart (c : Char) : Bool := c.isAlpha || c == '_'

/-- A letter, a digit, an underscore or a dollar sign. -/
def isNameRest (c : Char) : Bool := c.isAlphanum || c == '_' || c == '$'

/-- Whether characters spell a name without quotes. A line feed may follow it. -/
def spellsName : List Char → Bool
  | [] => false
  | c :: rest =>
    isNameStart c && (rest.dropWhile isNameRest == [] || rest.dropWhile isNameRest == ['\n'])

/-- Whether a token can name a function: a quoted name with any text, or a plain name. -/
def isName (t : Token) : Bool :=
  t.kind == .quotedName || (!t.isLiteral && spellsName t.text.toList)

/-- Whether a token can name a language: a name or a string. -/
def isLanguageName (t : Token) : Bool :=
  t.kind == .string || t.isName

/-- Whether a token ends a statement. -/
def isSeparator (t : Token) : Bool :=
  t.kind == .semicolon

/-- Whether a token joins the parts of a qualified name. -/
def isDot (t : Token) : Bool :=
  t.kind == .dot

/-- Whether a token names the native language, in either case. -/
def namesNativeLanguage (t : Token) : Bool :=
  t.isLanguageName && (t.text == "c" || t.text == "C")

end Token

end NativeExtension.Sql

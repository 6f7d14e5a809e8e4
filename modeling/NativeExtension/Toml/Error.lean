import NativeExtension.Text.Quoted

/-!
What can be wrong with a document, and where.
-/
namespace NativeExtension.Toml

/-- What is wrong at one place of a document. -/
inductive Problem where
  | invalidStatement
  | expectedEndOfStatement
  | invalidKeyStart
  | expectedEquals
  | unclosedTableHeader
  | unclosedArrayHeader
  | declaredTwice (key : List String)
  | overwritesValue
  | immutableNamespace (key : List String)
  | redefinesNamespace (key : List String)
  | duplicateInlineKey (key : String)
  | unclosedArray
  | unclosedInlineTable
  | unterminatedString
  | expectedDelimiter (delimiter : String)
  | invalidCharacter (c : Char)
  | illegalCharacter (c : Char)
  | unescapedBackslash
  | invalidHexadecimal
  | notScalarValue
  | invalidValue
  | invalidDate
  deriving DecidableEq, Repr

/-- A place in a document: lines and columns count from one, columns in characters. -/
inductive Place where
  | endOfDocument
  | position (line column : Nat)
  deriving DecidableEq, Repr

/-- A document that is no TOML. -/
structure Error where
  problem : Problem
  place : Place
  deriving DecidableEq, Repr

/-- Why reading stopped: a document that is no TOML, an integer with more digits than can be read, or
    values nested deeper than can be followed. -/
inductive Failure where
  | malformed (error : Error)
  | integerTooLong (digits : Nat)
  | tooDeep
  deriving DecidableEq, Repr

/-- The text of a problem. -/
def Problem.message : Problem → String
  | .invalidStatement => "Invalid statement"
  | .expectedEndOfStatement => "Expected newline or end of document after a statement"
  | .invalidKeyStart => "Invalid initial character for a key part"
  | .expectedEquals => "Expected '=' after a key in a key/value pair"
  | .unclosedTableHeader => "Expected ']' at the end of a table declaration"
  | .unclosedArrayHeader => "Expected ']]' at the end of an array declaration"
  | .declaredTwice key => s!"Cannot declare {Text.quotedTuple key} twice"
  | .overwritesValue => "Cannot overwrite a value"
  | .immutableNamespace key => s!"Cannot mutate immutable namespace {Text.quotedTuple key}"
  | .redefinesNamespace key => s!"Cannot redefine namespace {Text.quotedTuple key}"
  | .duplicateInlineKey key => s!"Duplicate inline table key {Text.quoted key}"
  | .unclosedArray => "Unclosed array"
  | .unclosedInlineTable => "Unclosed inline table"
  | .unterminatedString => "Unterminated string"
  | .expectedDelimiter delimiter => s!"Expected {Text.quoted delimiter}"
  | .invalidCharacter c => s!"Found invalid character {Text.quoted c.toString}"
  | .illegalCharacter c => s!"Illegal character {Text.quoted c.toString}"
  | .unescapedBackslash => "Unescaped '\\' in a string"
  | .invalidHexadecimal => "Invalid hex value"
  | .notScalarValue => "Escaped character is not a Unicode scalar value"
  | .invalidValue => "Invalid value"
  | .invalidDate => "Invalid date or datetime"

/-- The text of a place. -/
def Place.message : Place → String
  | .endOfDocument => "end of document"
  | .position line column => s!"line {line}, column {column}"

/-- The text of an error. -/
def Error.message (e : Error) : String :=
  s!"{e.problem.message} (at {e.place.message})"

/-- The most digits that a decimal integer may have. -/
def integerDigitLimit : Nat := 4300

/-- The text about an integer that is too long to be read. -/
def integerTooLongMessage (digits : Nat) : String :=
  s!"Exceeds the limit ({integerDigitLimit} digits) for integer string conversion: " ++
    s!"value has {digits} digits; use sys.set_int_max_str_digits() to increase the limit"

/-- The place that leaves `remaining` characters of a document unread. -/
def Place.ofRemaining (document : List Char) (remaining : Nat) : Place :=
  if remaining = 0 then .endOfDocument
  else
    let before := document.take (document.length - remaining)
    .position (before.count '\n' + 1) ((before.reverse.takeWhile (· != '\n')).length + 1)

end NativeExtension.Toml

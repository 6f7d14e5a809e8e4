
/-!
Where a script is being read, and the mistakes that reading can end with.
-/
namespace NativeExtension.Shell

/-- What stands where something else was expected. -/
inductive Found where
  | endOfText
  | newline
  | word
  | redirection
  | mark (text : List Char)
  deriving DecidableEq, Repr

/-- Why a script cannot be read. -/
inductive Mistake where
  | unexpected (found : Found) (expected : Option (List Char))
  | unterminatedQuote
  | unterminatedSubstitution
  | unterminatedSum
  | missingBrace
  | badLoopVariable
  | badFunctionName
  deriving DecidableEq, Repr

/-- A text that is being read: what is left, the number of its first line, how many lines were cut
    out behind the end of that line, and the other names of commands. -/
structure Cursor where
  rest : List Char
  line : Nat
  cut : Nat
  aliases : List (List Char × List Char)
  deriving DecidableEq, Repr

/-- A reader gives a value or the line and the mistake at which it stopped. -/
abbrev Reader := StateT Cursor (Except (Nat × Mistake))

namespace Found

/-- How a mistake names what it found. -/
def text : Found → List Char
  | .endOfText => "end of file".toList
  | .newline => "newline".toList
  | .word => "word".toList
  | .redirection => "redirection".toList
  | .mark text => '"' :: text ++ ['"']

end Found

namespace Mistake

/-- The wording of a mistake. -/
def text : Mistake → List Char
  | .unexpected found none => found.text ++ " unexpected".toList
  | .unexpected found (some expected) =>
    found.text ++ " unexpected (expecting \"".toList ++ expected ++ "\")".toList
  | .unterminatedQuote => "Unterminated quoted string".toList
  | .unterminatedSubstitution => "EOF in backquote substitution".toList
  | .unterminatedSum => "Missing '))'".toList
  | .missingBrace => "Missing '\x7d'".toList
  | .badLoopVariable => "Bad for loop variable".toList
  | .badFunctionName => "Bad function name".toList

end Mistake

namespace Reader

/-- Stops with a mistake. -/
def fail {α : Type} (m : Mistake) : Reader α := do
  throw ((← get).line, m)

/-- What is left. -/
def rest : Reader (List Char) := do
  return (← get).rest

/-- Goes on from a later place on the same line. -/
def goTo (rest : List Char) : Reader Unit :=
  modify fun c => { c with rest }

/-- Goes on from the start of the next line, behind the lines that were cut out. -/
def nextLine (rest : List Char) : Reader Unit :=
  modify fun c => { c with rest, line := c.line + 1 + c.cut, cut := 0 }

/-- Reads another text, whose first line has the given number, and then goes on in this one. -/
def within {α : Type} (line : Nat) (text : List Char) (reader : Reader α) : Reader α := do
  let outer ← get
  set ({ outer with rest := text, line, cut := 0 } : Cursor)
  let a ← reader
  set outer
  pure a

end Reader

/-- Characters that end a word unless they are quoted. -/
def endsWord (c : Char) : Bool := [' ', '\t', '\n', ';', '&', '|', '<', '>', '(', ')'].contains c

/-- Characters that a name starts with. -/
def startsName (c : Char) : Bool := c.isAlpha || c == '_'

/-- Characters of a name. -/
def continuesName (c : Char) : Bool := c.isAlphanum || c == '_'

/-- Names of one character that parameters have without being set. -/
def isSpecialParameter (c : Char) : Bool := ['@', '*', '#', '?', '$', '!', '-'].contains c

/-- Words with a meaning of their own at the start of a statement. -/
def reservedWords : List (List Char) :=
  ["!", "if", "then", "else", "elif", "fi", "for", "in", "while", "until", "do", "done", "case", "esac",
    "\x7b", "\x7d"].map String.toList

/-- Names of commands that functions cannot have. -/
def specialNames : List (List Char) :=
  [".", ":", "break", "continue", "eval", "exec", "exit", "export", "local", "readonly", "return",
    "set", "shift", "times", "trap", "unset"].map String.toList

/-- Words that end a list of statements. -/
def closingWords : List (List Char) :=
  ["then", "else", "elif", "fi", "do", "done", "esac", "\x7d"].map String.toList

/-- The characters of a word as they stand. -/
def rawWord (cs : List Char) : List Char := cs.takeWhile (!endsWord ·)

/-- A text whose first word is replaced where it is another name of a command, and so is the next one
    where what replaces it ends in a blank. No name is replaced twice. Every replacement spends fuel.
    -/
def withAliases : (fuel : Nat) → List (List Char × List Char) → List Char → List Char
  | 0, _, cs => cs
  | fuel + 1, aliases, cs =>
    let isBlank (c : Char) : Bool := c == ' ' || c == '\t'
    let body := cs.dropWhile isBlank
    let word := rawWord body
    let found := if reservedWords.contains word then none else aliases.lookup word
    match found with
    | none => cs
    | some value =>
      let after := body.drop word.length
      let after := if value.getLast?.any isBlank then withAliases fuel aliases after else after
      withAliases fuel (aliases.filter (·.1 != word)) (value ++ after)

/-- Skips blanks, continued lines and a comment; also gives how many lines were continued. -/
def skipBlanks : List Char → List Char × Nat
  | '\\' :: '\n' :: rest => let (rest, n) := skipBlanks rest; (rest, n + 1)
  | c :: rest =>
    if c == ' ' || c == '\t' then skipBlanks rest
    else if c == '#' then ((c :: rest).dropWhile (· != '\n'), 0)
    else (c :: rest, 0)
  | [] => ([], 0)

namespace Reader

/-- Skips blanks, continued lines and a comment. -/
def blanks : Reader Unit :=
  modify fun c => let (rest, n) := skipBlanks c.rest; { c with rest, line := c.line + n }

/-- Skips blanks, comments and empty lines. -/
def emptyLines : (fuel : Nat) → Reader Unit
  | 0 => pure ()
  | fuel + 1 => do
    blanks
    match ← rest with
    | '\n' :: after => nextLine after; emptyLines fuel
    | _ => pure ()

/-- Skips blanks, comments and empty lines. -/
def gap : Reader Unit := do
  emptyLines ((← rest).length + 1)

/-- What stands at the place reached. -/
def found : Reader Found := do
  match ← rest with
  | [] => pure .endOfText
  | '\n' :: _ => pure .newline
  | ';' :: ';' :: _ => pure (.mark ";;".toList)
  | '&' :: '&' :: _ => pure (.mark "&&".toList)
  | '|' :: '|' :: _ => pure (.mark "||".toList)
  | c :: after =>
    if c == '<' || c == '>' then pure .redirection
    else if endsWord c then pure (.mark [c])
    else
      let word := rawWord (c :: after)
      pure (if reservedWords.contains word then .mark word else .word)

/-- Stops because of what stands at the place reached. -/
def unexpected {α : Type} (expected : Option (List Char)) : Reader α := do
  fail (.unexpected (← found) expected)

/-- Takes a mark that has to stand here. -/
def expectMark (mark : List Char) : Reader Unit := do
  let cs ← rest
  if mark.isPrefixOf cs then goTo (cs.drop mark.length) else unexpected (some mark)

/-- Takes a reserved word that has to stand here, after blanks. -/
def expectWord (word : List Char) : Reader Unit := do
  blanks
  let cs ← rest
  if rawWord cs == word then goTo (cs.drop word.length) else unexpected (some word)

end Reader

end NativeExtension.Shell

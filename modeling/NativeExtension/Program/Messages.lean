import NativeExtension.Command.Letters
import NativeExtension.Shell.Redirection

/-!
What the programs of a host have in common: how they name things in messages, how they read their
options, what they read, and how they end. They are the utilities that a tool of a build calls when it
is a script, and what they write to standard error is what a build shows when the tool fails.
-/
namespace NativeExtension.Utility

open Shell (Run)

/-- A program of a host. It takes its arguments without its own name and gives its status. -/
abbrev Tool := List (List Char) → Run Nat

/-- What stands for a character that cannot be shown, between the quotation marks of a shell that
    resolve escapes or behind a backslash. -/
def escapeFor (c : Char) : List Char :=
  match c with
  | '\x07' => "\\a".toList
  | '\x08' => "\\b".toList
  | '\x0c' => "\\f".toList
  | '\n' => "\\n".toList
  | '\r' => "\\r".toList
  | '\t' => "\\t".toList
  | '\x0b' => "\\v".toList
  | c =>
    let digits := Nat.toDigits 8 c.toNat
    '\\' :: List.replicate (3 - digits.length) '0' ++ digits

/-- Whether a word is text in which octets above those of ASCII can be shown. -/
def isLegible (word : List Char) : Bool := (Text.Utf8.decode (Text.Octets.toBytes word)).isOk

/-- Whether an octet of a word can be shown. -/
def isShown (legible : Bool) (c : Char) : Bool :=
  if c.toNat < 0x80 then ' ' ≤ c && c ≤ '~' else legible

/-- A word in the quotation marks of messages. -/
def quoted (word : List Char) : List Char :=
  let legible := isLegible word
  let body := word.flatMap fun c =>
    if c == '\\' then ['\\', '\\'] else if isShown legible c then [c] else escapeFor c
  Text.Octets.ofString "‘" ++ body ++ Text.Octets.ofString "’"

/-- Whether a character at a place in a word has a meaning of its own to a shell. -/
def isMeaningful (legible : Bool) (length i : Nat) (c : Char) : Bool :=
  " !\"$&'()*:;<=>?[\\^\x60|".toList.contains c || !isShown legible c ||
    (i = 0 && (c == '#' || c == '~')) || (length = 1 && (c == '{' || c == '}'))

/-- Whether a character means itself between double quotes of any kind. -/
def isHarmless (legible : Bool) (length i : Nat) (c : Char) : Bool :=
  " %+,-./:@]_'".toList.contains c || c.isAlphanum || (c.toNat ≥ 0x80 && legible) ||
    (i = 0 && (c == '#' || c == '~')) || (length = 1 && (c == '{' || c == '}'))

/-- The inside of a word between single quotes. Octets that cannot be shown stand between quotes of
    their own, in which escapes are resolved; `escaping` says that those are open. -/
def insideQuotes (legible : Bool) : (escaping : Bool) → List Char → List Char
  | _, [] => []
  | escaping, c :: cs =>
    if !isShown legible c then
      (if escaping then [] else "'$'".toList) ++ escapeFor c ++ insideQuotes legible true cs
    else if c == '\'' then
      (if escaping then "'\\'''".toList else "'\\''".toList) ++ insideQuotes legible false cs
    else (if escaping then "''".toList else []) ++ c :: insideQuotes legible false cs

/-- A path between quotation marks, as a shell would take it. -/
def quotedPath (path : List Char) : List Char :=
  let legible := isLegible path
  let places := path.zipIdx
  if path.contains '\'' && places.all fun (c, i) => isHarmless legible path.length i c then
    '"' :: path ++ ['"']
  else '\'' :: insideQuotes legible false path ++ ['\'']

/-- A path as a shell would take it, between quotation marks only where it needs them. -/
def plainPath (path : List Char) : List Char :=
  let legible := isLegible path
  if path = [] || path.zipIdx.any fun (c, i) => isMeaningful legible path.length i c then
    quotedPath path
  else path

/-- Ends the program. -/
def quit {α : Type} (status : Nat) : Run α := throw (.ended status)

/-- The name that the program was called by. -/
def ownName : Run (List Char) := return (← Run.session).name

/-- Says what is wrong. -/
def complain (text : List Char) : Run Unit := do
  Run.emit 2 ((← ownName) ++ ": ".toList ++ text ++ ['\n'])

/-- Says what is wrong with a path. -/
def complainOf (path : List Char) (e : Errno) : Run Unit :=
  complain (path ++ ": ".toList ++ e.reason.toList)

/-- Says where to find out more. -/
def pointToHelp : Run Unit := do
  Run.emit 2 ("Try '".toList ++ (← ownName) ++ " --help' for more information.\n".toList)

/-- Says what is wrong with the arguments, and ends the program. -/
def misuse {α : Type} (status : Nat) (text : List Char) : Run α := do
  complain text
  pointToHelp
  quit status

/-- The wording of a mistake in the options. -/
def faultText : Command.LetterFault → List Char
  | .unknown c => "invalid option -- '".toList ++ [c, '\'']
  | .noValue c => "option requires an argument -- '".toList ++ [c, '\'']
  | .unknownName name => "unrecognized option '--".toList ++ name ++ ['\'']
  | .noNamedValue name => "option '--".toList ++ name ++ "' requires an argument".toList
  | .unwantedValue name => "option '--".toList ++ name ++ "' doesn't allow an argument".toList
  | .ambiguousName name possible =>
    "option '--".toList ++ name ++ "' is ambiguous; possibilities:".toList ++
      possible.flatMap fun other => " '--".toList ++ other.toList ++ ['\'']

/-- Reads the options of the program. A mistake ends it with the given status. -/
def options (l : Command.Letters) (status : Nat) (args : List (List Char)) : Run Command.Chosen := do
  match l.read args with
  | .ok chosen => pure chosen
  | .error fault => misuse status (faultText fault)

/-- Options that may stand anywhere, without long names. -/
def letters (plain valued : String) : Command.Letters :=
  ⟨plain.toList, valued.toList, [("help", '\x00')], true⟩

/-- Says that what was to be written could not be, and gives the status for that. -/
def lostOutput (program : Program) (e : Errno) : Run Nat := do
  let reason := e.reason.toList
  let isClosed := e = .badDescriptor
  match program with
  | .cat | .yes =>
    if isClosed || program = .yes then complain ("standard output: ".toList ++ reason)
    else complain ("write error: ".toList ++ reason)
    pure 1
  | .sed =>
    complain ((if isClosed then "couldn't close stdout: " else "couldn't flush stdout: ").toList ++
      reason)
    pure 4
  | .sort =>
    complain ("fflush failed: 'standard output': ".toList ++ reason)
    complain "write error".toList
    pure 2
  | .find =>
    complain (quoted "standard output".toList ++ ": ".toList ++ reason)
    complain "write error".toList
    pure 1
  | .wc =>
    complain ("write error".toList ++ if isClosed then ": ".toList ++ reason else [])
    pure 1
  | .ls | .grep =>
    complain ("write error: ".toList ++ reason)
    pure 2
  | .expr =>
    complain ("write error: ".toList ++ reason)
    pure 3
  | .env =>
    complain ("write error: ".toList ++ reason)
    pure 125
  | _ =>
    complain ("write error: ".toList ++ reason)
    pure 1

/-- The octets at a path, or those that the program is given to read where the path is a dash. -/
def input (path : List Char) : Run (Except Errno (List Char)) := do
  match if path == ['-'] then some 0 else Run.namedDescriptor? path with
  | some n =>
    match ← Run.readFault? n with
    | some e => pure (.error e)
    | none => return .ok (← Run.takeAll n)
  | none =>
    match (← Run.files).readUpTo (Text.Octets.toString path) Run.channelLimit with
    | .ok (content, _) => pure (.ok (Text.Octets.ofBytes content))
    | .error e => pure (.error e)

/-- The octets of an input, of which only so many are needed; what the program is given to read keeps
    the others where it can. -/
def inputNeeding (path : List Char) (need : List Char → Nat) : Run (Except Errno (List Char)) := do
  if path == ['-'] then
    match ← Run.readFault? 0 with
    | some e => pure (.error e)
    | none => Except.ok <$> Run.takeNeeded 0 need
  else input path

/-- Says what is wrong with an input that is named in a way of the program's own. Where what the
    program is given to read is closed, some say so again at their end, in other words. -/
def complainOfInput (path : List Char) (named again : List Char) (e : Errno) : Run Unit := do
  complainOf named e
  if path == ['-'] && again != [] && (← Run.endpoint 0).isNone then complainOf again e

/-- The paths that a program reads: those that are named, or what it is given to read. -/
def inputs (operands : List (List Char)) : List (List Char) :=
  if operands = [] then [['-']] else operands

/-- The lines of a text and whether the last one has an end. -/
def linesOf (cs : List Char) : List (List Char) × Bool :=
  match cs.getLast? with
  | none => ([], true)
  | some c =>
    if c == '\n' then (cs.dropLast.splitOn '\n', true) else (cs.splitOn '\n', false)

/-- Lines as a text. -/
def ofLines (lines : List (List Char)) : List Char := lines.flatMap (· ++ ['\n'])

/-- The number that a word spells in decimal digits. -/
def count? (word : List Char) : Option Nat := Shell.natural? word

/-- The digits of a number. -/
def digits (n : Nat) : List Char := (toString n).toList

/-- A text with blanks in front of it up to a width. -/
def flushRight (width : Nat) (cs : List Char) : List Char :=
  List.replicate (width - cs.length) ' ' ++ cs

/-- What stands at a path. -/
def entryAt (aim : FileTree.Aim) (path : List Char) : Run (Except Errno Entry) := do
  let t ← Run.files
  match t.resolve aim (Text.Octets.toString path) with
  | .error e => pure (.error e)
  | .ok l =>
    match t.get? l with
    | some e => pure (.ok e)
    | none => pure (.error .noEntry)

/-- Whether a path names a directory. -/
def isDirectory (path : List Char) : Run Bool := do
  match ← entryAt .target path with
  | .ok e => pure e.isDirectory
  | .error _ => pure false

/-- Puts octets into a file, in place of what it held. -/
def write (path : List Char) (cs : List Char) : Run (Except Errno Unit) := do
  match Run.namedDescriptor? path with
  | some n => Run.emit n cs; pure (.ok ())
  | none =>
    let t ← Run.files
    match t.openForWriting (Text.Octets.toString path) with
    | .error e => pure (.error e)
    | .ok (l, none) =>
      Run.setFiles (t.put l (.file (Text.Octets.toBytes cs) (← Run.newMode)))
      pure (.ok ())
    | .ok (l, old) =>
      match old with
      | some (.device _) =>
        pure (if l.getLast? == some "full" && cs != [] then .error .noSpace else .ok ())
      | old =>
        Run.setFiles (t.putContent l (Text.Octets.toBytes cs) old)
        pure (.ok ())

end NativeExtension.Utility

/-!
What the lexer knows by heart: single characters that are tokens, operators and keywords that are
found by the longest match, the openers of strings, and the words that start an unread statement.
-/
namespace NativeExtension.Sql

/-- Characters that end a word and are tokens on their own. -/
def singleChars : List Char :=
  ['(', ')', '[', ']', '\x7b', '\x7d', '&', '^', ':', ',', '.', '-', '=', '>', '<', '%', '!', '|', '+',
   ';', '/', '\\', '*', '~', '?', '@', '#', '\x27', '\x60', '"', '$']

/-- Whether a character is a token on its own. -/
def isSingle (c : Char) : Bool := singleChars.contains c

/-- Operators and keywords of several characters. A run of white space in a keyword counts as one
    space. -/
def phrases : List (List Char) :=
  ["!=", "#-", "#>", "#>>", "$", "%\x7d", "&&", "&<", "&>", "'", "+%\x7d", "+\x7d\x7d", "-%\x7d", "--",
   "->", "->>", "-|-", "-\x7d\x7d", "/*", "::", ":=", "<->", "<<->>", "<=", "<=>", "<>", "<@", "==",
   "=>", ">=", "?&", "?::", "??", "?|", "@>", "@?", "@@", "^@", "\x7b#", "\x7b%", "\x7b%+", "\x7b%-",
   "\x7b\x7b+", "\x7b\x7b-", "|/", "|>", "||", "||/", "~", "~*", "~~", "~~*", "~~~", "B'", "E'", "N'",
   "U&'", "X'", "USER-DEFINED", "CHAR VARYING", "CHARACTER VARYING", "CLUSTER BY", "CONNECT BY",
   "DISTRIBUTE BY", "DOUBLE PRECISION", "FOREIGN KEY", "GROUP BY", "GROUPING SETS", "ORDER BY",
   "PARTITION BY", "PARTITIONED BY", "PRIMARY KEY", "SIMILAR TO", "SORT BY", "SQL SECURITY"].map
    String.toList

/-- Whether characters in capitals are a phrase. -/
def isPhrase (cs : List Char) : Bool := phrases.contains cs

/-- Whether characters in capitals start a phrase. -/
def startsPhrase (cs : List Char) : Bool := phrases.any (cs.isPrefixOf ·)

/-- Words that start a statement of which nothing but its end is looked for. -/
def commandWords : List String :=
  ["CALL", "DECLARE", "DO", "EXEC", "EXECUTE", "EXPLAIN", "FETCH", "LOCK", "OPTIMIZE", "PREPARE",
   "REFRESH", "REINDEX", "RENAME", "RESET", "SHOW", "VACUUM"]

/-- The sorts of strings. The contents of a dollar-quoted one are taken as they are. -/
inductive StringSort where
  | plain
  | national
  | bits
  | hexadecimal
  | escaped
  | unicode
  | dollarQuoted
  deriving DecidableEq, Repr

/-- The sort of string that a phrase opens. -/
def stringSort? (opener : List Char) : Option StringSort :=
  match opener with
  | ['\x27'] => some .plain
  | ['N', '\x27'] => some .national
  | ['B', '\x27'] => some .bits
  | ['X', '\x27'] => some .hexadecimal
  | ['E', '\x27'] => some .escaped
  | ['U', '&', '\x27'] => some .unicode
  | ['$'] => some .dollarQuoted
  | _ => none

/-- What closes the comment that a phrase opens; a comment to the end of the line has no closer. -/
inductive Comment where
  | line
  | block (opener closer : List Char)

/-- The comment that a phrase opens. -/
def comment? (opener : List Char) : Option Comment :=
  match opener with
  | ['-', '-'] => some .line
  | ['/', '*'] => some (.block ['/', '*'] ['*', '/'])
  | ['\x7b', '#'] => some (.block ['\x7b', '#'] ['#', '\x7d'])
  | _ => none

end NativeExtension.Sql

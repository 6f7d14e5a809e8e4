/-!
Statements of the command language that scripts are written in. Texts are octets as characters.
Scripts are here for the tools of a build that are scripts, which `Program.runner` starts.
-/
namespace NativeExtension.Shell

/-- How a redirection opens its target. Writing anew may be forbidden where there is a file. -/
inductive Direction where
  | read
  | write
  | writeAnyway
  | readWrite
  | append
  | duplicate
  | document
  deriving DecidableEq, Repr

/-- What is to be done with a parameter that is not set, or set where it should not be. -/
inductive Fallback where
  | use
  | assign
  | require
  | replace
  deriving DecidableEq, Repr

mutual

/-- A piece of a word. What a quoted piece stands for is neither split into fields nor read as a
    pattern. -/
inductive Piece where
  | text (quoted : Bool) (cs : List Char)
  | parameter (quoted : Bool) (name : List Char) (use : Use)
  | sum (quoted : Bool) (expression : List Piece)
  | output (quoted : Bool) (body : Statement)

/-- What is made of the value of a parameter. With `emptyToo` an empty value counts as none. -/
inductive Use where
  | value
  | length
  | otherwise (emptyToo : Bool) (fallback : Fallback) (word : List Piece)
  | dropStart (longest : Bool) (pattern : List Piece)
  | dropEnd (longest : Bool) (pattern : List Piece)
  /-- What cannot be made of any parameter. -/
  | invalid

/-- Where a descriptor is to lead. -/
inductive Redirection where
  | mk (descriptor : Nat) (direction : Direction) (target : List Piece)

/-- A statement. -/
inductive Statement where
  /-- Assignments, then a command with its arguments. -/
  | simple (line : Nat) (assignments : List (List Char × List Piece)) (words : List (List Piece))
      (redirections : List Redirection)
  | sequence (statements : List Statement)
  | both (first second : Statement)
  | either (first second : Statement)
  | negation (inner : Statement)
  | pipeline (stages : List Statement)
  | branch (condition yes no : Statement)
  | loop (untilTrue : Bool) (condition body : Statement)
  /-- A loop over words, or over the arguments where no words are given. -/
  | each (line : Nat) (name : List Char) (words : Option (List (List Piece))) (body : Statement)
  | choice (line : Nat) (subject : List Piece) (cases : List (List (List Piece) × Statement))
  | subshell (body : Statement)
  /-- A statement whose status is not waited for. -/
  | background (inner : Statement)
  | redirected (line : Nat) (inner : Statement) (redirections : List Redirection)
  | function (name : List Char) (body : Statement)

end

/-- A word: the pieces that stand next to each other. -/
abbrev Word := List Piece

instance : Inhabited Piece := ⟨.text false []⟩
instance : Inhabited Statement := ⟨.sequence []⟩

end NativeExtension.Shell

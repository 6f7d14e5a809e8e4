import NativeExtension.Regex.Match

/-!
Instructions of a program that edits lines one after the other: which lines each is for, and what it
does with them. Scripts call the editor to change the files of a build in their places.
-/
namespace NativeExtension.Editor

/-- An expression that lines are matched with. Without one the last that was used is meant. -/
structure Pattern where
  regex : Option Regex
  foldsCase : Bool
  byLine : Bool

/-- A line that is picked. -/
inductive Address where
  | line (n : Nat)
  /-- Every line that lies a multiple of the step behind the first. -/
  | step (first step : Nat)
  | last
  | holding (p : Pattern)

/-- The line at which a range of lines ends. -/
inductive RangeEnd where
  | line (n : Nat)
  | further (count : Nat)
  | multiple (n : Nat)
  | last
  | holding (p : Pattern)

/-- The lines that an instruction is for. -/
structure Selection where
  first : Option Address
  last : Option RangeEnd
  inverted : Bool

/-- How letters are changed that are put in. -/
inductive CaseChange where
  | upper
  | lower
  | upperNext
  | lowerNext
  | none
  deriving DecidableEq, Repr

/-- A part of what is put in place of a match. -/
inductive Part where
  | text (cs : List Char)
  | group (n : Nat)
  | letters (change : CaseChange)
  deriving DecidableEq, Repr

/-- What is put in place of a match, and which matches are meant. -/
structure Substitution where
  pattern : Pattern
  parts : List Part
  everywhere : Bool
  /-- The first match that is meant. -/
  number : Nat
  printed : Bool
  runs : Bool
  file : Option (List Char)

/-- What an instruction does. -/
inductive Action where
  | nothing
  /-- Goes on behind the counterpart where the lines are not meant. -/
  | block (behind : Nat)
  | label (name : List Char)
  | append (text : List Char)
  | insert (text : List Char)
  | change (text : List Char)
  | branch (label : List Char)
  | branchIfChanged (label : List Char)
  | branchUnlessChanged (label : List Char)
  | delete
  | deleteFirst
  | numberLine
  | name
  | get
  | getMore
  | hold
  | holdMore
  | exchange
  | show
  | next
  | nextMore
  | print
  | printFirst
  | quit (status : Nat)
  | quitAtOnce (status : Nat)
  | readFile (path : List Char)
  | readLine (path : List Char)
  | substitute (s : Substitution)
  | translate (pairs : List (Regex.Symbol × Regex.Symbol))
  | writeFile (path : List Char)
  | writeFirst (path : List Char)
  | clear

/-- An instruction. -/
structure Instruction where
  selection : Selection
  action : Action

/-- The labels that an instruction goes to. -/
def Action.target? : Action → Option (List Char)
  | .branch aim | .branchIfChanged aim | .branchUnlessChanged aim =>
    if aim = [] then none else some aim
  | _ => none

end NativeExtension.Editor

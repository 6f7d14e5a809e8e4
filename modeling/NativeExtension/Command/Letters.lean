/-!
Options of commands: letters behind a dash, some with a value, and long names behind two dashes.
-/
namespace NativeExtension.Command

/-- Why arguments cannot be read as options. -/
inductive LetterFault where
  | unknown (letter : Char)
  | noValue (letter : Char)
  | unknownName (name : List Char)
  | noNamedValue (name : List Char)
  | unwantedValue (name : List Char)
  | ambiguousName (name : List Char) (possible : List String)
  deriving DecidableEq, Repr

/-- The options that a command has: letters alone, letters with a value, and long names with the
    letters that they stand for. With `anywhere` options may stand behind other arguments. -/
structure Letters where
  plain : List Char
  valued : List Char
  names : List (String × Char)
  anywhere : Bool

/-- Options as they were given, each with its value, and the other arguments. -/
structure Chosen where
  options : List (Char × List Char)
  operands : List (List Char)
  deriving DecidableEq, Repr

namespace Chosen

/-- Whether an option was given. -/
def has (c : Chosen) (letter : Char) : Bool := c.options.any (·.1 == letter)

/-- The value of an option that was given, the last one if there are several. -/
def value? (c : Chosen) (letter : Char) : Option (List Char) :=
  (c.options.filter (·.1 == letter)).getLast?.map Prod.snd

/-- The values of an option, in the order in which they were given. -/
def values (c : Chosen) (letter : Char) : List (List Char) :=
  (c.options.filter (·.1 == letter)).map Prod.snd

/-- The letter that was given last, of several. -/
def last? (c : Chosen) (letters : List Char) : Option Char :=
  (c.options.filter fun o => letters.contains o.1).getLast?.map Prod.fst

end Chosen

namespace Letters

/-- The options in one word behind its dash, and the letter at its end that still has no value. -/
def ofWord (l : Letters) : List Char → Except LetterFault (List (Char × List Char) × Option Char)
  | [] => .ok ([], none)
  | c :: cs =>
    if l.plain.contains c then do
      let (options, open_) ← ofWord l cs
      pure ((c, []) :: options, open_)
    else if l.valued.contains c then
      if cs = [] then .ok ([], some c) else .ok ([(c, cs)], none)
    else .error (.unknown c)

/-- The option that a long name stands for, with its value if it holds one, or the letter that still
    has none. A name may be cut short where it stays the only one. -/
def ofName (l : Letters) (word : List Char) :
    Except LetterFault (List (Char × List Char) × Option Char) :=
  let name := word.takeWhile (· != '=')
  let value := match word.drop name.length with
    | _ :: value => some value
    | [] => none
  let found :=
    let exact := l.names.filter (·.1.toList == name)
    if exact = [] then l.names.filter fun n => name.isPrefixOf n.1.toList else exact
  match found with
  | [] => .error (.unknownName name)
  | (n, c) :: others =>
    if others.any (·.2 != c) then .error (.ambiguousName name (found.map Prod.fst))
    else if l.valued.contains c then
      match value with
      | some value => .ok ([(c, value)], none)
      | none => .ok ([], some c)
    else if value.isSome then .error (.unwantedValue n.toList)
    else .ok ([(c, [])], none)

/-- Reads arguments; `awaited` is the letter whose value comes next, and whether it was given by its
    long name. -/
def readFrom (l : Letters) (awaited : Option (Char × Bool)) :
    List (List Char) → Except LetterFault Chosen
  | [] =>
    match awaited with
    | none => .ok ⟨[], []⟩
    | some (c, false) => .error (.noValue c)
    | some (c, true) =>
      .error (.noNamedValue ((l.names.find? (·.2 == c)).elim [] fun n => n.1.toList))
  | word :: words =>
    match awaited, word with
    | some (c, _), value => do
      let rest ← readFrom l none words
      pure { rest with options := (c, value) :: rest.options }
    | none, ['-', '-'] => .ok ⟨[], words⟩
    | none, '-' :: '-' :: name =>
      if l.names = [] then .error (.unknown '-')
      else do
        let (options, open_) ← l.ofName name
        let rest ← readFrom l (open_.map (·, true)) words
        pure { rest with options := options ++ rest.options }
    | none, '-' :: c :: cs => do
      let (options, open_) ← l.ofWord (c :: cs)
      let rest ← readFrom l (open_.map (·, false)) words
      pure { rest with options := options ++ rest.options }
    | none, word =>
      if l.anywhere then do
        let rest ← readFrom l none words
        pure { rest with operands := word :: rest.operands }
      else .ok ⟨[], word :: words⟩

/-- The options among the arguments of a command, and the other arguments. -/
def read (l : Letters) (args : List (List Char)) : Except LetterFault Chosen := l.readFrom none args

end Letters

end NativeExtension.Command

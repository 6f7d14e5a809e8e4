import NativeExtension.Files.Access
import NativeExtension.Shell.Calculation
import NativeExtension.Text.Octets

/-!
Conditions on texts, numbers and files, written as a list of words.
-/
namespace NativeExtension.Shell

/-- Why a condition is none. -/
inductive ConditionError where
  | unexpectedOperator (word : List Char)
  | argumentExpected (operator : List Char)
  | parenthesisExpected
  | illegalNumber (text : List Char)
  deriving DecidableEq, Repr

namespace ConditionError

/-- The wording of an error in a condition. -/
def text : ConditionError → List Char
  | unexpectedOperator [] => "unexpected operator".toList
  | unexpectedOperator word => word ++ ": unexpected operator".toList
  | argumentExpected operator => operator ++ ": argument expected".toList
  | parenthesisExpected => "closing paren expected".toList
  | illegalNumber text => "Illegal number: ".toList ++ text

end ConditionError

namespace Condition

/-- Operators in front of one word. -/
def unaryOperators : List (List Char) :=
  ["-r", "-w", "-x", "-e", "-f", "-d", "-c", "-b", "-p", "-u", "-g", "-k", "-s", "-t", "-z", "-n", "-h",
    "-O", "-G", "-L", "-S"].map String.toList

/-- Operators between two words. -/
def binaryOperators : List (List Char) :=
  ["=", "!=", "<", ">", "-eq", "-ne", "-ge", "-gt", "-le", "-lt", "-nt", "-ot", "-ef"].map String.toList

/-- What the first of the words left is. -/
inductive Role where
  | nothing
  | operand
  | unary
  | binary
  | and
  | or
  | not
  | opening
  | closing
  deriving DecidableEq, Repr

/-- The role of the first of the words left. An operator in front of nothing, or in front of an
    operator between two words, is a word itself. -/
def role : List (List Char) → Role
  | [] => .nothing
  | w :: rest =>
    let alone :=
      match rest with
      | [] => true
      | next :: more => !more.isEmpty && binaryOperators.contains next
    if unaryOperators.contains w then if alone then .operand else .unary
    else if binaryOperators.contains w then .binary
    else if w == "-a".toList then .and
    else if w == "-o".toList then .or
    else if w == ['!'] then .not
    else if w == ['('] then if rest.isEmpty then .operand else .opening
    else if w == [')'] then .closing
    else .operand

/-- What stands at a path. -/
def entryAt? (t : FileTree) (aim : FileTree.Aim) (path : List Char) : Option Entry :=
  match t.resolve aim (Text.Octets.toString path) with
  | .ok l => t.get? l
  | .error _ => none

/-- Whether a word fits an operator in front of it. Directories may be used in every way, and of a
    file the permission bits of its owner count. -/
def unary (t : FileTree) (operator word : List Char) : Bool :=
  let entry := entryAt? t .target word
  let isFileWith (test : ByteArray → Nat → Bool) : Bool :=
    match entry with
    | some (.file content mode) => test content mode
    | _ => false
  let isDevice : Bool :=
    match entry with
    | some (.device _) => true
    | _ => false
  let isDirectory : Bool := entry.any Entry.isDirectory
  let may (test : Nat → Bool) : Bool :=
    match entry with
    | some (.directory mode) | some (.file _ mode) => test mode
    | _ => isDevice
  match String.ofList operator with
  | "-z" => word.isEmpty
  | "-n" => !word.isEmpty
  | "-e" | "-O" | "-G" => entry.isSome
  | "-r" => may FileTree.mayRead
  | "-w" => may FileTree.mayWrite
  | "-x" => !isDevice && may FileTree.mayExecute
  | "-f" => isFileWith fun _ _ => true
  | "-c" => isDevice
  | "-d" => isDirectory
  | "-s" => isDirectory || isFileWith fun content _ => content.size != 0
  | "-u" => isFileWith fun _ mode => mode &&& 0o4000 != 0
  | "-g" => isFileWith fun _ mode => mode &&& 0o2000 != 0
  | "-k" => isFileWith fun _ mode => mode &&& 0o1000 != 0
  | "-h" | "-L" =>
    match entryAt? t .link word with
    | some (.link _) => true
    | _ => false
  | _ => false

/-- The number that a word of a condition spells. -/
def number (word : List Char) : Except ConditionError Int :=
  match integer? word with
  | some n => .ok n
  | none => .error (.illegalNumber word)

/-- Whether two words fit the operator between them. No file is newer than another. -/
def binary (t : FileTree) (left operator right : List Char) : Except ConditionError Bool := do
  match String.ofList operator with
  | "=" => pure (left == right)
  | "!=" => pure (left != right)
  | "<" => pure (decide (left < right))
  | ">" => pure (decide (right < left))
  | "-eq" => return (← number left) == (← number right)
  | "-ne" => return (← number left) != (← number right)
  | "-lt" => return decide ((← number left) < (← number right))
  | "-le" => return decide ((← number left) ≤ (← number right))
  | "-gt" => return decide ((← number left) > (← number right))
  | "-ge" => return decide ((← number left) ≥ (← number right))
  | "-ef" =>
    match t.find (Text.Octets.toString left), t.find (Text.Octets.toString right) with
    | .ok (l, _), .ok (r, _) => pure (l == r)
    | _, _ => pure false
  | _ => pure false

/-- How tightly a part of a condition is bound. -/
inductive Tightness where
  | alternatives
  | conjunction
  | negated
  | single
  deriving DecidableEq, Repr

/-- Whether the first part of the words holds, and the words left. -/
def part (t : FileTree) : (fuel : Nat) → Tightness → List (List Char) →
    Except ConditionError (Bool × List (List Char))
  | 0, _, ws => .ok (false, ws)
  | fuel + 1, .alternatives, ws => do
    let (first, rest) ← part t fuel .conjunction ws
    if role rest = .or then
      let (second, rest) ← part t fuel .alternatives rest.tail
      pure (first || second, rest)
    else pure (first, rest)
  | fuel + 1, .conjunction, ws => do
    let (first, rest) ← part t fuel .negated ws
    if role rest = .and then
      let (second, rest) ← part t fuel .conjunction rest.tail
      pure (first && second, rest)
    else pure (first, rest)
  | fuel + 1, .negated, ws => do
    if role ws = .not then
      let (holds, rest) ← part t fuel .negated ws.tail
      pure (!holds, rest)
    else part t fuel .single ws
  | fuel + 1, .single, ws => do
    match role ws, ws with
    | .nothing, _ | _, [] => pure (false, [])
    | .opening, _ :: rest =>
      if role rest = .closing then pure (false, rest.tail)
      else
        let (holds, rest) ← part t fuel .alternatives rest
        if role rest = .closing then pure (holds, rest.tail) else throw .parenthesisExpected
    | .unary, operator :: rest =>
      match rest with
      | [] => throw (.argumentExpected operator)
      | w :: rest => pure (unary t operator w, rest)
    | _, w :: rest =>
      if role rest = .binary then
        match rest with
        | operator :: right :: rest => return (← binary t w operator right, rest)
        | operator :: [] => throw (.argumentExpected operator)
        | [] => pure (!w.isEmpty, rest)
      else pure (!w.isEmpty, rest)

/-- Whether all the words make a condition that holds. -/
def whole (t : FileTree) (ws : List (List Char)) : Except ConditionError Bool := do
  let (holds, rest) ← part t (4 * (ws.length + 1)) .alternatives ws
  if rest = [] then pure holds
  else throw (.unexpectedOperator ((ws.drop (ws.length - rest.length - 1)).headD []))

/-- Whether a condition holds. No words are a condition that does not. Of three words an operator in
    the middle is one whatever the others are, and of three or four a mark of negation or a pair of
    parentheses around the others is one. -/
def holds (t : FileTree) : (fuel : Nat) → List (List Char) → Except ConditionError Bool
  | _, [] => .ok false
  | 0, ws => whole t ws
  | fuel + 1, ws =>
    match ws with
    | [left, operator, right] =>
      if binaryOperators.contains operator then binary t left operator right
      else if left = ['('] && right = [')'] then whole t [operator]
      else if left = ['!'] then (holds t fuel [operator, right]).map (!·)
      else whole t ws
    | [first, second, third, fourth] =>
      if first = ['('] && fourth = [')'] then whole t [second, third]
      else if first = ['!'] then (holds t fuel [second, third, fourth]).map (!·)
      else whole t ws
    | ws => whole t ws

end Condition

end NativeExtension.Shell

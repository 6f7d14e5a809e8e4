import NativeExtension.Text.Digits

/-!
Calculations with whole numbers in scripts. Numbers are 64-bit words with a sign, and what the
operators `&&`, `||` and `?` leave out is read but neither assigns nor fails.
-/
namespace NativeExtension.Shell

/-- Why a sum has no value. -/
inductive CalculationError where
  | expectingPrimary
  | expectingEnd
  | expectingColon
  | expectingParenthesis
  | divisionByZero
  | illegalNumber (text : List Char)
  deriving DecidableEq, Repr

/-- What is left of a sum, and the assignments made, the last one first. -/
structure CalculationState where
  rest : List Char
  assigned : List (List Char × Int)
  deriving DecidableEq, Repr

/-- A part of a sum that is being read and worked out. -/
abbrev Calculation := StateT CalculationState (Except CalculationError)

/-- How many 64-bit words there are. -/
def wordCount : Nat := 1 <<< 64

/-- The 64-bit number with a sign that is equal to a number but for multiples of the number of
    words. -/
def wrapped (n : Int) : Int := Int.bmod n wordCount

/-- The greatest 64-bit number with a sign. -/
def greatest : Nat := wordCount / 2 - 1

/-- The value of a digit in any base up to sixteen. -/
def digitValue (c : Char) : Nat :=
  if '0' ≤ c && c ≤ '9' then c.toNat - '0'.toNat
  else if 'a' ≤ c && c ≤ 'f' then c.toNat - 'a'.toNat + 10
  else if 'A' ≤ c && c ≤ 'F' then c.toNat - 'A'.toNat + 10
  else 16

/-- The number that starts a text, and what follows its digits. A leading zero makes it octal, and
    `0x` hexadecimal. Numbers that are too great become the greatest. -/
def leadingNumber (cs : List Char) : Nat × List Char :=
  let (base, cs) :=
    match cs with
    | '0' :: x :: d :: rest =>
      if (x == 'x' || x == 'X') && digitValue d < 16 then (16, d :: rest)
      else (8, '0' :: x :: d :: rest)
    | '0' :: rest => (8, '0' :: rest)
    | cs => (10, cs)
  let digits := cs.takeWhile fun c => digitValue c < base
  (min greatest (digits.foldl (fun n c => n * base + digitValue c) 0), cs.drop digits.length)

/-- Blanks around numbers. -/
def isCalculationBlank (c : Char) : Bool := c == ' ' || c == '\t' || c == '\n'

/-- Blanks around a number that is a word of its own. -/
def isNumberBlank (c : Char) : Bool := isCalculationBlank c || ['\r', '\x0b', '\x0c'].contains c

/-- The decimal number that a word spells, with blanks around it and a sign. -/
def integer? (word : List Char) : Option Int :=
  let cs := word.dropWhile isNumberBlank
  let sign := (cs.take 1).filter fun c => c == '-' || c == '+'
  let digits := (cs.drop sign.length).takeWhile Char.isDigit
  let rest := cs.drop (sign.length + digits.length)
  let n : Nat := digits.foldl (fun n c => n * 10 + digitValue c) 0
  if digits = [] || !rest.all isNumberBlank then none
  else if sign = ['-'] then if n ≤ greatest + 1 then some (-n) else none
  else if n ≤ greatest then some n
  else none

/-- The number that a whole text spells, with blanks around it and a sign. -/
def numberOf? (cs : List Char) : Option Int :=
  let cs := cs.dropWhile isCalculationBlank
  let (negative, cs) :=
    match cs with
    | '-' :: rest => (true, rest)
    | '+' :: rest => (false, rest)
    | cs => (false, cs)
  if cs.head?.any Char.isDigit then
    let (n, rest) := leadingNumber cs
    if rest.all isCalculationBlank then some (if negative then -n else n) else none
  else none

/-- Operators with two operands. -/
inductive BinaryOperator where
  | or | and | bitOr | bitXor | bitAnd
  | equal | unequal | atMost | less | atLeast | greater
  | shiftLeft | shiftRight | add | subtract | multiply | divide | remainder
  deriving DecidableEq, Repr

namespace BinaryOperator

/-- The operators that bind equally tightly, from the loosest to the tightest, with their marks. A
    mark comes before those that it starts with. -/
def levels : List (List (List Char × BinaryOperator)) :=
  [[("||", or)], [("&&", and)], [("|", bitOr)], [("^", bitXor)], [("&", bitAnd)],
    [("==", equal), ("!=", unequal)],
    [("<=", atMost), (">=", atLeast), ("<", less), (">", greater)],
    [("<<", shiftLeft), (">>", shiftRight)], [("+", add), ("-", subtract)],
    [("*", multiply), ("/", divide), ("%", remainder)]].map fun level =>
      level.map fun (mark, op) => (mark.toList, op)

/-- Marks that other operators start with. -/
def longerMarks : List (List Char) :=
  ["||", "&&", "<<", ">>", "<=", ">="].map String.toList

/-- Whether a condition is a number. -/
def ofCondition (b : Bool) : Int := if b then 1 else 0

/-- The value of an operator. -/
def apply (op : BinaryOperator) (a b : Int) : Except CalculationError Int :=
  let word (n : Int) : BitVec 64 := BitVec.ofInt 64 n
  let shift : Nat := (b % 64).toNat
  match op with
  | or => .ok (ofCondition (a != 0 || b != 0))
  | and => .ok (ofCondition (a != 0 && b != 0))
  | bitOr => .ok (word a ||| word b).toInt
  | bitXor => .ok (word a ^^^ word b).toInt
  | bitAnd => .ok (word a &&& word b).toInt
  | equal => .ok (ofCondition (a == b))
  | unequal => .ok (ofCondition (a != b))
  | atMost => .ok (ofCondition (a ≤ b))
  | less => .ok (ofCondition (a < b))
  | atLeast => .ok (ofCondition (a ≥ b))
  | greater => .ok (ofCondition (a > b))
  | shiftLeft => .ok (wrapped (a * (1 <<< shift : Nat)))
  | shiftRight => .ok (a / (1 <<< shift : Nat))
  | add => .ok (wrapped (a + b))
  | subtract => .ok (wrapped (a - b))
  | multiply => .ok (wrapped (a * b))
  | divide => if b = 0 then .error .divisionByZero else .ok (wrapped (Int.tdiv a b))
  | remainder => if b = 0 then .error .divisionByZero else .ok (Int.tmod a b)

/-- The operator that starts a text, out of those of one level, and what follows it. -/
def start? (level : List (List Char × BinaryOperator)) (cs : List Char) :
    Option (BinaryOperator × List Char) := do
  let (mark, op) ← level.find? fun (mark, _) => mark.isPrefixOf cs
  if mark.length = 1 && longerMarks.any (·.isPrefixOf cs) then none
  else some (op, cs.drop mark.length)

end BinaryOperator

namespace Calculation

/-- Skips blanks; also gives what is left. -/
def blanks : Calculation (List Char) := do
  modify fun s => { s with rest := s.rest.dropWhile isCalculationBlank }
  return (← get).rest

/-- Goes on from a later place. -/
def goTo (rest : List Char) : Calculation Unit := modify fun s => { s with rest }

/-- The number that a name stands for: what was assigned to it in this sum, or its value before. -/
def named (value : List Char → List Char) (name : List Char) : Calculation Int := do
  match (← get).assigned.lookup name with
  | some n => pure n
  | none =>
    let text := value name
    if text.all isCalculationBlank then pure 0
    else
      match numberOf? text with
      | some n => pure n
      | none => throw (.illegalNumber text)

/-- Operands and operators of one level, from the left. An operand is told whether it counts. -/
def level (operators : List (List Char × BinaryOperator)) (operand : Bool → Calculation Int)
    (live : Bool) :
    (fuel : Nat) → (first : Int) → Calculation Int
  | 0, first => pure first
  | fuel + 1, first => do
    match BinaryOperator.start? operators (← blanks) with
    | none => pure first
    | some (op, after) =>
      goTo after
      let counts := live && !(op = .and && first = 0) && !(op = .or && first ≠ 0)
      let second ← operand counts
      let n ← if live then (op.apply first second : Except CalculationError Int) else pure 0
      level operators operand live fuel n

/-- A name that is assigned to, the operator in front of the equals sign, and what follows. -/
def assignment? (cs : List Char) : Option (List Char × Option BinaryOperator × List Char) :=
  let name := cs.takeWhile fun c => c.isAlphanum || c == '_'
  let after := (cs.drop name.length).dropWhile isCalculationBlank
  let operators := BinaryOperator.levels.flatten.filter fun (mark, op) =>
    (mark.length = 1 || op = .shiftLeft || op = .shiftRight) && !(op = .less || op = .greater)
  if name.head?.any fun c => c.isAlpha || c == '_' then
    match after with
    | '=' :: '=' :: _ => none
    | '=' :: rest => some (name, none, rest)
    | _ =>
      match operators.find? fun (mark, _) => (mark ++ ['=']).isPrefixOf after with
      | some (mark, op) => some (name, some op, after.drop (mark.length + 1))
      | none => none
  else none

/-- A sum, as tightly bound as the given level says: assignments and conditions first, then the
    levels of operators, then signs and single values. -/
def expression (value : List Char → List Char) :
    (fuel : Nat) → (tightness : Nat) → (live : Bool) → Calculation Int
  | 0, _, _ => throw .expectingPrimary
  | fuel + 1, 0, live => do
    match assignment? (← blanks) with
    | some (name, op, after) =>
      goTo after
      let n ← expression value fuel 0 live
      if live then
        let n ← match op with
          | none => pure n
          | some op => (op.apply (← named value name) n : Except CalculationError Int)
        modify fun s => { s with assigned := (name, n) :: s.assigned }
        pure n
      else pure 0
    | none =>
      let condition ← expression value fuel 1 live
      match ← blanks with
      | '?' :: after =>
        goTo after
        let yes ← expression value fuel 0 (live && condition ≠ 0)
        match ← blanks with
        | ':' :: after =>
          goTo after
          let no ← expression value fuel 0 (live && condition = 0)
          pure (if condition ≠ 0 then yes else no)
        | _ => throw .expectingColon
      | _ => pure condition
  | fuel + 1, tightness + 1, live => do
    match BinaryOperator.levels[tightness]? with
    | some operators =>
      let operand := expression value fuel (tightness + 2)
      level operators operand live fuel (← operand live)
    | none =>
      match ← blanks with
      | '-' :: after => goTo after; return wrapped (-(← expression value fuel (tightness + 1) live))
      | '+' :: after => goTo after; expression value fuel (tightness + 1) live
      | '~' :: after => goTo after; return -(← expression value fuel (tightness + 1) live) - 1
      | '!' :: after =>
        goTo after
        return BinaryOperator.ofCondition ((← expression value fuel (tightness + 1) live) == 0)
      | '(' :: after =>
        goTo after
        let n ← expression value fuel 0 live
        match ← blanks with
        | ')' :: after => goTo after; pure n
        | _ => throw .expectingParenthesis
      | c :: after =>
        if c.isDigit then
          let (n, after) := leadingNumber (c :: after)
          goTo after
          pure n
        else if c.isAlpha || c == '_' then
          let name := (c :: after).takeWhile fun c => c.isAlphanum || c == '_'
          goTo ((c :: after).drop name.length)
          if live then named value name else pure 0
        else throw .expectingPrimary
      | [] => throw .expectingPrimary

/-- The value of a whole sum and the assignments that it makes, in order. `value` gives the values
    of names. Every operator and every level of nesting spends fuel. -/
def ofText (value : List Char → List Char) (cs : List Char) :
    Except CalculationError (Int × List (List Char × Int)) := do
  let all : Calculation Int := do
    let n ← expression value (16 * (cs.length + 1)) 0 true
    if (← blanks) != [] then throw .expectingEnd
    pure n
  let (n, s) ← all.run ⟨cs, []⟩
  pure (n, s.assigned.reverse)

end Calculation

namespace CalculationError

/-- The wording of an error in a sum. -/
def text (sum : List Char) : CalculationError → List Char
  | illegalNumber text => "Illegal number: ".toList ++ text
  | e =>
    let reason :=
      match e with
      | expectingPrimary => "expecting primary"
      | expectingEnd => "expecting EOF"
      | expectingColon => "expecting ':'"
      | expectingParenthesis => "expecting ')'"
      | divisionByZero => "division by zero"
      | illegalNumber _ => ""
    "arithmetic expression: ".toList ++ reason.toList ++ ": \"".toList ++ sum ++ ['"']

end CalculationError

end NativeExtension.Shell

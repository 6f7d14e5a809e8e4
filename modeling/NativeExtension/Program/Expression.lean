import NativeExtension.Program.Names
import NativeExtension.Regex.Match
import NativeExtension.Regex.Reader

/-!
The program that calculates with its arguments: numbers, comparisons, and parts of texts.
-/
namespace NativeExtension.Utility

open Shell (Run)

namespace Expression

/-- A value: a number, or a text that may spell one. -/
inductive Value where
  | number (n : Int)
  | text (cs : List Char)
  deriving DecidableEq, Repr

/-- The text of a value. -/
def Value.chars : Value → List Char
  | .number n => (toString n).toList
  | .text cs => cs

/-- The whole number that a text spells: digits, with a sign for those below zero. -/
def integer? (cs : List Char) : Option Int :=
  match cs with
  | '-' :: ds => (Shell.natural? ds).map fun n => -(n : Int)
  | ds => (Shell.natural? ds).map Int.ofNat

/-- The number that a value is. -/
def Value.integer? : Value → Option Int
  | .number n => some n
  | .text cs => Expression.integer? cs

/-- Whether a value counts as false: no text, or nothing but zeros. -/
def Value.isNull (v : Value) : Bool :=
  match v.chars with
  | [] => true
  | '-' :: cs => cs != [] && cs.all (· == '0')
  | cs => cs.all (· == '0')

/-- What is wrong with an expression. -/
inductive Mistake where
  | missing (before : List Char)
  | unexpected (word : List Char)
  | unclosed (before : List Char)
  | notClosed (word : List Char)
  | closed
  | notInteger
  | byZero
  | regex (mistake : Regex.Mistake)

/-- The wording of a mistake. -/
def Mistake.message : Mistake → List Char
  | .missing before => "syntax error: missing argument after ".toList ++ quoted before
  | .unexpected word => "syntax error: unexpected argument ".toList ++ quoted word
  | .unclosed before => "syntax error: expecting ')' after ".toList ++ quoted before
  | .notClosed word => "syntax error: expecting ')' instead of ".toList ++ quoted word
  | .closed => "syntax error: unexpected ')'".toList
  | .notInteger => "non-integer argument".toList
  | .byZero => "division by zero".toList
  | .regex mistake => mistake.message.toList

/-- The arguments that are left, and the one in front of them. -/
structure Scan where
  before : List Char
  rest : List (List Char)

/-- The next argument. -/
def Scan.next (s : Scan) : Except Mistake (List Char × Scan) :=
  match s.rest with
  | [] => .error (.missing s.before)
  | word :: rest => .ok (word, ⟨word, rest⟩)

/-- The operators, from those that bind least on. -/
def operators : List (List String) :=
  [["|"], ["&"], ["<", "<=", "=", "==", "!=", ">=", ">"], ["+", "-"], ["*", "/", "%"], [":"]]

/-- The first group of a match at the start of a text, or how long the match is where there is no
    group. -/
def matched (text pattern : List Char) : Except Mistake Value :=
  match Regex.read ⟨false, false, false⟩ pattern with
  | .error mistake => .error (.regex mistake)
  | .ok r =>
    let t : Regex.Subject := ⟨(Regex.symbols text).toArray, false, false, true, true⟩
    let hasGroup := r.groupCount != 0
    match Regex.matchAt? r t 0 with
    | some m =>
      if hasGroup then .ok (.text (Regex.text (m.group t 1)))
      else .ok (.number (m.spot.place : Int))
    | none => .ok (if hasGroup then .text [] else .number 0)

/-- Whether texts compare as octets one after the other. -/
def textOrder : List Char → List Char → Ordering
  | [], [] => .eq
  | [], _ => .lt
  | _, [] => .gt
  | a :: as, b :: bs => if a = b then textOrder as bs else if a < b then .lt else .gt

/-- The order of two values: as numbers if both are, and else as texts. -/
def order (l r : Value) : Ordering :=
  match l.integer?, r.integer? with
  | some a, some b => compare a b
  | _, _ => textOrder l.chars r.chars

/-- Two values under an operator that is not one of the conditional ones. -/
def combined (operator : String) (l r : Value) : Except Mistake Value :=
  let truth (b : Bool) : Except Mistake Value := .ok (.number (if b then 1 else 0))
  let numbers (f : Int → Int → Except Mistake Int) : Except Mistake Value :=
    match l.integer?, r.integer? with
    | some a, some b => (f a b).map .number
    | _, _ => .error .notInteger
  match operator with
  | "<" => truth (order l r == .lt)
  | "<=" => truth (order l r != .gt)
  | "=" | "==" => truth (order l r == .eq)
  | "!=" => truth (order l r != .eq)
  | ">=" => truth (order l r != .lt)
  | ">" => truth (order l r == .gt)
  | "+" => numbers fun a b => .ok (a + b)
  | "-" => numbers fun a b => .ok (a - b)
  | "*" => numbers fun a b => .ok (a * b)
  | "/" => numbers fun a b => if b = 0 then .error .byZero else .ok (a.tdiv b)
  | "%" => numbers fun a b => if b = 0 then .error .byZero else .ok (a.tmod b)
  | ":" => matched l.chars r.chars
  | _ => .ok l

/-- A part of a text: so many symbols from a place on, counted from one. -/
def part (text : List Char) (first count : Value) : List Char :=
  match first.integer?, count.integer? with
  | some first, some count =>
    if first ≤ 0 || count ≤ 0 then []
    else Regex.text (((Regex.symbols text).drop (first.toNat - 1)).take count.toNat)
  | _, _ => []

/-- The place of the first symbol of a text that is one of several, counted from one. -/
def placeOf (text symbols : List Char) : Nat :=
  let set := Regex.symbols symbols
  match (Regex.symbols text).findIdx? set.contains with
  | some i => i + 1
  | none => 0

mutual

/-- A value whose operators bind at least as much as those of a level. What is not `live` is read and
    not calculated. Every step spends fuel. -/
def value : (fuel level : Nat) → (live : Bool) → Scan → Except Mistake (Value × Scan)
  | 0, _, _, s => .error (.missing s.before)
  | fuel + 1, level, live, s =>
    if level < operators.length then
      match value fuel (level + 1) live s with
      | .ok (l, s) => chain fuel level live l s
      | .error mistake => .error mistake
    else primary fuel live s

/-- A value with the operators of a level that follow it. -/
def chain : (fuel level : Nat) → (live : Bool) → Value → Scan → Except Mistake (Value × Scan)
  | 0, _, _, l, s => .ok (l, s)
  | fuel + 1, level, live, l, s =>
    match s.rest with
    | [] => .ok (l, s)
    | word :: rest =>
      let operator := String.ofList word
      if !(operators.getD level []).contains operator then .ok (l, s)
      else
        let isLive := live && (operator != "|" || l.isNull) && (operator != "&" || !l.isNull)
        match value fuel (level + 1) isLive ⟨word, rest⟩ with
        | .error mistake => .error mistake
        | .ok (r, s) =>
          if operator == "|" then
            let new := if !l.isNull then l else if r.isNull then .number 0 else r
            chain fuel level live new s
          else if operator == "&" then
            chain fuel level live (if l.isNull || r.isNull then .number 0 else l) s
          else if !live then chain fuel level live l s
          else
            match combined operator l r with
            | .ok new => chain fuel level live new s
            | .error mistake => .error mistake

/-- A word, a value between parentheses, or a function of values. -/
def primary : (fuel : Nat) → (live : Bool) → Scan → Except Mistake (Value × Scan)
  | 0, _, s => .error (.missing s.before)
  | fuel + 1, live, s => do
    let (word, after) ← s.next
    match String.ofList word with
    | "+" =>
      let (word, s) ← after.next
      pure (.text word, s)
    | "length" =>
      let (v, s) ← primary fuel live after
      pure (.number ((Regex.symbols v.chars).length : Int), s)
    | "match" =>
      let (l, s) ← primary fuel live after
      let (r, s) ← primary fuel live s
      if live then pure (← matched l.chars r.chars, s) else pure (l, s)
    | "index" =>
      let (l, s) ← primary fuel live after
      let (r, s) ← primary fuel live s
      pure (.number (placeOf l.chars r.chars : Int), s)
    | "substr" =>
      let (l, s) ← primary fuel live after
      let (first, s) ← primary fuel live s
      let (count, s) ← primary fuel live s
      pure (.text (part l.chars first count), s)
    | "(" =>
      let (v, s) ← value fuel 0 live after
      match s.rest with
      | [] => throw (.unclosed s.before)
      | word :: rest =>
        if word == [')'] then pure (v, ⟨word, rest⟩) else throw (.notClosed word)
    | ")" => throw .closed
    | _ => pure (.text word, after)

end

/-- The value of an expression of the given words. -/
def calculate (words : List (List Char)) : Except Mistake Value := do
  let (v, s) ← value (16 * (words.length + 1)) 0 true ⟨[], words⟩
  match s.rest with
  | [] => pure v
  | word :: _ => throw (.unexpected word)

end Expression

/-- Calculates with its arguments. -/
def expression : Tool := fun args => do
  let words := if args.head? == some ['-', '-'] then args.tail else args
  if words = [] then misuse 2 "missing operand".toList
  match Expression.calculate words with
  | .ok v =>
    Run.emit 1 (v.chars ++ ['\n'])
    pure (if v.isNull then 1 else 0)
  | .error mistake =>
    complain mistake.message
    pure 2

end NativeExtension.Utility

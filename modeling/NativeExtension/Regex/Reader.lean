import NativeExtension.Regex.Syntax

/-!
Reading regular expressions. There are two ways to write them: in one the marks for groups, choices
and intervals stand behind a backslash, in the other they are bare. A mark that is out of place is
refused, or has a meaning that does no harm.
-/
namespace NativeExtension.Regex

/-- How expressions are written. -/
structure Manner where
  /-- The marks stand alone, not behind a backslash. -/
  bare : Bool
  /-- Marks out of place are refused. -/
  strict : Bool
  /-- A set that is written as a class of characters outside of a set is refused. -/
  careful : Bool
  deriving DecidableEq, Repr

/-- Whether a symbol is a given character. -/
def isChar (s : Symbol) (c : Char) : Bool := s == c.toNat

/-- What is open while an expression is read: the number of the group, the choices that are complete,
    and the parts of the one that is not, the last one first. -/
structure Frame where
  number : Nat
  choices : List Regex
  parts : List Regex

/-- Parts one behind the other, the last one given first. -/
def ofParts : List Regex → Regex
  | [] => .nothing
  | last :: before => before.foldl (fun rest part => .sequence part rest) last

/-- The expression that a frame holds. -/
def Frame.regex (f : Frame) : Regex :=
  match f.choices ++ [ofParts f.parts] with
  | [] => .nothing
  | first :: rest =>
    -- A choice is as long as the longest of its parts, wherever it stands.
    rest.foldl Regex.choice first

/-- The name between a mark and its counterpart in front of a closing bracket, and what follows. -/
def bracketName? (mark : Char) : List Symbol → Option (List Symbol × List Symbol)
  | [] => none
  | a :: rest =>
    match rest with
    | b :: after =>
      if isChar a mark && isChar b ']' then some ([], after)
      else (bracketName? mark rest).map fun (name, after) => (a :: name, after)
    | [] => none

/-- The characters of symbols. -/
def charsOf (symbols : List Symbol) : List Char := symbols.map Char.ofNat

/-- One symbol between brackets, as it can stand at an end of a range, and what follows it. -/
def bracketSymbol : List Symbol → Except Mistake (Symbol × List Symbol)
  | [] => .error .openBracket
  | a :: rest =>
    match rest with
    | b :: after =>
      if isChar a '[' && (isChar b '.' || isChar b '=') then
        match bracketName? (Char.ofNat b) after with
        | none => .error .openBracket
        | some ([s], after) => .ok (s, after)
        | some _ => .error .collation
      else .ok (a, rest)
    | [] => .ok (a, [])

/-- The members between brackets, and what follows them. Every member spends fuel. -/
def members : (fuel : Nat) → (first : Bool) → List Symbol →
    Except Mistake (List Member × List Symbol)
  | 0, _, _ => .error .openBracket
  | _, _, [] => .error .openBracket
  | fuel + 1, first, a :: rest =>
    if isChar a ']' && !first then .ok ([], rest)
    else
      match if isChar a '[' && rest.head?.any (isChar · ':') then bracketName? ':' rest.tail
        else none with
      | some (name, after) =>
        match Text.CharacterClass.ofName? (charsOf name) with
        | none => .error .className
        | some k => do
          let (others, after) ← members fuel false after
          pure (.named k :: others, after)
      | none => do
        let (s, after) ← bracketSymbol (a :: rest)
        match after with
        | dash :: e :: more =>
          if isChar dash '-' && !isChar e ']' then do
            let (last, after) ← bracketSymbol (e :: more)
            if last < s then throw .range
            let (others, after) ← members fuel false after
            pure (.range s last :: others, after)
          else do
            let (others, after) ← members fuel false after
            pure (.range s s :: others, after)
        | after => do
          let (others, after) ← members fuel false after
          pure (.range s s :: others, after)

/-- Whether the members of a set look like a class of characters that stands alone. -/
def looksLikeClass (found : List Member) : Bool :=
  let colon := Member.range ':'.toNat ':'.toNat
  let isSingle : Member → Bool
    | .range first last => first == last
    | _ => false
  found.head? == some colon && found.getLast? == some colon && found.all isSingle &&
    found.any (· != colon)

/-- The set that stands behind an opening bracket, and what follows it. -/
def brackets (careful : Bool) (rest : List Symbol) : Except Mistake (Regex × List Symbol) := do
  let inverted := rest.head?.any (isChar · '^')
  let inside := if inverted then rest.tail else rest
  if inside = [] then throw .nothingMeant
  let (found, after) ← members (inside.length + 1) true inside
  if careful && looksLikeClass found then throw .classPlace
  pure (.among inverted found, after)

/-- The number at the start of symbols, if there is one, and what follows it. -/
def number? (rest : List Symbol) : Option Nat × List Symbol :=
  let ds := rest.takeWhile fun s => '0'.toNat ≤ s && s ≤ '9'.toNat
  (if ds = [] then none else some (ds.foldl (fun n d => n * 10 + (d - '0'.toNat)) 0),
    rest.drop ds.length)

/-- The greatest number of repetitions that can be asked for. -/
def repeatLimit : Nat := 32767

/-- What ends a bound of an interval. -/
inductive BoundEnd where
  | comma
  | brace
  | finish
  deriving DecidableEq, Repr

/-- The text of a bound of an interval, what ends it, and what follows that. -/
def boundText (bare : Bool) : List Symbol → List Symbol × BoundEnd × List Symbol
  | [] => ([], .finish, [])
  | a :: rest =>
    if isChar a ',' then ([], .comma, rest)
    else if bare && isChar a '\x7d' then ([], .brace, rest)
    else
      let more :=
        let (cs, stop, after) := boundText bare rest
        (a :: cs, stop, after)
      if bare || !isChar a '\\' then more
      else
        match rest with
        | b :: after => if isChar b '\x7d' then ([], .brace, after) else more
        | [] => more

/-- Why an interval cannot be read: a mistake wherever it stands, or one that makes a text of it where
    marks out of place do no harm. -/
inductive IntervalFault where
  | mistake (m : Mistake)
  | noInterval (m : Mistake)

/-- The bounds that stand behind an opening brace, and what follows them. -/
def interval (bare : Bool) (rest : List Symbol) :
    Except IntervalFault ((Nat × Option Nat) × List Symbol) := do
  let value (ds : List Symbol) (stop : BoundEnd) : Except IntervalFault (Option Nat) :=
    if stop = .finish then .error (.noInterval .openInterval)
    else if ds = [] then .ok none
    else
      match number? ds with
      | (some n, []) => .ok (some n)
      | _ => .error (.noInterval .interval)
  let (first, stop, rest) := boundText bare rest
  let least ← value first stop
  let (least, most, stop, rest) ←
    match stop, least with
    | .comma, least => do
      let (second, stop, rest) := boundText bare rest
      pure (least.getD 0, ← value second stop, stop, rest)
    | _, some n => pure (n, some n, stop, rest)
    | _, none => throw (.mistake .interval)
  if stop = .comma || most.any (· < least) then throw (.mistake .interval)
  if least > repeatLimit || most.any (· > repeatLimit) then throw (.mistake .tooBig)
  pure ((least, most), rest)

/-- What a backslash with a character stands for where that is the same in all expressions. -/
def escaped? (s : Symbol) : Option Regex :=
  if s ≥ 0x80 then none
  else
    match Char.ofNat s with
    | 'w' => some (.among false [.word true])
    | 'W' => some (.among true [.word true])
    | 's' => some (.among false [.named .space])
    | 'S' => some (.among true [.named .space])
    | 'b' => some (.edge .wordEdge)
    | 'B' => some (.edge .noWordEdge)
    | '<' => some (.edge .wordStart)
    | '>' => some (.edge .wordEnd)
    | '\x60' => some (.edge .textStart)
    | '\'' => some (.edge .textEnd)
    | _ => none

/-- What has been read of an expression: how many groups there are, which of them are complete, the
    marks for repetitions that had nothing in front of them, the last one first, and the frames that
    are open, the innermost first. -/
structure Reading where
  groups : Nat
  complete : List Nat
  idle : List Char
  frame : Frame
  outer : List Frame

namespace Reading

/-- Puts a part behind those that are there. -/
def add (r : Reading) (part : Regex) : Reading :=
  { r with frame := { r.frame with parts := part :: r.frame.parts } }

/-- Whether nothing can be repeated: a choice has just begun, or a place was asked for. -/
def isFresh (r : Reading) : Bool :=
  match r.frame.parts with
  | [] | .edge _ :: _ => true
  | _ => false

/-- Whether the last part is repeated. -/
def isRepeated (r : Reading) : Bool :=
  match r.frame.parts with
  | .repeated .. :: _ => true
  | _ => false

/-- Passes by a mark for a repetition, and keeps it in mind where only places stand before it. -/
def passedBy (r : Reading) (mark : Symbol) : Reading :=
  let isPlace : Regex → Bool
    | .edge _ => true
    | _ => false
  if r.frame.parts.all isPlace then { r with idle := Char.ofNat mark :: r.idle } else r

/-- Repeats the last part. -/
def repeated (r : Reading) (least : Nat) (most : Option Nat) : Reading :=
  match r.frame.parts with
  | [] => r
  | part :: before =>
    { r with frame := { r.frame with parts := .repeated least most part :: before } }

/-- Begins a group. -/
def opened (r : Reading) : Reading :=
  { r with groups := r.groups + 1, frame := ⟨r.groups + 1, [], []⟩, outer := r.frame :: r.outer }

/-- Ends a group, if one is open. -/
def closed? (r : Reading) : Option Reading :=
  match r.outer with
  | [] => none
  | frame :: outer =>
    let group := Regex.group r.frame.number r.frame.regex
    some { r with
      complete := r.frame.number :: r.complete
      frame := { frame with parts := group :: frame.parts }
      outer }

/-- Begins another choice. -/
def another (r : Reading) : Reading :=
  { r with frame := { r.frame with choices := r.frame.choices ++ [ofParts r.frame.parts], parts := [] } }

/-- Ends the expression. -/
def result (r : Reading) : Except Mistake Reading :=
  if r.outer.isEmpty then .ok r else .error .openGroup

end Reading

/-- Reads an expression. Every part spends fuel. -/
def readFrom (manner : Manner) : (fuel : Nat) → Reading → List Symbol → Except Mistake Reading
  | 0, r, _ => r.result
  | _, r, [] => r.result
  | fuel + 1, r, a :: rest =>
    let bare := manner.bare
    let go := readFrom manner fuel
    let literal (s : Symbol) (rest : List Symbol) := go (r.add (.symbol s)) rest
    /- A mark for a repetition with nothing in front of it is refused, is text, or is passed by where
       marks stand alone. -/
    let repeats (mark : Symbol) (least : Nat) (most : Option Nat) (rest : List Symbol) :=
      if r.isFresh then
        if !bare then literal mark rest
        else if manner.strict then .error .nothingToRepeat
        else go (r.passedBy mark) rest
      else go (r.repeated least most) rest
    let again := manner.strict && !bare && r.isRepeated
    let brace (mark : Symbol) (rest : List Symbol) :=
      if manner.strict && r.isFresh || again then .error .nothingToRepeat
      else if r.isFresh && !bare then literal mark rest
      else
        match interval bare rest with
        | .ok ((least, most), after) => repeats mark least most after
        | .error (.mistake m) => .error m
        | .error (.noInterval m) => if bare && !manner.strict then literal mark rest else .error m
    /- The marks that stand behind a backslash in one way of writing and alone in the other. -/
    let marked (s : Symbol) (rest : List Symbol) : Option (Except Mistake Reading) :=
      if isChar s '(' then some (go r.opened rest)
      else if isChar s ')' then
        match r.closed? with
        | some r => some (go r rest)
        | none => if bare && !manner.strict then none else some (.error .closedGroup)
      else if isChar s '|' then some (go r.another rest)
      else if isChar s '\x7b' then some (brace s rest)
      else if isChar s '+' then some (repeats s 1 none rest)
      else if isChar s '?' then some (repeats s 0 (some 1) rest)
      else none
    if isChar a '\\' then
      match rest with
      | [] => .error .trailing
      | b :: rest =>
        if '1'.toNat ≤ b && b ≤ '9'.toNat then
          let n := b - '0'.toNat
          if r.complete.contains n then go (r.add (.again n)) rest else .error .reference
        else
          match if bare then none else marked b rest with
          | some result => result
          | none =>
            match escaped? b with
            | some part => go (r.add part) rest
            | none => literal b rest
    else if isChar a '[' then
      match brackets manner.careful rest with
      | .ok (set, after) => go (r.add set) after
      | .error mistake => .error mistake
    else if isChar a '.' then go (r.add .anything) rest
    else if isChar a '*' then if again then .error .nothingToRepeat else repeats a 0 none rest
    else if isChar a '^' then
      if bare || r.frame.parts.isEmpty then go (r.add (.edge .lineStart)) rest
      else literal a rest
    else if isChar a '$' then
      let isLast := match rest with
        | [] => true
        | b :: c :: _ => isChar b '\\' && (isChar c ')' || isChar c '|')
        | _ => false
      if bare || isLast then go (r.add (.edge .lineEnd)) rest else literal a rest
    else
      match if bare then marked a rest else none with
      | some result => result
      | none => literal a rest

/-- Reads an expression. -/
def readWhole (manner : Manner) (cs : List Char) : Except Mistake Reading :=
  let all := symbols cs
  readFrom manner (all.length + 1) ⟨0, [], [], ⟨0, [], []⟩, []⟩ all

/-- Reads an expression. -/
def read (manner : Manner) (cs : List Char) : Except Mistake Regex :=
  (readWhole manner cs).map fun r => r.frame.regex

/-- The marks for repetitions in an expression that have nothing in front of them. -/
def idleMarks (manner : Manner) (cs : List Char) : List Char :=
  match readWhole manner cs with
  | .ok r => r.idle.reverse
  | .error _ => []

end NativeExtension.Regex

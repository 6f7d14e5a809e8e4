import NativeExtension.Editor.Instruction
import NativeExtension.Text.Octets

/-!
Editing: line after line is taken into a space, all instructions are gone through, and the space is
written. What is read from other files is looked up in a function, so that all of it is a computation
on what the editor holds.
-/
namespace NativeExtension.Editor

/-- A line that is read: its text, whether a line feed ended it, whether it is the last one, and the
    name of its file. -/
structure Line where
  text : List Char
  isEnded : Bool
  isLast : Bool
  file : List Char

/-- What the editor was asked for: whether the space is written only where an instruction says so, the
    octet that ends lines, and the contents of other files. -/
structure Setting where
  quiet : Bool
  mark : Char
  contents : List Char → Option (List Char)

/-- What is written behind the space when it is done. -/
inductive Queued where
  | text (cs : List Char)
  | file (path : List Char)
  | line (cs : List Char)

/-- What the editor holds. -/
structure State where
  space : List Char
  kept : List Char
  line : Line
  number : Nat
  rest : List Line
  queue : List Queued
  /-- Whether something was put in place of a match since the last line or jump. -/
  changed : Bool
  /-- The ranges that have begun, by the places of their instructions, with the number of their last
      line where that is known. -/
  ranges : List (Nat × Option Nat)
  /-- The ranges that begin at a line with a number and are over. -/
  finished : List Nat
  /-- The expression that was used last. -/
  used : Option Regex
  /-- Pieces that were written, the last one first. -/
  written : List (List Char)
  /-- Whether the end of the line that was written last is missing. -/
  isOpen : Bool
  /-- What is written to other files. -/
  files : List (List Char × List Char)
  /-- What is left of files that are read line by line. -/
  left : List (List Char × List Char)
  /-- An expression was to be the last that was used, and there is none. -/
  failed : Bool

namespace State

/-- Writes a text. -/
def write (s : State) (cs : List Char) : State :=
  let start := if s.isOpen && cs != [] then [['\n']] else []
  { s with written := cs :: start ++ s.written, isOpen := s.isOpen && cs = [] }

/-- Writes a line. It has no end if it is all of a last line that has none. -/
def writeLine (s : State) (setting : Setting) (cs : List Char) : State :=
  if s.line.isEnded then s.write (cs ++ [setting.mark])
  else { s.write cs with isOpen := true }

/-- Writes a line to another file. -/
def writeTo (s : State) (setting : Setting) (path cs : List Char) : State :=
  if path == "/dev/stdout".toList then s.writeLine setting cs
  else
    let line := if s.line.isEnded then cs ++ [setting.mark] else cs
    { s with files := s.files.map fun (p, old) => if p == path then (p, old ++ line) else (p, old) }

/-- Writes what was queued. -/
def flush (s : State) (setting : Setting) : State :=
  let emptied := { s with queue := [] }
  s.queue.foldl (fun s q =>
    match q with
    | .text cs => s.write cs
    | .line cs => s.write (cs ++ ['\n'])
    | .file path =>
      match setting.contents path with
      | some cs => s.write cs
      | none => s) emptied

/-- Takes the next line, if there is one, and what was queued is written. -/
def take (s : State) (setting : Setting) : Option State :=
  match s.rest with
  | [] => none
  | line :: rest =>
    some { s.flush setting with line, number := s.number + 1, rest }

end State

/-- The space as a text that is matched. -/
def subject (p : Pattern) (space : List Char) : Regex.Subject :=
  ⟨(Regex.symbols space).toArray, p.byLine, p.foldsCase, true, true⟩

/-- The expression that is meant, which is the last one that was used from then on. -/
def meant (s : State) (p : Pattern) : State × Option Regex :=
  match p.regex with
  | some r => ({ s with used := some r }, some r)
  | none => (if s.used.isNone then { s with failed := true } else s, s.used)

/-- Whether the space holds a match. -/
def holds (s : State) (p : Pattern) : State × Bool :=
  let (s, r) := meant s p
  (s, r.any fun r => (Regex.search? r (subject p s.space) 0).isSome)

/-- Whether the line is one that an address picks. -/
def picks (s : State) : Address → State × Bool
  | .line n => (s, s.number = n)
  | .step first step => (s, s.number ≥ first && (s.number - first) % step = 0)
  | .last => (s, s.line.isLast)
  | .holding p => holds s p

/-- Forgets a range that has begun. -/
def State.endRange (s : State) (place : Nat) : State :=
  { s with ranges := s.ranges.filter (·.1 != place), finished := place :: s.finished }

/-- Begins a range, and says whether the line is in it. -/
def begin (s : State) (place : Nat) (isPicked : Bool) (stop : RangeEnd) : State × Bool :=
  let upTo (n : Nat) : State × Bool :=
    if n ≤ s.number then (s.endRange place, isPicked || s.number ≤ n)
    else ({ s with ranges := (place, some n) :: s.ranges }, true)
  match stop with
  | .line n => upTo n
  | .further n => upTo (s.number + n)
  | .multiple n => if n = 0 then (s.endRange place, true) else upTo ((s.number / n + 1) * n)
  | .last | .holding _ => ({ s with ranges := (place, none) :: s.ranges }, true)

/-- Whether the line lies in the range of an instruction at a place. A range with an expression at its
    end does not end at the line at which it begins, unless it begins in front of the first. -/
def inRange (s : State) (place : Nat) (first : Address) (stop : RangeEnd) : State × Bool :=
  match s.ranges.lookup place, stop with
  | some (some n), _ =>
    (if n ≤ s.number then s.endRange place else s, s.number ≤ n)
  | some none, .holding p =>
    let (s, isEnd) := holds s p
    (if isEnd then s.endRange place else s, true)
  | some none, _ => (if s.line.isLast then s.endRange place else s, true)
  | none, _ =>
    match first with
    | .line 0 =>
      if s.finished.contains place then (s, false)
      else
        match stop with
        | .holding p =>
          let (s, isEnd) := holds s p
          (if isEnd then s.endRange place else { s with ranges := (place, none) :: s.ranges }, true)
        | _ => (s, false)
    | .line n =>
      if s.finished.contains place || s.number < n then (s, false)
      else begin s place (s.number = n) stop
    | first =>
      let (s, isPicked) := picks s first
      if isPicked then begin s place true stop else (s, false)

/-- Whether the instruction at a place is for the line. -/
def selects (s : State) (place : Nat) (selection : Selection) : State × Bool :=
  let (s, isMeant) := match selection.first, selection.last with
    | none, _ => (s, true)
    | some first, none => picks s first
    | some first, some stop => inRange s place first stop
  (s, isMeant != selection.inverted)

/-- A text with its letters changed: the first one by what is meant for the next letter alone. -/
def changedText (lasting next : CaseChange) (cs : List Char) : List Char :=
  let change (k : CaseChange) (c : Char) : Char :=
    match k with
    | .upper | .upperNext => c.toUpper
    | .lower | .lowerNext => c.toLower
    | .none => c
  match cs with
  | [] => []
  | c :: rest => change (if next = .none then lasting else next) c :: rest.map (change lasting)

/-- What is put in place of a match. -/
def replacementText (m : Regex.Match) (t : Regex.Subject) :
    (lasting next : CaseChange) → List Part → List Char
  | _, _, [] => []
  | lasting, next, part :: rest =>
    match part with
    | .text cs =>
      changedText lasting next cs ++
        replacementText m t lasting (if cs = [] then next else .none) rest
    | .group n =>
      let cs := Regex.text (m.group t n)
      changedText lasting next cs ++
        replacementText m t lasting (if cs = [] then next else .none) rest
    | .letters k =>
      match k with
      | .upperNext | .lowerNext => replacementText m t lasting k rest
      | k => replacementText m t k next rest

/-- A text with matches replaced, and whether there was one. `count` says how many matches came before
    and `behind` where the last one ended; an empty one right behind it is none. Every match spends
    fuel. -/
def replaced (sub : Substitution) (r : Regex) (t : Regex.Subject) :
    (fuel place count : Nat) → (behind : Option Nat) → List Char × Bool
  | 0, _, _, _ => ([], false)
  | fuel + 1, place, count, behind =>
    match Regex.search? r t place with
    | none => (Regex.text (t.between place t.symbols.size), false)
    | some m =>
      let stop := m.spot.place
      let before := Regex.text (t.between place m.first)
      let one := Regex.text (t.between stop (stop + 1))
      let isEmpty := stop = m.first
      let go (count : Nat) : List Char × Bool :=
        if isEmpty then
          if stop < t.symbols.size then
            let (rest, hit) := replaced sub r t fuel (stop + 1) count none
            (one ++ rest, hit)
          else ([], false)
        else replaced sub r t fuel stop count (some stop)
      if isEmpty && behind == some m.first then
        let (rest, hit) := go count
        (before ++ rest, hit)
      else if count + 1 < sub.number then
        let (rest, hit) := go (count + 1)
        (before ++ Regex.text (m.symbols t) ++ rest, hit)
      else
        let new := replacementText m t .none .none sub.parts
        if sub.everywhere then (before ++ new ++ (go (count + 1)).1, true)
        else (before ++ new ++ Regex.text (t.between stop t.symbols.size), true)

/-- An octet as it is spelled where a line is shown without doubt. -/
def spelledOctet (c : Char) : List Char :=
  match c with
  | '\\' => "\\\\".toList
  | '\x07' => "\\a".toList
  | '\x08' => "\\b".toList
  | '\x0c' => "\\f".toList
  | '\n' => "\\n".toList
  | '\r' => "\\r".toList
  | '\t' => "\\t".toList
  | '\x0b' => "\\v".toList
  | c =>
    if ' ' ≤ c && c ≤ '~' then [c]
    else
      let digits := Nat.toDigits 8 c.toNat
      '\\' :: List.replicate (3 - digits.length) '0' ++ digits

/-- How many characters a line has that is shown without doubt. -/
def shownWidth : Nat := 69

/-- Spelled octets in lines that are not too long. -/
def shownLines : (width : Nat) → List (List Char) → List Char
  | _, [] => ['$', '\n']
  | width, cs :: rest =>
    if width + cs.length > shownWidth then '\\' :: '\n' :: cs ++ shownLines cs.length rest
    else cs ++ shownLines (width + cs.length) rest

/-- How going through the instructions ends: at their end or with the space thrown away, with a part of
    it left that no line is taken for, or with the editing. -/
inductive Ending where
  | done (isWritten : Bool)
  | again
  | stopped (status : Nat) (isWritten : Bool)
  | endless

/-- The place behind a label. The end is where no label is named. -/
def placeOf (instructions : Array Instruction) (name : List Char) : Nat :=
  if name = [] then instructions.size
  else
    (instructions.toList.findIdx? fun i =>
      match i.action with
      | .label l => l == name
      | _ => false).getD instructions.size

/-- The part of a text in front of its first line feed, and the part behind it if there is one. -/
def firstLine (cs : List Char) : List Char × Option (List Char) :=
  let line := cs.takeWhile (· != '\n')
  (line, if line.length < cs.length then some (cs.drop (line.length + 1)) else none)

/-- Puts something in place of matches in the space. -/
def substitute (setting : Setting) (s : State) (sub : Substitution) : State :=
  let (s, r) := meant s sub.pattern
  match r with
  | none => s
  | some r =>
    let t := subject sub.pattern s.space
    match replaced sub r t (t.symbols.size + 2) 0 0 none with
    | (_, false) => s
    | (new, true) =>
      let s := { s with space := new, changed := true }
      let s := if sub.printed then s.writeLine setting new else s
      match sub.file with
      | some path => s.writeTo setting path new
      | none => s

/-- What an instruction does to what the editor holds, where it goes on behind itself. -/
def State.after (s : State) (setting : Setting) : Action → State
  | .append cs => { s with queue := s.queue ++ [.text cs] }
  | .insert cs => s.write cs
  | .numberLine => s.write ((toString s.number).toList ++ ['\n'])
  | .name => s.write (s.line.file ++ ['\n'])
  | .get => { s with space := s.kept }
  | .getMore => { s with space := s.space ++ '\n' :: s.kept }
  | .hold => { s with kept := s.space }
  | .holdMore => { s with kept := s.kept ++ '\n' :: s.space }
  | .exchange => { s with space := s.kept, kept := s.space }
  | .show => s.write (shownLines 0 (s.space.map spelledOctet))
  | .print => s.writeLine setting s.space
  | .printFirst => s.write ((firstLine s.space).1 ++ [setting.mark])
  | .readFile path => { s with queue := s.queue ++ [.file path] }
  | .readLine path =>
    let left := (s.left.lookup path).getD ((setting.contents path).getD [])
    if left = [] then s
    else
      let (line, rest) := firstLine left
      { s with
        queue := s.queue ++ [.line line]
        left := (path, rest.getD []) :: s.left.filter (·.1 != path) }
  | .substitute sub => substitute setting s sub
  | .translate pairs =>
    { s with space := Regex.text ((Regex.symbols s.space).map fun a => (pairs.lookup a).getD a) }
  | .writeFile path => s.writeTo setting path s.space
  | .writeFirst path => s.writeTo setting path (firstLine s.space).1
  | .clear => { s with space := [] }
  | _ => s

/-- Goes through the instructions from a place on. Every instruction spends fuel. -/
def go (setting : Setting) (instructions : Array Instruction) :
    (fuel place : Nat) → State → Ending × State
  | 0, _, s => (.endless, s)
  | fuel + 1, place, s =>
    match if s.failed then none else instructions[place]? with
    | none => (if s.failed then .stopped 1 false else .done true, s)
    | some i =>
      let (s, isMeant) := selects s place i.selection
      let onward := go setting instructions fuel
      if s.failed then (.stopped 1 false, s)
      else if !isMeant then
        match i.action with
        | .block behind => onward behind s
        | _ => onward (place + 1) s
      else
        match i.action with
        | .branch name => onward (placeOf instructions name) s
        | .branchIfChanged name =>
          if s.changed then onward (placeOf instructions name) { s with changed := false }
          else onward (place + 1) s
        | .branchUnlessChanged name =>
          if s.changed then onward (place + 1) { s with changed := false }
          else onward (placeOf instructions name) s
        | .change cs =>
          let isInside := i.selection.last.isSome && !i.selection.inverted &&
            (s.ranges.lookup place).isSome
          (.done false, if isInside then s else s.write cs)
        | .delete => (.done false, s)
        | .deleteFirst =>
          match firstLine s.space with
          | (_, some rest) => (.again, { s with space := rest })
          | (_, none) => (.done false, s)
        | .next =>
          match s.rest with
          | [] => (.stopped 0 true, s)
          | _ =>
            let s := if setting.quiet then s else s.writeLine setting s.space
            match s.take setting with
            | some s => onward (place + 1) { s with space := s.line.text }
            | none => (.stopped 0 true, s)
        | .nextMore =>
          match s.take setting with
          | some s => onward (place + 1) { s with space := s.space ++ '\n' :: s.line.text }
          | none => (.stopped 0 true, s)
        | .quit status => (.stopped status true, s)
        | .quitAtOnce status => (.stopped status false, s)
        | a => onward (place + 1) (s.after setting a)

/-- How many instructions may be gone through for one line. -/
def instructionLimit : Nat := 200000

/-- How many times the instructions may be gone through. -/
def cycleLimit : Nat := 1000000

/-- Edits all lines that are left: gives the status if an instruction ended it, and nothing of it if it
    never ends. With `fresh` the next line is taken first. Every cycle spends fuel. -/
def edit (setting : Setting) (instructions : Array Instruction) :
    (fuel : Nat) → (fresh : Bool) → State → Option (Option Nat × State)
  | 0, _, _ => none
  | fuel + 1, fresh, s =>
    let started :=
      if fresh then (s.take setting).map fun s => { s with space := s.line.text, changed := false }
      else some s
    match started with
    | none => some (none, s)
    | some s =>
      let write (isWritten : Bool) (s : State) : State :=
        let s := if isWritten && !setting.quiet then s.writeLine setting s.space else s
        s.flush setting
      match go setting instructions instructionLimit 0 s with
      | (.done isWritten, s) => edit setting instructions fuel true (write isWritten s)
      | (.again, s) => edit setting instructions fuel false (write false s)
      | (.stopped status isWritten, s) => some (some status, write isWritten s)
      | (.endless, _) => none

end NativeExtension.Editor

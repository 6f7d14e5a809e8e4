import NativeExtension.Number.Positional
import NativeExtension.Program.Utility
import NativeExtension.Text.CharacterClass

/-!
Programs of a host that write a part of what they read, or characters in place of others, or
numbers.
-/
namespace NativeExtension.Utility

open Shell (Run)

/-- How much of a text is written: so many lines or so many octets, from its start, from its end, or
    from a place on. -/
structure Extent where
  octets : Bool
  count : Nat
  /-- The count is of what is left out: at the other end, or in front of the place. -/
  inverted : Bool

/-- The pieces that are counted: lines with their ends, or octets. -/
def Extent.pieces (e : Extent) (cs : List Char) : List (List Char) :=
  if e.octets then cs.map ([·])
  else
    let (lines, ended) := linesOf cs
    let whole := lines.map (· ++ ['\n'])
    if ended then whole else whole.dropLast ++ [lines.getLastD []]

/-- The first lines or octets of a text, or all but the last. -/
def Extent.first (e : Extent) (cs : List Char) : List Char :=
  if e.octets then if e.inverted then cs.take (cs.length - e.count) else cs.take e.count
  else
    let pieces := e.pieces cs
    (if e.inverted then pieces.take (pieces.length - e.count) else pieces.take e.count).flatten

/-- The last lines or octets of a text, or those from the counted one on. -/
def Extent.last (e : Extent) (cs : List Char) : List Char :=
  if e.octets then if e.inverted then cs.drop (e.count - 1) else cs.drop (cs.length - e.count)
  else
    let pieces := e.pieces cs
    (if e.inverted then pieces.drop (e.count - 1)
      else pieces.drop (pieces.length - e.count)).flatten

/-- The number that digits with a letter for a multiple spell. -/
def multiple? (word : List Char) : Option Nat :=
  let ds := word.takeWhile Char.isDigit
  let scale := match String.ofList (word.drop ds.length) with
    | "" => some 1
    | "b" => some 512
    | "kB" | "KB" => some 1000
    | "k" | "K" | "KiB" => some 1024
    | "MB" => some 1000000
    | "M" | "MiB" => some 1048576
    | _ => none
  match Shell.natural? ds, scale with
  | some n, some scale => some (n * scale)
  | _, _ => none

/-- The extent that a word asks for behind an option. With `mark` in front the count is of what is
    left out; a sign of the other sort changes nothing. -/
def extent (mark : Char) (octets : Bool) (word : List Char) : Run Extent := do
  let (inverted, ds) := match word with
    | c :: cs => if c == mark then (true, cs) else if c == '-' then (false, cs) else (false, word)
    | [] => (false, [])
  match multiple? ds with
  | some n => pure ⟨octets, n, inverted⟩
  | none =>
    let what := if octets then "invalid number of bytes: " else "invalid number of lines: "
    complain (what.toList ++ quoted word)
    quit 1

/-- A first argument that is nothing but a count, as the options that it stands for. -/
def oldStyle (marks : List Char) : List (List Char) → List (List Char)
  | (sign :: d :: cs) :: rest =>
    let ds := (d :: cs).takeWhile Char.isDigit
    let suffix := (d :: cs).drop ds.length
    let letter := if suffix == ['c'] then some 'c' else if suffix = [] || suffix == ['l'] then some 'n'
      else none
    match letter with
    | some c =>
      if marks.contains sign && d.isDigit then
        ['-', c] :: (if sign == '+' then '+' :: ds else ds) :: rest
      else (sign :: d :: cs) :: rest
    | none => (sign :: d :: cs) :: rest
  | args => args

/-- Writes a part of each file that is named, or of what is read where none is, each under its name
    if there are several. -/
def excerpt (mark : Char) (part : Extent → List Char → List Char) : Tool := fun args => do
  let marks := if mark == '+' then ['-', '+'] else ['-']
  let c ← options ⟨"qvzfF".toList, "ncs".toList, [("lines", 'n'), ("bytes", 'c'), ("quiet", 'q'),
    ("silent", 'q'), ("verbose", 'v'), ("follow", 'f')], true⟩ 1 (oldStyle marks args)
  let e ← match (c.options.filter fun o => o.1 == 'n' || o.1 == 'c').getLast? with
    | some (letter, word) => extent mark (letter == 'c') word
    | none => pure ⟨false, 10, false⟩
  let paths := inputs c.operands
  let titled := match c.last? ['q', 'v'] with
    | some letter => letter == 'v'
    | none => paths.length > 1
  let title (isFirst : Bool) (path : List Char) : Run Unit := do
    if titled then
      let name := if path == ['-'] then "standard input".toList else path
      Run.emit 1 ((if isFirst then [] else ['\n']) ++ "==> ".toList ++ name ++ " <==\n".toList)
  let mut status := 0
  let mut isFirst := true
  for path in paths do
    let need (cs : List Char) : Nat := if mark == '-' then (part e cs).length else cs.length
    match ← inputNeeding path need with
    | .ok cs =>
      title isFirst path
      isFirst := false
      Run.emit 1 (part e cs)
    | .error error =>
      status := 1
      if error = .isDirectory || path == ['-'] then
        title isFirst path
        isFirst := false
        let isClosed := path == ['-'] && (← Run.endpoint 0).isNone
        let doing := if isClosed && mark == '+' then "cannot fstat " else "error reading "
        let name := if path == ['-'] then "'standard input'".toList else quotedPath path
        complainOfInput path (doing.toList ++ name) ['-'] error
      else complain ("cannot open ".toList ++ quotedPath path ++ " for reading: ".toList ++
        error.reason.toList)
  pure status

/-- All that the program is given to read. -/
def allInput : Run (List Char) := do
  match ← input ['-'] with
  | .ok cs => pure cs
  | .error e => complainOf "read error".toList e; quit 1

/-- What a set of characters is made of: characters that are named, or one that is repeated, as often
    as is needed where no number is given. -/
inductive SetPart where
  | these (cs : List Char)
  | again (c : Char) (count : Option Nat)

/-- What is wrong with a set. -/
abbrev SetFault := List Char

/-- The character that stands first in a set, escapes resolved, and what follows. -/
def setCharacter : List Char → Option (Char × List Char)
  | '\\' :: c :: rest =>
    let (e, after) := Shell.Format.escape (c :: rest)
    if e == '\\' && after.length = rest.length + 1 then some (c, rest) else some (e, after)
  | c :: rest => some (c, rest)
  | [] => none

/-- The part of a set that brackets spell, and what follows them. -/
def bracketPart? (cs : List Char) : Option (Except SetFault (SetPart × List Char)) :=
  match cs with
  | '[' :: ':' :: rest =>
    let name := rest.takeWhile (· != ':')
    match rest.drop name.length with
    | ':' :: ']' :: after =>
      match Text.CharacterClass.ofName? name with
      | some k => some (.ok (.these k.members, after))
      | none => some (.error ("invalid character class ".toList ++ quoted name))
    | _ => none
  | '[' :: '=' :: c :: '=' :: ']' :: after => some (.ok (.these [c], after))
  | '[' :: rest =>
    match setCharacter rest with
    | some (c, '*' :: after) =>
      let ds := after.takeWhile Char.isDigit
      match after.drop ds.length with
      | ']' :: after =>
        let n := if ds.head? == some '0' then Permission.ofOctal ds else (Shell.natural? ds).getD 0
        some (.ok (.again c (if n = 0 then none else some n), after))
      | _ => none
    | _ => none
  | _ => none

/-- The parts that a set is made of. Every round takes a character. -/
def setParts : (fuel : Nat) → List Char → Except SetFault (List SetPart)
  | 0, _ => .ok []
  | _, [] => .ok []
  | fuel + 1, cs =>
    match bracketPart? cs with
    | some (.error fault) => .error fault
    | some (.ok (part, after)) => (setParts fuel after).map (part :: ·)
    | none =>
      match setCharacter cs with
      | none => .ok []
      | some (c, '-' :: after) =>
        match setCharacter after with
        | none => .ok [.these [c, '-']]
        | some (d, rest) =>
          if d < c then
            .error ("range-endpoints of '".toList ++ [c, '-', d] ++
              "' are in reverse collating sequence order".toList)
          else
            let range := (List.range (d.toNat + 1 - c.toNat)).map fun n => Char.ofNat (c.toNat + n)
            (setParts fuel rest).map (.these range :: ·)
      | some (c, after) => (setParts fuel after).map (.these [c] :: ·)

/-- The characters of a set. One that is repeated as often as is needed fills it up to a length. -/
def setCharacters (length : Nat) (parts : List SetPart) : List Char :=
  let size : SetPart → Nat
    | .these cs => cs.length
    | .again _ count => count.getD 0
  let known := (parts.map size).foldl (· + ·) 0
  parts.flatMap fun
    | .these cs => cs
    | .again c count => List.replicate (count.getD (length - known)) c

/-- The character of the second set that stands for one of the first. The last one stands for all
    that have none of their own, unless those are left alone. -/
def substitute (truncates : Bool) (first second : List Char) (c : Char) : Char :=
  let places := (List.range first.length).filter fun i => first[i]? == some c
  let place := if truncates then (places.filter (· < second.length)).getLast? else places.getLast?
  match place with
  | some i => second.getD i (second.getLastD c)
  | none => c

/-- A text in which runs of one of the characters are a single one. -/
def squeezed (set : List Char) : Option Char → List Char → List Char
  | _, [] => []
  | before, c :: cs =>
    if before == some c && set.contains c then squeezed set before cs
    else c :: squeezed set (some c) cs

/-- Writes what it reads with characters replaced, left out, or not repeated. -/
def replaceCharacters : Tool := fun args => do
  let c ← options ⟨"cCdst".toList, [], [("complement", 'c'), ("delete", 'd'),
    ("squeeze-repeats", 's'), ("truncate-set1", 't')], false⟩ 1 args
  let inverted := c.has 'c' || c.has 'C'
  let deletes := c.has 'd'
  let squeezes := c.has 's'
  let parts (word : List Char) : Run (List SetPart) := do
    match setParts (word.length + 1) word with
    | .ok parts => pure parts
    | .error fault => complain fault; quit 1
  let first (word : List Char) : Run (List Char) := do
    let set := setCharacters 0 (← parts word)
    if inverted then pure (((List.range 256).map Char.ofNat).filter (!set.contains ·)) else pure set
  match c.operands with
  | [] => misuse 1 "missing operand".toList
  | _ :: _ :: third :: _ =>
    misuse 1 ("extra operand ".toList ++ quoted third)
  | [word] =>
    if !deletes && !squeezes then
      complain ("missing operand after ".toList ++ quoted word)
      Run.emit 2 "Two strings must be given when translating.\n".toList
      pointToHelp
      quit 1
    if deletes && squeezes then
      complain ("missing operand after ".toList ++ quoted word)
      Run.emit 2 "Two strings must be given when both deleting and squeezing repeats.\n".toList
      pointToHelp
      quit 1
    let set ← first word
    let cs ← allInput
    Run.emit 1 (if deletes then cs.filter (!set.contains ·) else squeezed set none cs)
    pure 0
  | [word, second] =>
    if deletes && !squeezes then
      complain ("extra operand ".toList ++ quoted second)
      Run.emit 2 "Only one string may be given when deleting without squeezing repeats.\n".toList
      pointToHelp
      quit 1
    let set ← first word
    let into := setCharacters set.length (← parts second)
    let cs ← allInput
    if deletes then
      Run.emit 1 (squeezed into none (cs.filter (!set.contains ·)))
    else
      if into = [] && !c.has 't' then
        complain "when not truncating set1, string2 must be non-empty".toList
        quit 1
      let replaced := cs.map (substitute (c.has 't') set into)
      Run.emit 1 (if squeezes then squeezed into none replaced else replaced)
    pure 0

/-- A decimal number as a whole number and the count of its places behind the point. -/
structure Decimal where
  value : Int
  places : Nat

/-- The decimal number that a word spells. -/
def Decimal.ofWord? (word : List Char) : Option Decimal :=
  let sign := (word.take 1).filter fun c => c == '-' || c == '+'
  let body := word.drop sign.length
  let whole := body.takeWhile Char.isDigit
  let (fraction, rest) := match body.drop whole.length with
    | '.' :: rest => (rest.takeWhile Char.isDigit, rest.dropWhile Char.isDigit)
    | rest => ([], rest)
  let power := match rest with
    | [] => some (0 : Int)
    | e :: cs => if e == 'e' || e == 'E' then Shell.integer? cs else none
  match power with
  | none => none
  | some power =>
    if whole = [] && fraction = [] then none
    else
      let n : Int := (Shell.natural? (whole ++ fraction)).getD 0
      let n := if sign == ['-'] then -n else n
      let places : Int := fraction.length - power
      if places ≥ 0 then some ⟨n, places.toNat⟩
      else some ⟨n * (Nat.pow 10 (-places).toNat : Nat), 0⟩

/-- A number with as many places behind the point as are asked for. -/
def Decimal.scaled (d : Decimal) (places : Nat) : Int :=
  d.value * (Nat.pow 10 (places - d.places) : Nat)

/-- The text of a number in units of so many places, filled up with zeros to a width. -/
def decimalText (places width : Nat) (n : Int) : List Char :=
  let sign := if n < 0 then ['-'] else []
  let ds := Positional.digitsOf (places + 1) n.natAbs
  let (whole, fraction) := ds.splitAt (ds.length - places)
  let body := whole ++ if places = 0 then [] else '.' :: fraction
  sign ++ List.replicate (width - sign.length - body.length) '0' ++ body

/-- The numbers from one to another. -/
def numbersFrom (first step last : Int) : List Int :=
  let span := if step > 0 then last - first else first - last
  if span < 0 || step = 0 then []
  else (List.range (span.natAbs / step.natAbs + 1)).map fun (n : Nat) => first + n * step

/-- The words of `seq` in front of the first that is no option. A negative number is none. -/
def sequenceOptions (args : List (List Char)) : List (List Char) :=
  let isNumber (word : List Char) : Bool :=
    match word with
    | '-' :: c :: _ => c.isDigit || c == '.'
    | _ => false
  match args.findIdx? isNumber with
  | some i => args.take i ++ ['-', '-'] :: args.drop i
  | none => args

/-- Writes the numbers from one to another, one on a line. -/
def sequence : Tool := fun args => do
  let c ← options ⟨['w'], ['s', 'f'], [("separator", 's'), ("equal-width", 'w'), ("format", 'f')],
    false⟩ 1 (sequenceOptions args)
  let numbers ← c.operands.mapM fun word => do
    match Decimal.ofWord? word with
    | some d => pure d
    | none => misuse 1 ("invalid floating point argument: ".toList ++ quoted word)
  let one : Decimal := ⟨1, 0⟩
  let (first, step, last) ← match numbers with
    | [] => misuse 1 "missing operand".toList
    | [last] => pure (one, one, last)
    | [first, last] => pure (first, one, last)
    | [first, step, last] => pure (first, step, last)
    | _ => misuse 1 ("extra operand ".toList ++ quoted (c.operands.getD 3 []))
  if step.value = 0 then
    misuse 1 ("invalid Zero increment value: ".toList ++ quoted (c.operands.getD 1 []))
  let places := max first.places step.places
  let scale := max places last.places
  let cut (n : Int) : Int := Int.tdiv n (Nat.pow 10 (scale - places) : Nat)
  let all := (numbersFrom (first.scaled scale) (step.scaled scale) (last.scaled scale)).map cut
  let width := if c.has 'w' then (all.map fun n => (decimalText places 0 n).length).foldl max 0 else 0
  let text (n : Int) : List Char :=
    match c.value? 'f' with
    | some format => (Shell.Format.print true format [decimalText places 0 n]).written
    | none => decimalText places width n
  let separator := (c.value? 's').getD ['\n']
  if all != [] then Run.emit 1 (separator.intercalate (all.map text) ++ ['\n'])
  pure 0

end NativeExtension.Utility

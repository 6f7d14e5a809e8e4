import NativeExtension.Editor.Instruction
import NativeExtension.Files.Permission
import NativeExtension.Regex.Reader
import NativeExtension.Shell.Format
import NativeExtension.Shell.Signal

/-!
Reading the program of an editor. Instructions stand on lines of their own or between semicolons.
-/
namespace NativeExtension.Editor

/-- Why the text of a program makes no sense: what is wrong, and what is left of the text there;
    nothing where no place in it is meant. What is wrong may be said `alone`, without any place. -/
structure Mistake where
  text : List Char
  rest : Option (List Char)
  alone : Bool

/-- A step of reading. -/
abbrev Reading := Except Mistake

/-- Stops at a place. -/
def fail {α : Type} (text : String) (rest : List Char) : Reading α :=
  .error ⟨text.toList, some rest, false⟩

/-- Blanks other than line feeds. -/
def isGap (c : Char) : Bool := c == ' ' || ('\t' ≤ c && c ≤ '\r' && c != '\n')

/-- What follows behind blanks. -/
def skipGaps (cs : List Char) : List Char := cs.dropWhile isGap

/-- What follows behind blanks, line feeds and semicolons. -/
def skipEnds (cs : List Char) : List Char := cs.dropWhile fun c => isGap c || c == '\n' || c == ';'

/-- The number at the start of a text, and what follows. -/
def number (cs : List Char) : Nat × List Char :=
  let ds := cs.takeWhile Char.isDigit
  ((Shell.natural? ds).getD 0, cs.drop ds.length)

/-- The rest of a line, and what follows behind it. -/
def restOfLine (cs : List Char) : List Char × List Char :=
  let line := cs.takeWhile (· != '\n')
  (line, cs.drop line.length)

/-- The text of a set between brackets from behind the opening one on, with the closing one, and what
    follows it. -/
def bracketText? : (fuel : Nat) → (first : Bool) → List Char → Option (List Char × List Char)
  | 0, _, _ => none
  | _, _, [] => none
  | fuel + 1, first, cs =>
    match cs with
    | '[' :: k :: rest =>
      if k == ':' || k == '.' || k == '=' then
        let rec name : List Char → Option (List Char × List Char)
          | a :: ']' :: after => if a == k then some ([a, ']'], after)
            else (name (']' :: after)).map fun (cs, after) => (a :: cs, after)
          | a :: after => (name after).map fun (cs, after) => (a :: cs, after)
          | [] => none
        match name rest with
        | some (inner, after) =>
          (bracketText? fuel false after).map fun (cs, after) => ('[' :: k :: inner ++ cs, after)
        | none => none
      else (bracketText? fuel false (k :: rest)).map fun (cs, after) => ('[' :: cs, after)
    | ']' :: rest =>
      if first then (bracketText? fuel false rest).map fun (cs, after) => (']' :: cs, after)
      else some ([']'], rest)
    | '\\' :: 'n' :: rest =>
      (bracketText? fuel false rest).map fun (cs, after) => ('\n' :: cs, after)
    | '\n' :: _ => none
    | c :: rest => (bracketText? fuel false rest).map fun (cs, after) => (c :: cs, after)
    | [] => none

/-- The text up to a mark, and what follows behind that. A backslash takes its meaning from the mark.
    In an expression a set between brackets can hold the mark, and a backslash with the letter for it
    is a line feed. Every part spends fuel. -/
def delimited? (isRegex : Bool) (mark : Char) : (fuel : Nat) → List Char →
    Option (List Char × List Char)
  | 0, _ => none
  | _, [] => none
  | fuel + 1, c :: cs =>
    let go (start : List Char) (rest : List Char) :=
      (delimited? isRegex mark fuel rest).map fun (inner, after) => (start ++ inner, after)
    if c == mark then some ([], cs)
    else if c == '\\' then
      match cs with
      | [] => none
      | d :: rest =>
        if d == mark && !(mark == '&' && !isRegex) then go [d] rest
        else if d == 'n' && isRegex then go ['\n'] rest
        else if d == '\n' && isRegex then go ['\n'] rest
        else go ['\\', d] rest
    else if c == '\n' then none
    else if c == '[' && isRegex then
      let inverted := cs.head? == some '^'
      let inside := if inverted then cs.tail else cs
      match bracketText? (inside.length + 1) true inside with
      | some (inner, after) => go ('[' :: (if inverted then ['^'] else []) ++ inner) after
      | none => none
    else go [c] cs

/-- The character that a backslash with a letter and digits stands for, and what follows. -/
def control? : List Char → Option (Char × List Char)
  | 'a' :: rest => some ('\x07', rest)
  | 'f' :: rest => some ('\x0c', rest)
  | 'r' :: rest => some ('\r', rest)
  | 't' :: rest => some ('\t', rest)
  | 'v' :: rest => some ('\x0b', rest)
  | 'c' :: c :: rest => some (Char.ofNat (c.toUpper.toNat ^^^ 64), rest)
  | 'd' :: a :: b :: c :: rest =>
    if [a, b, c].all Char.isDigit then
      (Shell.natural? [a, b, c]).map fun n => (Char.ofNat (n % 256), rest)
    else none
  | 'o' :: a :: b :: c :: rest =>
    if [a, b, c].all Permission.isOctal then
      some (Char.ofNat (Permission.ofOctal [a, b, c] % 256), rest)
    else none
  | rest => Shell.Format.hexadecimal? rest

/-- The text of an expression with the characters that letters behind a backslash stand for. Those
    with a meaning of their own keep a backslash. Every part spends fuel. -/
def withControls : (fuel : Nat) → List Char → List Char
  | 0, cs => cs
  | _, [] => []
  | fuel + 1, '\\' :: rest =>
    match control? rest with
    | some (c, after) =>
      if "*.[]^$\\/&".toList.contains c then '\\' :: c :: withControls fuel after
      else c :: withControls fuel after
    | none =>
      match rest with
      | d :: after => '\\' :: d :: withControls fuel after
      | [] => ['\\']
  | fuel + 1, c :: rest => c :: withControls fuel rest

/-- The expression that a text spells. An empty one is the last that was used. -/
def pattern (bare : Bool) (text : List Char) (foldsCase byLine : Bool) (rest : List Char) :
    Reading Pattern :=
  if text = [] then .ok ⟨none, foldsCase, byLine⟩
  else
    match Regex.read ⟨bare, true, true⟩ (withControls (text.length + 1) text) with
    | .ok r => .ok ⟨some r, foldsCase, byLine⟩
    | .error .classPlace =>
      .error { text := Regex.Mistake.classPlace.message.toList, rest := none, alone := true }
    | .error mistake => fail mistake.message rest

/-- An expression behind its opening mark, with the letters for what it disregards. -/
def holding (bare : Bool) (mark : Char) (cs : List Char) : Reading (Pattern × List Char) := do
  match delimited? true mark (cs.length + 1) cs with
  | none => fail "unterminated address regex" (cs.dropWhile (· != '\n'))
  | some (text, rest) =>
    let letters := rest.takeWhile fun c => c == 'I' || c == 'M'
    let rest := rest.drop letters.length
    let p ← pattern bare text (letters.contains 'I') (letters.contains 'M') (rest.drop 1)
    pure (p, rest)

/-- The address that a text starts with, if it starts with one, and what follows. -/
def address? (bare : Bool) (cs : List Char) : Reading (Option (Address × List Char)) := do
  match cs with
  | '$' :: rest => pure (some (.last, rest))
  | '/' :: rest =>
    let (p, rest) ← holding bare '/' rest
    pure (some (.holding p, rest))
  | '\\' :: mark :: rest =>
    let (p, rest) ← holding bare mark rest
    pure (some (.holding p, rest))
  | c :: rest =>
    if c == '+' || c == '~' then
      fail "invalid usage of +N or ~N as first address" (rest.dropWhile Char.isDigit)
    else if c.isDigit then
      let (n, rest) := number (c :: rest)
      match skipGaps rest with
      | '~' :: rest =>
        let (step, rest) := number (skipGaps rest)
        pure (some (if step = 0 then .line n else .step n step, rest))
      | _ => pure (some (.line n, rest))
    else pure none
  | [] => pure none

/-- The end of a range behind a comma, and what follows. -/
def rangeEnd (bare : Bool) (cs : List Char) : Reading (RangeEnd × List Char) := do
  let unexpected {α : Type} : Reading α := fail "unexpected \x60,'" (cs.drop 1)
  match cs with
  | '+' :: rest =>
    let (n, after) := number rest
    if after.length = rest.length then unexpected else pure (.further n, after)
  | '~' :: rest =>
    let (n, after) := number rest
    if after.length = rest.length then unexpected else pure (.multiple n, after)
  | _ =>
    match ← address? bare cs with
    | none => unexpected
    | some (.line n, rest) => pure (.line n, rest)
    | some (.step n _, rest) => pure (.line n, rest)
    | some (.last, rest) => pure (.last, rest)
    | some (.holding p, rest) => pure (.holding p, rest)

/-- The lines that the instruction is for that a text starts with, and what follows. -/
def selection (bare : Bool) (cs : List Char) : Reading (Selection × List Char) := do
  let (first, stop, rest) ← match ← address? bare cs with
    | none => pure (none, none, cs)
    | some (first, rest) =>
      match skipGaps rest with
      | ',' :: rest =>
        let (stop, rest) ← rangeEnd bare (skipGaps rest)
        pure (some first, some stop, rest)
      | rest => pure (some first, none, rest)
  let isZero := match first with
    | some (.line 0) => true
    | _ => false
  let endsInPattern := match stop with
    | some (.holding _) => true
    | _ => false
  if isZero && !endsInPattern then
    fail "invalid usage of line address 0" ((skipGaps rest).drop 1)
  match skipGaps rest with
  | '!' :: rest =>
    let rest := skipGaps rest
    if rest.head? == some '!' then fail "multiple \x60!'s" (rest.drop 1)
    pure (⟨first, stop, true⟩, rest)
  | rest => pure (⟨first, stop, false⟩, rest)

/-- What follows the end of an instruction: a line feed, a semicolon, or a brace that is not taken. -/
def ended (cs : List Char) : Reading (List Char) :=
  match skipGaps cs with
  | [] => .ok []
  | c :: rest =>
    if c == '\n' || c == ';' then .ok rest
    else if c == '\x7d' || c == '#' then .ok (c :: rest)
    else fail "extra characters after command" rest

/-- A text up to the end of its line. A backslash takes the character behind it, a line feed as well.
    -/
def lineText : (fuel : Nat) → List Char → List Char × List Char
  | 0, cs => ([], cs)
  | _, [] => ([], [])
  | _, '\n' :: rest => ([], rest)
  | fuel + 1, '\\' :: rest =>
    match control? rest with
    | some (c, after) => let (cs, after) := lineText fuel after; (c :: cs, after)
    | none =>
      match rest with
      | d :: after => let (cs, after) := lineText fuel after; (d :: cs, after)
      | [] => ([], [])
  | fuel + 1, c :: rest => let (cs, after) := lineText fuel rest; (c :: cs, after)

/-- The text behind an instruction that puts in lines, and what follows. -/
def insertedText (cs : List Char) : Reading (List Char × List Char) :=
  let start := skipGaps cs
  let text (cs : List Char) : Reading (List Char × List Char) :=
    let (line, rest) := lineText (cs.length + 1) cs
    .ok (line ++ ['\n'], rest)
  match start with
  | [] => fail "expected \\ after \x60a', \x60c' or \x60i'" []
  | '\n' :: rest => fail "expected \\ after \x60a', \x60c' or \x60i'" rest
  | '\\' :: rest =>
    match skipGaps rest with
    | '\n' :: rest => text rest
    | [] => .ok ([], [])
    | _ => text rest
  | cs => text cs

/-- The parts of what is put in place of a match. Every part spends fuel. -/
def replacement : (fuel : Nat) → List Char → List Part
  | 0, _ => []
  | _, [] => []
  | fuel + 1, '\\' :: rest =>
    match rest with
    | [] => [.text ['\\']]
    | c :: after =>
      if c.isDigit then .group (Shell.digitValue c) :: replacement fuel after
      else
        match c with
        | 'L' => .letters .lower :: replacement fuel after
        | 'U' => .letters .upper :: replacement fuel after
        | 'l' => .letters .lowerNext :: replacement fuel after
        | 'u' => .letters .upperNext :: replacement fuel after
        | 'E' => .letters .none :: replacement fuel after
        | 'n' => .text ['\n'] :: replacement fuel after
        | _ =>
          match control? rest with
          | some (c, after) => .text [c] :: replacement fuel after
          | none => .text [c] :: replacement fuel after
  | fuel + 1, '&' :: rest => .group 0 :: replacement fuel rest
  | fuel + 1, c :: rest => .text [c] :: replacement fuel rest

/-- The letters behind a substitution. Every letter spends fuel. -/
def substitutionFlags : (fuel : Nat) → Substitution → (numbered : Bool) → List Char →
    Reading (Substitution × List Char)
  | 0, s, _, cs => .ok (s, cs)
  | fuel + 1, s, numbered, cs => do
    let go := substitutionFlags fuel
    match cs with
    | [] => pure (s, [])
    | 'i' :: rest | 'I' :: rest =>
      go { s with pattern := { s.pattern with foldsCase := true } } numbered rest
    | 'm' :: rest | 'M' :: rest =>
      go { s with pattern := { s.pattern with byLine := true } } numbered rest
    | 'g' :: rest =>
      if s.everywhere then fail "multiple \x60g' options to \x60s' command" rest
      go { s with everywhere := true } numbered rest
    | 'p' :: rest =>
      if s.printed then fail "multiple \x60p' options to \x60s' command" rest
      go { s with printed := true } numbered rest
    | 'e' :: rest => go { s with runs := true } numbered rest
    | 'w' :: rest =>
      let (path, rest) := restOfLine (skipGaps rest)
      if path = [] then fail "missing filename in r/R/w/W commands" rest
      pure ({ s with file := some path }, rest)
    | c :: rest =>
      if c.isDigit then
        let (n, rest) := number (c :: rest)
        if numbered then fail "multiple number options to \x60s' command" rest
        if n = 0 then fail "number option to \x60s' command may not be zero" rest
        go { s with number := n } true rest
      else if c == '\n' || c == ';' || c == '#' || c == '\x7d' then pure (s, cs)
      else if isGap c then go s numbered rest
      else fail "unknown option to \x60s'" rest

/-- The greatest group that parts name. -/
def greatestGroup (parts : List Part) : Nat :=
  (parts.map fun
    | .group n => n
    | _ => 0).foldl max 0

/-- A substitution from behind its letter on, and what follows. -/
def substitution (bare : Bool) (cs : List Char) : Reading (Substitution × List Char) := do
  let unterminated {α : Type} (rest : List Char) : Reading α :=
    fail "unterminated \x60s' command" rest
  match cs with
  | [] => unterminated []
  | mark :: rest =>
    match delimited? true mark (rest.length + 1) rest with
    | none => unterminated (rest.dropWhile (· != '\n'))
    | some (text, rest) =>
      let rec untilMark : (fuel : Nat) → List Char → Option (List Char × List Char)
        | 0, _ => none
        | _, [] => none
        | fuel + 1, '\\' :: d :: rest =>
          let start := if d == mark && mark != '&' then [d] else ['\\', d]
          (untilMark fuel rest).map fun (inner, after) => (start ++ inner, after)
        | fuel + 1, c :: rest =>
          if c == mark then some ([], rest)
          else if c == '\n' then none
          else (untilMark fuel rest).map fun (inner, after) => (c :: inner, after)
      match untilMark (rest.length + 1) rest with
      | none => unterminated (rest.dropWhile (· != '\n'))
      | some (new, rest) =>
        let parts := replacement (new.length + 1) new
        let s : Substitution := ⟨⟨none, false, false⟩, parts, false, 1, false, false, none⟩
        let (s, rest) ← substitutionFlags (rest.length + 1) s false rest
        let p ← pattern bare text s.pattern.foldsCase s.pattern.byLine rest
        if let some r := p.regex then
          let n := greatestGroup parts
          if n > r.groupCount then
            fail ("invalid reference \\" ++ toString n ++ " on \x60s' command's RHS") rest
        pure ({ s with pattern := p }, rest)

/-- The symbols of one side of a translation. -/
def translated : (fuel : Nat) → List Char → List Char
  | 0, _ => []
  | _, [] => []
  | fuel + 1, '\\' :: '\\' :: rest => '\\' :: translated fuel rest
  | fuel + 1, '\\' :: 'n' :: rest => '\n' :: translated fuel rest
  | fuel + 1, '\\' :: rest =>
    match control? rest with
    | some (c, after) => c :: translated fuel after
    | none => translated fuel rest
  | fuel + 1, c :: rest => c :: translated fuel rest

/-- A translation from behind its letter on, and what follows. -/
def translation (cs : List Char) : Reading (List (Regex.Symbol × Regex.Symbol) × List Char) := do
  let unterminated {α : Type} : Reading α := fail "unterminated \x60y' command" []
  match cs with
  | [] => unterminated
  | mark :: rest =>
    match delimited? false mark (rest.length + 1) rest with
    | none => unterminated
    | some (first, rest) =>
      match delimited? false mark (rest.length + 1) rest with
      | none => unterminated
      | some (second, rest) =>
        let a := Regex.symbols (translated (first.length + 1) first)
        let b := Regex.symbols (translated (second.length + 1) second)
        if a.length != b.length then
          fail "strings for \x60y' command are different lengths" rest
        pure (a.zip b, rest)

/-- What has been read of a program: its instructions, and the places of the blocks that are open,
    the innermost first. -/
structure Program where
  instructions : Array Instruction
  opened : List Nat

/-- The label behind an instruction, and what follows. -/
def label (cs : List Char) : List Char × List Char :=
  let cs := skipGaps cs
  let name := cs.takeWhile fun c => !isGap c && c != ';' && c != '\n'
  (name, cs.drop name.length)

/-- The action that a text starts with, and what follows. -/
def action (bare : Bool) (s : Selection) (c : Char) (rest : List Char) :
    Reading (Action × List Char) := do
  let plain (a : Action) : Reading (Action × List Char) := do pure (a, ← ended rest)
  let oneAddress : Reading Unit :=
    if s.last.isSome then fail "command only uses one address" rest else .ok ()
  let texted (f : List Char → Action) : Reading (Action × List Char) := do
    let (text, rest) ← insertedText rest
    pure (f text, rest)
  let named (f : List Char → Action) : Reading (Action × List Char) := do
    let (path, after) := restOfLine (skipGaps rest)
    if path = [] then fail "missing filename in r/R/w/W commands" after
    pure (f path, after)
  let jump (f : List Char → Action) : Reading (Action × List Char) := do
    let (name, after) := label rest
    pure (f name, ← ended after)
  let status (f : Nat → Action) : Reading (Action × List Char) := do
    oneAddress
    let (n, after) := number (skipGaps rest)
    pure (f n, ← ended after)
  match c with
  | '=' => plain .numberLine
  | 'a' => texted .append
  | 'b' => jump .branch
  | 'c' => texted .change
  | 'd' => plain .delete
  | 'D' => plain .deleteFirst
  | 'F' => plain .name
  | 'g' => plain .get
  | 'G' => plain .getMore
  | 'h' => plain .hold
  | 'H' => plain .holdMore
  | 'i' => texted .insert
  | 'l' =>
    let (_, after) := number (skipGaps rest)
    pure (.show, ← ended after)
  | 'n' => plain .next
  | 'N' => plain .nextMore
  | 'p' => plain .print
  | 'P' => plain .printFirst
  | 'q' => status .quit
  | 'Q' => status .quitAtOnce
  | 'r' => named .readFile
  | 'R' => named .readLine
  | 's' =>
    let (s, after) ← substitution bare rest
    let after ← if s.file.isSome then pure after else ended after
    pure (.substitute s, after)
  | 't' => jump .branchIfChanged
  | 'T' => jump .branchUnlessChanged
  | 'w' => named .writeFile
  | 'W' => named .writeFirst
  | 'x' => plain .exchange
  | 'y' =>
    let (pairs, after) ← translation rest
    pure (.translate pairs, ← ended after)
  | 'z' => plain .clear
  | c => .error ⟨"unknown command: \x60".toList ++ [c, '\''], some rest, false⟩

/-- Reads instructions. Every one spends fuel. -/
def readFrom (bare : Bool) : (fuel : Nat) → Program → List Char → Reading Program
  | 0, p, _ => .ok p
  | fuel + 1, p, cs => do
    match skipEnds cs with
    | [] => pure p
    | cs =>
      let (s, rest) ← selection bare cs
      let isPlain := s.first.isNone
      match rest with
      | [] => fail "missing command" []
      | '#' :: rest =>
        if !isPlain then fail "comments don't accept any addresses" rest
        readFrom bare fuel p (restOfLine rest).2
      | ':' :: rest =>
        if !isPlain then fail ": doesn't want any addresses" rest
        let (name, rest) := label rest
        if name = [] then fail "\":\" lacks a label" rest
        readFrom bare fuel { p with instructions := p.instructions.push ⟨s, .label name⟩ } rest
      | '\x7b' :: rest =>
        let here := p.instructions.size
        readFrom bare fuel ⟨p.instructions.push ⟨s, .block 0⟩, here :: p.opened⟩ rest
      | '\x7d' :: rest =>
        match p.opened with
        | [] => fail "unexpected \x60\x7d'" rest
        | start :: outer =>
          if !isPlain then fail "\x7d doesn't want any addresses" rest
          let behind := p.instructions.size
          let closed := p.instructions.modify start fun i => { i with action := .block behind }
          readFrom bare fuel ⟨closed, outer⟩ (← ended rest)
      | '\n' :: rest => fail "missing command" rest
      | ';' :: rest => fail "missing command" rest
      | c :: rest =>
        let (a, rest) ← action bare s c rest
        readFrom bare fuel { p with instructions := p.instructions.push ⟨s, a⟩ } rest

/-- Reads a program. -/
def read (bare : Bool) (cs : List Char) : Reading (Array Instruction) := do
  let p ← readFrom bare (cs.length + 1) ⟨#[], []⟩ cs
  if p.opened != [] then .error ⟨"unmatched \x60\x7b'".toList, none, false⟩
  pure p.instructions

/-- A label that is gone to and that no instruction has. -/
def missingLabel? (instructions : Array Instruction) : Option (List Char) :=
  let all := instructions.toList.map Instruction.action
  let labels := all.filterMap fun
    | .label name => some name
    | _ => none
  (all.filterMap Action.target?).find? fun name => !labels.contains name

end NativeExtension.Editor

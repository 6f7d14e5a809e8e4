import NativeExtension.Program.Names
import NativeExtension.Regex.Match
import NativeExtension.Regex.Reader

/-!
The program that looks for lines that match expressions.
-/
namespace NativeExtension.Utility

open Shell (Run)

/-- How lines are looked for. -/
structure SearchStyle where
  patterns : List Regex
  foldsCase : Bool
  inverted : Bool
  wholeWords : Bool
  wholeLines : Bool

/-- How lines that are found are shown. -/
structure ShowStyle where
  onlyMatches : Bool
  numbered : Bool
  placed : Bool
  withTab : Bool
  before : Nat
  after : Nat
  most : Option Nat
  lineEnd : Char
  /-- The codes between which names, separators, numbers and matches are coloured. -/
  coloured : Bool

/-- A line as a text that is matched. -/
def subjectOf (foldsCase : Bool) (line : List Char) : Regex.Subject :=
  ⟨(Regex.symbols line).toArray, false, foldsCase, true, true⟩

/-- Whether a match between two places is one that counts. -/
def SearchStyle.counts (s : SearchStyle) (t : Regex.Subject) (first last : Nat) : Bool :=
  let isPart (place : Nat) : Bool := t.symbols[place]?.any Regex.isWordSymbol
  (!s.wholeLines || (first = 0 && last = t.symbols.size)) &&
    (!s.wholeWords || (!(first != 0 && isPart (first - 1)) && !isPart last))

/-- The longest match that counts at the first place that has one, from a place on. -/
def SearchStyle.find? (s : SearchStyle) (t : Regex.Subject) (place : Nat) : Option (Nat × Nat) :=
  let starts :=
    if s.wholeLines then if place = 0 then [0] else []
    else (List.range (t.symbols.size + 1)).drop place
  starts.findSome? fun first =>
    let lasts := s.patterns.filterMap fun r =>
      ((Regex.ends r.refers t r ⟨first, []⟩).map Regex.Spot.place).find? (s.counts t first)
    if lasts = [] then none else some (first, lasts.foldl max 0)

/-- The matches in a line, those that are empty left out. Every match spends fuel. -/
def SearchStyle.all (s : SearchStyle) (t : Regex.Subject) : (fuel place : Nat) → List (Nat × Nat)
  | 0, _ => []
  | fuel + 1, place =>
    match s.find? t place with
    | none => []
    | some (first, last) =>
      if last = first then if first < t.symbols.size then s.all t fuel (first + 1) else []
      else (first, last) :: s.all t fuel last

/-- Whether a line is one of those that are looked for. -/
def SearchStyle.selects (s : SearchStyle) (line : List Char) : Bool :=
  (s.find? (subjectOf s.foldsCase line) 0).isSome != s.inverted

/-- What stands in front of a line: the name of its file, its number and the octets before it, each
    with a mark behind it. -/
def heading (display : ShowStyle) (name : Option (List Char)) (mark : Char) (number place : Nat) :
    List Char :=
  let paint (code : String) (cs : List Char) : List Char :=
    if display.coloured then
      "\x1b[".toList ++ code.toList ++ "m\x1b[K".toList ++ cs ++ "\x1b[m\x1b[K".toList
    else cs
  let sep := paint "36" [mark]
  let part (code : String) (cs : Option (List Char)) : List Char :=
    match cs with
    | some cs => paint code cs ++ sep
    | none => []
  let all := part "35" name ++ part "32" (if display.numbered then some (digits number) else none) ++
    part "32" (if display.placed then some (digits place) else none)
  if display.withTab && all != [] then all ++ ['\t'] else all

/-- A line with its matches coloured. -/
def colouredLine (t : Regex.Subject) : (place : Nat) → List (Nat × Nat) → List Char
  | place, [] => Regex.text (t.between place t.symbols.size)
  | place, (first, last) :: rest =>
    Regex.text (t.between place first) ++ "\x1b[01;31m\x1b[K".toList ++
      Regex.text (t.between first last) ++ "\x1b[m\x1b[K".toList ++ colouredLine t last rest

/-- What is shown of a line that was selected. -/
def selectedText (search : SearchStyle) (display : ShowStyle) (name : Option (List Char))
    (number place : Nat) (line : List Char) : List Char :=
  let t := subjectOf search.foldsCase line
  let found := search.all t (t.symbols.size + 1) 0
  if display.onlyMatches then
    if search.inverted then []
    else
      found.flatMap fun (first, last) =>
        let start := (Regex.text (t.between 0 first)).length
        let cs := Regex.text (t.between first last)
        let cs := if display.coloured then "\x1b[01;31m\x1b[K".toList ++ cs ++ "\x1b[m\x1b[K".toList
          else cs
        heading display name ':' number (place + start) ++ cs ++ [display.lineEnd]
  else
    let cs := if display.coloured && !search.inverted then colouredLine t 0 found else line
    heading display name ':' number place ++ cs ++ [display.lineEnd]

/-- The lines that are shown, with those around them: whether each was selected, its number, the
    octets before it, and its text. -/
def shownLines (search : SearchStyle) (display : ShowStyle) (lines : List (List Char)) :
    List (Bool × Nat × Nat × List Char) :=
  let places := lines.foldl (fun (places, n) line => (n :: places, n + line.length + 1))
    (([] : List Nat), 0)
  let numbered := (lines.zip places.1.reverse).zipIdx 1
  let marked := numbered.map fun ((line, place), n) => (search.selects line, n, place, line)
  let chosen := (marked.filter (·.1)).map fun l => l.2.1
  let chosen := match display.most with
    | some n => chosen.take n
    | none => chosen
  let isNear (n : Nat) : Bool :=
    chosen.any fun m => n ≤ m + display.after && m ≤ n + display.before
  let selected := marked.map fun (_, n, rest) => (chosen.contains n, n, rest)
  if display.before = 0 && display.after = 0 then selected.filter (·.1)
  else selected.filter fun l => isNear l.2.1

/-- The text of lines that are shown. Between groups that do not touch a mark stands. -/
def shownText (search : SearchStyle) (display : ShowStyle) (name : Option (List Char)) :
    (before : Option Nat) → List (Bool × Nat × Nat × List Char) → List Char
  | _, [] => []
  | before, (isSelected, n, place, line) :: rest =>
    let gap := (display.before != 0 || display.after != 0) && before.any (· + 1 < n)
    let text :=
      if isSelected then selectedText search display name n place line
      else if display.onlyMatches then []
      else heading display name '-' n place ++ line ++ [display.lineEnd]
    (if gap then "--\n".toList else []) ++ text ++ shownText search display name (some n) rest

/-- Whether a text holds octets that are no text. -/
def isBinary (cs : List Char) : Bool := cs.contains '\x00' || !isLegible cs

/-- Says how the program is used, and ends it. -/
def searchUsage {α : Type} (name : List Char) : Run α := do
  Run.emit 2 ("Usage: ".toList ++ name ++ " [OPTION]... PATTERNS [FILE]...\nTry '".toList ++ name ++
    " --help' for more information.\n".toList)
  quit 2

/-- A text as an expression in which nothing has a meaning of its own. -/
def literalRegex (cs : List Char) : Regex :=
  match (Regex.symbols cs).map Regex.symbol with
  | [] => .nothing
  | first :: rest => rest.foldl Regex.sequence first

/-- The options of the program that looks for lines. -/
def searchLetters : Command.Letters where
  plain := "EFGPivwxcqslLnohHbraRzTyUZI".toList
  valued := "efmABCdD".toList ++ ['\x01', '\x02', '\x03', '\x04']
  names := [("basic-regexp", 'G'), ("extended-regexp", 'E'), ("fixed-regexp", 'F'),
    ("fixed-strings", 'F'), ("perl-regexp", 'P'), ("after-context", 'A'), ("before-context", 'B'),
    ("byte-offset", 'b'), ("context", 'C'), ("color", '\x01'), ("colour", '\x01'), ("count", 'c'),
    ("exclude", '\x03'), ("file", 'f'), ("files-with-matches", 'l'), ("files-without-match", 'L'),
    ("include", '\x02'), ("ignore-case", 'i'), ("initial-tab", 'T'), ("label", '\x04'),
    ("line-number", 'n'), ("line-regexp", 'x'), ("max-count", 'm'), ("no-filename", 'h'),
    ("no-messages", 's'), ("null", 'Z'), ("null-data", 'z'), ("only-matching", 'o'), ("quiet", 'q'),
    ("recursive", 'r'), ("regexp", 'e'), ("invert-match", 'v'), ("silent", 'q'), ("text", 'a'),
    ("with-filename", 'H'), ("word-regexp", 'w')]
  anywhere := true

/-- Options with a number alone as those that it stands for. -/
def withContext (args : List (List Char)) : List (List Char) :=
  (args.takeWhile (· != ['-', '-'])).map (fun arg =>
    match arg with
    | '-' :: c :: cs => if (c :: cs).all Char.isDigit then '-' :: 'C' :: c :: cs
      else if arg == "--color".toList || arg == "--colour".toList then "--color=auto".toList
      else arg
    | arg => arg) ++ args.dropWhile (· != ['-', '-'])

/-- The paths below a directory that name files, in their order. -/
def filesBelow (t : FileTree) (path : List Char) (l : Location) : List (List Char) :=
  let files := t.entries.filterMap fun (m, e) =>
    match e with
    | .file .. => if l.isPrefixOf m then some (pathBelow path (m.drop l.length)) else none
    | _ => none
  files.mergeSort fun a b => decide (String.ofList a ≤ String.ofList b)

/-- Looks for lines that match. -/
def search : Tool := fun args => do
  let own ← ownName
  let base := baseName own
  let c ← match searchLetters.read (withContext args) with
    | .ok c => pure c
    | .error fault => complain (faultText fault); searchUsage own
  let number (letter : Char) (text : List Char → List Char) : Run (Option Nat) := do
    match c.value? letter with
    | none => pure none
    | some word =>
      match count? word with
      | some n => pure (some n)
      | none => complain (text word); quit 2
  let given := c.values 'e'
  let texts : List (List Char) ←
    (c.options.filter fun o => o.1 == 'e' || o.1 == 'f').flatMapM fun (letter, word) => do
      if letter == 'e' then pure (word.splitOn '\n')
      else
        match ← input word with
        | .ok cs => pure (linesOf cs).1
        | .error e => complainOf word e; quit 2
  let isGiven := given != [] || c.has 'f'
  let (texts, operands) ← match isGiven, c.operands with
    | true, operands => pure (texts, operands)
    | false, text :: operands => pure (text.splitOn '\n', operands)
    | false, [] => searchUsage own
  let letter := (c.last? ['E', 'F', 'G', 'P']).getD
    (if base == "egrep".toList then 'E' else if base == "fgrep".toList then 'F' else 'G')
  let bare := letter == 'E' || letter == 'P'
  let patterns ← texts.mapM fun text => do
    if letter == 'F' then pure (literalRegex text)
    else
      let manner : Regex.Manner := ⟨bare, false, true⟩
      match Regex.read manner text with
      | .ok r =>
        for mark in Regex.idleMarks manner text do
          let shown := if mark == '\x7b' then "\x7b...\x7d".toList else [mark]
          complain ("warning: ".toList ++ shown ++ " at start of expression".toList)
        pure r
      | .error mistake => complain mistake.message.toList; quit 2
  let most ← number 'm' fun _ => "invalid max count".toList
  let contextText (word : List Char) := word ++ ": invalid context length argument".toList
  let around ← number 'C' contextText
  let after ← number 'A' contextText
  let before ← number 'B' contextText
  let style : SearchStyle :=
    ⟨patterns, c.has 'i' || c.has 'y', c.has 'v', c.has 'w', c.has 'x'⟩
  let display : ShowStyle :=
    { onlyMatches := c.has 'o'
      numbered := c.has 'n'
      placed := c.has 'b'
      withTab := c.has 'T'
      before := (before <|> around).getD 0
      after := (after <|> around).getD 0
      most
      lineEnd := if c.has 'z' then '\x00' else '\n'
      coloured := c.value? '\x01' == some "always".toList }
  let deep := c.has 'r' || c.has 'R'
  let t ← Run.files
  let matchesName (patterns : List (List Char)) (path : List Char) : Bool :=
    patterns.any fun p =>
      (Shell.Pattern.ofMarked (p.map fun c => ⟨c, false⟩)).isMatch (lastName path)
  let paths ← if !deep then pure (inputs operands)
    else
      (if operands = [] then [['.']] else operands).flatMapM fun path => do
        match t.find (Text.Octets.toString path) with
        | .ok (l, .directory _) =>
          let found := filesBelow t path l
          let found := if operands = [] then found.map (·.drop 2) else found
          pure (found.filter fun path =>
            (!c.has '\x02' || matchesName (c.values '\x02') path) &&
              !matchesName (c.values '\x03') path)
        | _ => pure [path]
  let named := match c.last? ['h', 'H'] with
    | some letter => letter == 'H'
    | none => paths.length > 1 || deep
  let mut found := false
  let mut failed := false
  for path in paths do
    let name := if path == ['-'] then (c.value? '\x04').getD "(standard input)".toList else path
    -- Nothing is read behind the last line that is asked for.
    let need (cs : List Char) : Nat :=
      let lines := (linesOf cs).1
      let places := (lines.zipIdx.filter fun (line, _) => style.selects line).map Prod.snd
      match most.bind fun n => if n = 0 then some 0 else places[n - 1]?.map (· + 1) with
      | some n => (ofLines (lines.take n)).length
      | none => cs.length
    match ← inputNeeding path need with
    | .error e =>
      if !c.has 's' then complainOf name e
      failed := true
    | .ok cs =>
      let lines :=
        if c.has 'z' then
          let parts := cs.splitOn '\x00'
          if parts.getLast? == some [] then parts.dropLast else parts
        else (linesOf cs).1
      let shown := if most == some 0 then [] else shownLines style display lines
      let chosen := (shown.filter (·.1)).length
      if chosen != 0 then found := true
      let label := if named then some name else none
      if c.has 'q' then
        if chosen != 0 then quit 0
      else if c.has 'l' then
        if chosen != 0 then Run.emit 1 (name ++ [if c.has 'Z' then '\x00' else '\n'])
      else if c.has 'L' then
        if chosen = 0 then Run.emit 1 (name ++ [if c.has 'Z' then '\x00' else '\n'])
      else if c.has 'c' then
        Run.emit 1 (heading { display with numbered := false, placed := false } label ':' 0 0 ++
          digits chosen ++ ['\n'])
      else if isBinary cs && !c.has 'a' && !c.has 'z' then
        if chosen != 0 then
          Run.emit 2 (own ++ ": ".toList ++ name ++ ": binary file matches\n".toList)
      else Run.emit 1 (shownText style display label none shown)
  pure (if failed then 2 else if found then 0 else 1)

end NativeExtension.Utility

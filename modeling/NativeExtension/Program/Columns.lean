import NativeExtension.Program.Utility

/-!
Programs of a host that count what they read, cut its lines into columns, put lines side by side, or
turn them round.
-/
namespace NativeExtension.Utility

open Shell (Run)

/-- Whether a character separates words. -/
def isWordGap (c : Char) : Bool := c == ' ' || ('\t' ≤ c && c ≤ '\r')

/-- How many words a text has. `inside` says that one has begun. -/
def wordCount : (inside : Bool) → List Char → Nat
  | _, [] => 0
  | inside, c :: cs =>
    if isWordGap c then wordCount false cs
    else if inside then wordCount true cs
    else wordCount true cs + 1

/-- How many characters octets spell: those that continue a character are not counted. -/
def characterCount (cs : List Char) : Nat :=
  (cs.filter fun c => !(0x80 ≤ c.toNat && c.toNat < 0xc0)).length

/-- The columns of a line, where tabs go on to the next eighth one. -/
def lineWidth (cs : List Char) : Nat :=
  cs.foldl (fun n c => if c == '\t' then (n / 8 + 1) * 8
    else if 0x80 ≤ c.toNat && c.toNat < 0xc0 then n else n + 1) 0

/-- What is counted of a text: lines, words, characters, octets, and columns of the longest line. -/
def counts (cs : List Char) : List Nat :=
  [cs.count '\n', wordCount false cs, characterCount cs, cs.length,
    ((linesOf cs).1.map lineWidth).foldl max 0]

/-- The totals of counts; of the last one it is the greatest. -/
def totals (all : List (List Nat)) : List Nat :=
  all.foldl (fun sums ns => (sums.zip ns).zipIdx.map fun ((a, b), i) => if i = 4 then max a b else a + b)
    [0, 0, 0, 0, 0]

/-- The octets of an input that is a regular file, if it is one. -/
def regularSize? (path : List Char) : Run (Option Nat) := do
  if path == ['-'] then
    match ← Run.endpoint 0 with
    | some (.file index) =>
      let t ← Run.files
      return (← Run.host).openings[index]?.map fun o => (o.content t).size
    | _ => pure none
  else
    match ← entryAt .target path with
    | .ok (.file content _) => pure (some content.size)
    | _ => pure none

/-- The columns that counts take: as many as the octets of all regular files have digits, and at
    least seven where something else is read. -/
def countWidth (paths : List (List Char)) (chosen : Nat) : Run Nat := do
  if paths.length = 1 && chosen = 1 then return 1
  let mut size := 0
  let mut least := 1
  for path in paths do
    match ← regularSize? path with
    | some n => size := size + n
    | none =>
      let isThere ← if path == ['-'] then pure (← Run.endpoint 0).isSome
        else pure (← entryAt .target path).isOk
      if isThere then least := 7
  pure (max least (digits size).length)

/-- Counts lines, words and octets. -/
def count : Tool := fun args => do
  let c ← options ⟨"lwmcL".toList, [], [("lines", 'l'), ("words", 'w'), ("chars", 'm'), ("bytes", 'c'),
    ("max-line-length", 'L')], true⟩ 1 args
  let given := c.options != []
  let wanted := ['l', 'w', 'm', 'c', 'L'].map fun letter =>
    if given then c.has letter else letter != 'm' && letter != 'L'
  let paths := inputs c.operands
  let width ← countWidth paths (wanted.filter (·)).length
  let tell (ns : List Nat) (name : List Char) : Run Unit := do
    let shown := (ns.zip wanted).filterMap fun (n, isWanted) =>
      if isWanted then some (flushRight width (digits n)) else none
    Run.emit 1 ([' '].intercalate shown ++ (if name = [] then [] else ' ' :: name) ++ ['\n'])
  let mut all := []
  let mut status := 0
  for path in paths do
    let name := if c.operands = [] then [] else path
    match ← input path with
    | .ok cs =>
      all := all ++ [counts cs]
      tell (counts cs) name
    | .error e =>
      let named := if path == ['-'] then "'standard input'".toList else plainPath path
      complainOfInput path named ['-'] e
      status := 1
      if e = .isDirectory || path == ['-'] then tell (counts []) name
  if paths.length > 1 then tell (totals all) "total".toList
  pure status

/-- A range of columns, counted from one; one without an end goes on to the last. -/
structure ColumnRange where
  first : Nat
  last : Option Nat

/-- The ranges that a list of columns names. -/
def columnRanges (isField : Bool) (word : List Char) : Run (List ColumnRange) := do
  let zero {α : Type} : Run α := misuse 1
    (if isField then "fields are numbered from 1".toList
      else "byte/character positions are numbered from 1".toList)
  let number (part : List Char) : Run Nat := do
    match Shell.natural? part with
    | some 0 => zero
    | some n => pure n
    | none =>
      misuse 1 ((if isField then "invalid field value " else "invalid byte/character position ").toList
        ++ quoted part)
  (word.splitOnP fun c => c == ',' || c == ' ').mapM fun part => do
    match part.splitOn '-' with
    | [single] => if single = [] then zero else let n ← number single; pure ⟨n, some n⟩
    | [[], []] => misuse 1 "invalid range with no endpoint: -".toList
    | [[], last] => return ⟨1, some (← number last)⟩
    | [first, []] => return ⟨← number first, none⟩
    | [first, last] =>
      let first ← number first
      let last ← number last
      if last < first then misuse 1 "invalid decreasing range".toList
      pure ⟨first, some last⟩
    | _ => misuse 1 (if isField then "invalid field range".toList
        else "invalid byte or character range".toList)

/-- Whether a column lies in one of the ranges. -/
def isChosen (ranges : List ColumnRange) (n : Nat) : Bool :=
  ranges.any fun r => r.first ≤ n && r.last.all (n ≤ ·)

/-- The octets of a line in chosen columns. A mark goes between runs that do not touch. -/
def cutOctets (keep : Nat → Bool) (mark : List Char) (line : List Char) : List Char :=
  let kept := line.zipIdx.filter fun (_, i) => keep (i + 1)
  let rec go : Option Nat → List (Char × Nat) → List Char
    | _, [] => []
    | before, (c, i) :: rest =>
      (if before.any (· + 1 < i) then mark else []) ++ c :: go (some i) rest
  go none kept

/-- Writes chosen columns of lines. -/
def cut : Tool := fun args => do
  let c ← options ⟨"nszC".toList, "bcfdO".toList, [("bytes", 'b'), ("characters", 'c'),
    ("fields", 'f'), ("delimiter", 'd'), ("only-delimited", 's'), ("complement", 'C'),
    ("output-delimiter", 'O')], true⟩ 1 args
  let lists := c.options.filter fun o => ['b', 'c', 'f'].contains o.1
  let (letter, word) ← match lists with
    | [] => misuse 1 "you must specify a list of bytes, characters, or fields".toList
    | [list] => pure list
    | _ => misuse 1 "only one list may be specified".toList
  let isField := letter == 'f'
  let between ← match c.value? 'd' with
    | none => pure '\t'
    | some [] => pure '\x00'
    | some [d] => pure d
    | some _ => misuse 1 "the delimiter must be a single character".toList
  if !isField && (c.value? 'd').isSome then
    misuse 1 "an input delimiter may be specified only when operating on fields".toList
  if !isField && c.has 's' then
    misuse 1 "suppressing non-delimited lines makes sense\n\tonly when operating on fields".toList
  let ranges ← columnRanges isField word
  let keep (n : Nat) : Bool := isChosen ranges n != c.has 'C'
  let mut status := 0
  for path in inputs c.operands do
    match ← input path with
    | .error e =>
      complainOfInput path (plainPath path) ['-'] e
      status := 1
    | .ok cs =>
      for line in (linesOf cs).1 do
        if !isField then
          Run.emit 1 (cutOctets keep ((c.value? 'O').getD []) line ++ ['\n'])
        else if !line.contains between then
          if !c.has 's' then Run.emit 1 (line ++ ['\n'])
        else
          let kept := (line.splitOn between).zipIdx.filter fun (_, i) => keep (i + 1)
          Run.emit 1
            (((c.value? 'O').getD [between]).intercalate (kept.map Prod.fst) ++ ['\n'])
  pure status

/-- The marks that a list of them spells; an empty mark is written as a zero behind a backslash. -/
def marksOf : List Char → List (List Char)
  | '\\' :: '0' :: rest => [] :: marksOf rest
  | '\\' :: 'n' :: rest => ['\n'] :: marksOf rest
  | '\\' :: 't' :: rest => ['\t'] :: marksOf rest
  | '\\' :: '\\' :: rest => ['\\'] :: marksOf rest
  | c :: rest => [c] :: marksOf rest
  | [] => []

/-- Columns with marks between them, which are taken in turn. -/
def withMarks (marks : List (List Char)) (columns : List (List Char)) : List Char :=
  (columns.zipIdx.map fun (column, i) =>
    column ++ if i + 1 < columns.length then marks.getD (i % marks.length) [] else []).flatten

/-- The inputs as lists of lines. What is read twice gives its lines by turns. -/
def inputLines (paths : List (List Char)) : Run (List (List (List Char)) × Nat) := do
  let dashes := paths.count ['-']
  let mut own := []
  let mut all := []
  let mut status := 0
  if dashes != 0 then
    match ← input ['-'] with
    | .ok cs => own := (linesOf cs).1
    | .error e =>
      for _ in List.range dashes do complainOf ['-'] e
      if (← Run.endpoint 0).isNone then complainOf ['-'] e
      status := 1
  let mut turn := 0
  for path in paths do
    if path == ['-'] then
      let here := turn
      all := all ++ [(own.zipIdx.filter fun (_, i) => i % dashes = here).map Prod.fst]
      turn := turn + 1
    else
      match ← input path with
      | .ok cs => all := all ++ [(linesOf cs).1]
      | .error e =>
        complainOf (plainPath path) e
        status := 1
  pure (all, status)

/-- Writes lines of several inputs side by side, or all lines of each in one line. -/
def paste : Tool := fun args => do
  let c ← options ⟨"sz".toList, ['d'], [("serial", 's'), ("delimiters", 'd')], true⟩ 1 args
  let marks := match marksOf ((c.value? 'd').getD ['\t']) with
    | [] => [[]]
    | marks => marks
  let (all, status) ← inputLines (inputs c.operands)
  if status != 0 && !c.has 's' then quit status
  if c.has 's' then
    for lines in all do Run.emit 1 (withMarks marks lines ++ ['\n'])
  else
    let height := (all.map List.length).foldl max 0
    for i in List.range height do
      Run.emit 1 (withMarks marks (all.map fun lines => lines.getD i []) ++ ['\n'])
  pure status

/-- Does something with each input that is named, or with what is read where none is. -/
def withInputs (operands : List (List Char)) (step : List Char → Run Unit)
    (refuse : List Char → Errno → Run Unit) : Run Nat := do
  let mut status := 0
  for path in inputs operands do
    match ← input path with
    | .ok cs => step cs
    | .error e =>
      refuse path e
      status := 1
  pure status

/-- Writes each line from its end to its start. -/
def reverseLines : Tool := fun args => do
  let c ← options (letters "" "") 1 args
  withInputs c.operands
    (fun cs =>
      let (lines, ended) := linesOf cs
      let turned := ['\n'].intercalate (lines.map List.reverse)
      Run.emit 1 (if ended && cs != [] then turned ++ ['\n'] else turned))
    fun path e => Run.emit 2 ("rev: cannot open ".toList ++ path ++ ": ".toList ++ e.reason.toList ++
      ['\n'])

/-- Writes the last line first. -/
def reverseOrder : Tool := fun args => do
  let c ← options (letters "br" "s") 1 args
  withInputs c.operands
    (fun cs =>
      let (lines, ended) := linesOf cs
      let whole := lines.map (· ++ ['\n'])
      let pieces := if ended then whole else whole.dropLast ++ [lines.getLastD []]
      Run.emit 1 pieces.reverse.flatten)
    fun path e =>
      if path == ['-'] || e = .isDirectory then
        -- What is no file cannot be read from its end.
        let named := if path == ['-'] then "'standard input'".toList else plainPath path
        complainOfInput path (named ++ ": read error".toList) ['-']
          (if e = .isDirectory then .invalidArgument else e)
      else complain ("failed to open ".toList ++ quotedPath path ++ " for reading: ".toList ++
        e.reason.toList)

/-- Writes lines with numbers in front of them. -/
def numberLines : Tool := fun args => do
  let c ← options ⟨['p'], "bdfhilnsvw".toList, [("body-numbering", 'b'), ("number-width", 'w'),
    ("number-separator", 's'), ("starting-line-number", 'v'), ("line-increment", 'i'),
    ("number-format", 'n')], true⟩ 1 args
  let value (letter : Char) (usual : Nat) : Nat := ((c.value? letter).bind count?).getD usual
  let width := value 'w' 6
  let between := (c.value? 's').getD ['\t']
  let all := c.value? 'b' == some ['a']
  let isNone := c.value? 'b' == some ['n']
  let (texts, status) ← do
    let mut texts := []
    let mut status := 0
    for path in inputs c.operands do
      match ← input path with
      | .ok cs => texts := texts ++ cs
      | .error e =>
        complainOfInput path (plainPath path) ['-'] e
        status := 1
    pure (texts, status)
  let mut n := value 'v' 1
  for line in (linesOf texts).1 do
    if (all || line != []) && !isNone then
      let number := match (c.value? 'n').map String.ofList with
        | some "ln" => digits n ++ List.replicate (width - (digits n).length) ' '
        | some "rz" => List.replicate (width - (digits n).length) '0' ++ digits n
        | _ => flushRight width (digits n)
      Run.emit 1 (number ++ between ++ line ++ ['\n'])
      n := n + value 'i' 1
    else Run.emit 1 (List.replicate (width + between.length) ' ' ++ line ++ ['\n'])
  pure status

/-- A line in pieces that are no wider than asked for. Every piece spends fuel. -/
def folded (width : Nat) (atBlanks : Bool) : (fuel : Nat) → List Char → List (List Char)
  | 0, cs => [cs]
  | fuel + 1, cs =>
    if cs.length ≤ width || width = 0 then [cs]
    else
      let start := cs.take width
      let toBlank := (start.reverse.dropWhile (· != ' ')).reverse
      let piece := if atBlanks && toBlank != [] then toBlank else start
      piece :: folded width atBlanks fuel (cs.drop piece.length)

/-- Writes lines in pieces that are no wider than asked for. -/
def fold : Tool := fun args => do
  let c ← options ⟨"bs".toList, ['w'], [("width", 'w'), ("spaces", 's'), ("bytes", 'b')], true⟩ 1 args
  let width ← match c.value? 'w' with
    | none => pure 80
    | some word =>
      match count? word with
      | some (n + 1) => pure (n + 1)
      | _ => complain ("invalid number of columns: ".toList ++ quoted word); quit 1
  withInputs c.operands
    (fun cs =>
      let (lines, ended) := linesOf cs
      let pieces := lines.map fun line =>
        ['\n'].intercalate (folded width (c.has 's') (line.length + 1) line)
      let text := ['\n'].intercalate pieces
      Run.emit 1 (if ended && cs != [] then text ++ ['\n'] else text))
    fun path e => complainOfInput path (plainPath path) ['-'] e

end NativeExtension.Utility

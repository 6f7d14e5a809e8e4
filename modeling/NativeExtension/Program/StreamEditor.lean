import NativeExtension.Editor.Cycle
import NativeExtension.Editor.Reader
import NativeExtension.Program.Names

/-!
The program that edits what it reads, or files in their places, line by line.
-/
namespace NativeExtension.Utility

open Shell (Run)

/-- A piece of the program text that was given: its text, and its file if it has one. -/
structure Script where
  text : List Char
  file : Option (List Char)

/-- The letter that stands for editing in place, whose value is what is put behind the name of a file
    that is kept. -/
def inPlaceLetter : Char := '\x01'

/-- A word of options in which the letter for editing in place takes what follows it. -/
def withInPlace (word : List Char) : List (List Char) :=
  match word with
  | '-' :: '-' :: name =>
    let isMeant := (name.takeWhile (· != '=')) == "in-place".toList
    if isMeant then [['-', inPlaceLetter], name.drop 9] else [word]
  | '-' :: letters =>
    let before := letters.takeWhile fun c => !(['i', 'e', 'f', 'l'].contains c)
    match letters.drop before.length with
    | 'i' :: suffix =>
      (if before = [] then [] else ['-' :: before]) ++ [['-', inPlaceLetter], suffix]
    | _ => [word]
  | _ => [word]

/-- Arguments in which the letter for editing in place takes what follows it. The word behind an option
    that takes a value is left alone. -/
def withInPlaces : (isValue : Bool) → List (List Char) → List (List Char)
  | _, [] => []
  | isValue, word :: words =>
    if isValue then word :: withInPlaces false words
    else if word == ['-', '-'] then word :: words
    else
      let takesNext := match word.reverse with
        | c :: rest => ['e', 'f', 'l'].contains c && rest.getLast? == some '-' &&
            !(rest.any fun c => ['i', 'e', 'f', 'l'].contains c)
        | [] => false
      withInPlace word ++ withInPlaces takesNext words

/-- The options of the program. -/
def editorLetters : Command.Letters where
  plain := "nErsuz\x02".toList
  valued := "efl".toList ++ [inPlaceLetter]
  names := [("quiet", 'n'), ("silent", 'n'), ("expression", 'e'), ("file", 'f'),
    ("regexp-extended", 'E'), ("separate", 's'), ("unbuffered", 'u'), ("null-data", 'z'),
    ("line-length", 'l'), ("posix", '\x02'), ("debug", '\x02'), ("sandbox", '\x02'),
    ("follow-symlinks", '\x02')]
  anywhere := true

/-- Says how the program is used, and ends it. -/
def editorUsage {α : Type} : Run α := do
  Run.emit 2 ("Usage: ".toList ++ (← ownName) ++
    " [OPTION]... \x7bscript-only-if-no-other-script\x7d [input-file]...\n\n".toList)
  quit 1

/-- The place of a mistake in the pieces of a program, as it is named: the piece that the text read so
    far ends in, and the characters or lines of it. -/
def mistakePlace (scripts : List Script) (read : Nat) (hasPlace : Bool) : List Char :=
  let rec find : (number read : Nat) → List Script → List Char
    | _, _, [] => []
    | number, read, s :: rest =>
      if read ≤ s.text.length || rest.isEmpty then
        match s.file with
        | some path =>
          "file ".toList ++ path ++ " line ".toList ++
            digits ((s.text.take (read - 1)).count '\n' + 1)
        | none =>
          "-e expression #".toList ++ digits number ++ ", char ".toList ++
            digits (if hasPlace then min read s.text.length else 0)
      else find (if s.file.isSome then number else number + 1) (read - s.text.length - 1) rest
  find 1 read scripts

/-- The lines of an input. The last one of all is marked. -/
def editorLines (mark : Char) (name cs : List Char) : List Editor.Line :=
  let (parts, isEnded) := match cs.getLast? with
    | none => ([], true)
    | some c => if c == mark then (cs.dropLast.splitOn mark, true) else (cs.splitOn mark, false)
  parts.zipIdx.map fun (text, i) =>
    ⟨text, isEnded || i + 1 < parts.length, i + 1 = parts.length, name⟩

/-- Lines of several inputs as one stream, in which only the last line is the last, and only it can
    have no end. -/
def oneStream (inputs : List (List Editor.Line)) : List Editor.Line :=
  let all := inputs.flatten
  all.zipIdx.map fun (line, i) =>
    { line with isLast := i + 1 = all.length, isEnded := line.isEnded || i + 1 < all.length }

/-- The files that instructions write to. -/
def writtenPaths (instructions : Array Editor.Instruction) : List (List Char) :=
  (instructions.toList.filterMap fun i =>
    match i.action with
    | .writeFile path | .writeFirst path => some path
    | .substitute s => s.file
    | _ => none).eraseDups

/-- Whether one of the instructions reads a file. -/
def readsPath (instructions : Array Editor.Instruction) (path : List Char) : Bool :=
  instructions.toList.any fun i =>
    match i.action with
    | .readFile p | .readLine p => p == path
    | _ => false

/-- What the editor holds before it reads anything. -/
def emptyState (paths : List (List Char)) : Editor.State where
  space := []
  kept := []
  line := ⟨[], true, false, []⟩
  number := 0
  rest := []
  queue := []
  changed := false
  ranges := []
  finished := []
  used := none
  written := []
  isOpen := false
  files := paths.map (·, [])
  left := []
  failed := false

/-- The pieces of the program, and the operands that are files. -/
def editorScripts (c : Command.Chosen) : Run (List Script × List (List Char)) := do
  let given := c.options.filter fun o => o.1 == 'e' || o.1 == 'f'
  match given, c.operands with
  | [], [] => editorUsage
  | [], text :: paths => pure ([⟨text, none⟩], paths)
  | given, paths =>
    let scripts ← given.mapM fun (letter, word) => do
      if letter == 'e' then pure (⟨word, none⟩ : Script)
      else
        match ← input word with
        | .ok cs => pure ⟨if cs.getLast? == some '\n' then cs.dropLast else cs, some word⟩
        | .error e =>
          complain ("couldn't open file ".toList ++ word ++ ": ".toList ++ e.reason.toList)
          quit 4
    pure (scripts, paths)

/-- Edits what it reads. -/
def editStream : Tool := fun args => do
  let c ← match editorLetters.read (withInPlaces false args) with
    | .ok c => pure c
    | .error fault => complain (faultText fault); editorUsage
  let (scripts, operands) ← editorScripts c
  let text := ['\n'].intercalate (scripts.map Script.text)
  let instructions ← match Editor.read (c.has 'E' || c.has 'r') text with
    | .ok instructions => pure instructions
    | .error mistake =>
      if mistake.alone then
        complain mistake.text
        quit 4
      let place := text.length - (mistake.rest.getD text).length
      complain (mistakePlace scripts place mistake.rest.isSome ++ ": ".toList ++ mistake.text)
      quit 1
  if let some name := Editor.missingLabel? instructions then
    complain ("can't find label for jump to \x60".toList ++ name ++ ['\''])
    quit 4
  let t ← Run.files
  let quiet := c.has 'n' || "#n\n".toList.isPrefixOf (text ++ ['\n'])
  let ownPath := "/dev/stdin".toList
  let own ← if readsPath instructions ownPath then Run.takeAll 0 else pure []
  let contents (path : List Char) : Option (List Char) :=
    if path == ownPath then some own
    else
      match t.readUpTo (Text.Octets.toString path) 0 with
      | .ok (content, _) => some (Text.Octets.ofBytes content)
      | .error _ => none
  let setting : Editor.Setting := ⟨quiet, if c.has 'z' then '\x00' else '\n', contents⟩
  let inPlace := c.value? inPlaceLetter
  let mut status := 0
  let mut read : List (List Char × List Editor.Line) := []
  let mut unreadable : Option (List Char × Errno) := none
  for path in inputs operands do
    if unreadable.isSome then break
    match ← inputNeeding path fun _ => 0 with
    | .ok cs => read := read ++ [(path, editorLines setting.mark path cs)]
    | .error e =>
      if path == ['-'] then unreadable := some ("stdin".toList, e)
      else if e = .isDirectory then
        if inPlace.isSome then
          complain ("couldn't edit ".toList ++ path ++ ": not a regular file".toList)
          status := 4
        else unreadable := some (path, e)
      else
        complain ("can't read ".toList ++ path ++ ": ".toList ++ e.reason.toList)
        status := 2
  let separate := c.has 's' || inPlace.isSome
  let streams : List (List Char × List Editor.Line) :=
    if separate then read else [([], oneStream (read.map Prod.snd))]
  let mut state := emptyState (writtenPaths instructions)
  let mut stopped : Option Nat := none
  for (path, lines) in streams do
    if stopped.isNone then
      let start := { state with rest := lines, number := 0, ranges := [], finished := [], kept := [] }
      match Editor.edit setting instructions Editor.cycleLimit true start with
      | none => throw .expired
      | some (ended, after) =>
        stopped := ended
        let written := after.written.reverse.flatten
        match inPlace with
        | none =>
          Run.emit 1 written
          state := { after with written := [] }
        | some suffix =>
          let files ← Run.files
          let text := Text.Octets.toString path
          match files.resolve .target text, files.resolve .link text with
          | .ok l, .ok here =>
            let mode := match files.get? l with
              | some (.file _ mode) => mode
              | _ => FileTree.newFileMode
            let files := match files.get? here with
              | some old =>
                if suffix = [] then files
                else
                  let name := if suffix.contains '*' then
                      suffix.flatMap fun c => if c == '*' then lastName path else [c]
                    else Text.Octets.ofString (here.getLastD "") ++ suffix
                  files.put (here.dropLast ++ [Text.Octets.toString name]) old
              | none => files
            Run.setFiles (files.put here (.file (Text.Octets.toBytes written) mode))
          | _, _ => pure ()
          state := { after with written := [], isOpen := false }
        if after.failed then
          complain "-e expression #1, char 0: no previous regular expression".toList
          quit 1
  -- What an end before the last line leaves is there for others.
  let left := if stopped.isSome then state.rest.filter (·.file == ['-']) else []
  if let some p := ← Run.endpoint 0 then
    if (inputs operands).contains ['-'] then
      Run.hold p (left.flatMap fun line =>
        line.text ++ if line.isEnded then [setting.mark] else [])
  if let some (path, e) := unreadable then
    if stopped.isNone then
      complain ("read error on ".toList ++ path ++ ": ".toList ++ e.reason.toList)
      quit 4
  for (path, cs) in state.files do
    match path == "/dev/stderr".toList with
    | true => Run.emit 2 cs
    | false =>
      match ← write path cs with
      | .ok () => pure ()
      | .error e =>
        complain ("couldn't open file ".toList ++ path ++ ": ".toList ++ e.reason.toList)
        status := 4
  pure (match stopped with
    | some n => if n = 0 then status else n
    | none => status)

end NativeExtension.Utility

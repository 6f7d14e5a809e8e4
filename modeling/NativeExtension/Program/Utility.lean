import NativeExtension.Files.Permission
import NativeExtension.Program.Messages
import NativeExtension.Shell.Condition
import NativeExtension.Shell.Format

/-!
The plain programs of a host: those that write their arguments or what they read, decide a
condition, wait, and make or take away files and directories.
-/
namespace NativeExtension.Utility

open Shell (Run)

/-- How lines are shown: whether they are numbered, all of them or those that hold something, whether
    their ends and their tabs are marked, and whether empty ones are shown once only. -/
structure LineStyle where
  numbered : Bool
  numberedFull : Bool
  marksEnds : Bool
  marksTabs : Bool
  marksOthers : Bool
  squeezes : Bool

/-- An octet that cannot be shown, spelled with characters that can. -/
def spelled (c : Char) : List Char :=
  let n := c.toNat
  let low (n : Nat) : List Char :=
    if n < 32 then ['^', Char.ofNat (n + 64)] else if n = 127 then ['^', '?'] else [Char.ofNat n]
  if n < 128 then low n else 'M' :: '-' :: low (n - 128)

/-- A line as it is shown. -/
def LineStyle.line (style : LineStyle) (cs : List Char) : List Char :=
  cs.flatMap fun c =>
    if c == '\t' then if style.marksTabs then spelled c else [c]
    else if style.marksOthers then spelled c
    else [c]

/-- Lines as they are shown, from the `n`-th numbered one on. `afterEmpty` says that the line before
    was empty. -/
def LineStyle.lines (style : LineStyle) :
    (n : Nat) → (afterEmpty : Bool) → List (List Char) → (ended : Bool) → List Char
  | _, _, [], _ => []
  | n, afterEmpty, cs :: rest, ended =>
    let isEmpty := cs = []
    let isComplete := ended || !rest.isEmpty
    if style.squeezes && isEmpty && afterEmpty && isComplete then
      style.lines n true rest ended
    else
      let counts := style.numbered && !(style.numberedFull && isEmpty)
      let number := if counts then flushRight 6 (digits n) ++ ['\t'] else []
      let mark := if isComplete then if style.marksEnds then ['$', '\n'] else ['\n'] else []
      number ++ style.line cs ++ mark ++
        style.lines (if counts then n + 1 else n) isEmpty rest ended

/-- Where a file stands that a descriptor leads to, and the place in it that comes next. -/
def openPlace? (descriptor : Nat) : Run (Option (Location × Nat)) := do
  match ← Run.endpoint descriptor with
  | some (.file index) =>
    return (← Run.host).openings[index]?.bind fun o =>
      if o.orphan.isNone then some (o.location, o.offset) else none
  | _ => pure none

/-- Whether an input has something left to read and is the file that is written to. -/
def isOwnOutput (path : List Char) : Run Bool := do
  let t ← Run.files
  let source ← if path == ['-'] then openPlace? 0
    else pure ((t.resolve .target (Text.Octets.toString path)).toOption.map (·, 0))
  match source, ← openPlace? 1 with
  | some (l, place), some (m, _) =>
    match t.get? l with
    | some (.file content _) => pure (l == m && place < content.size)
    | _ => pure false
  | _, _ => pure false

/-- Writes the files that are named, or what is read where none is. -/
def cat : Tool := fun args => do
  let c ← options ⟨"nbsETAvetu".toList, [], [("number", 'n'), ("number-nonblank", 'b'),
    ("squeeze-blank", 's'), ("show-ends", 'E'), ("show-tabs", 'T'), ("show-all", 'A'),
    ("show-nonprinting", 'v')], true⟩ 1 args
  let some' (letters : List Char) : Bool := letters.any c.has
  let style : LineStyle :=
    ⟨some' ['n', 'b'], c.has 'b', some' ['E', 'A', 'e'], some' ['T', 'A', 't'],
      some' ['v', 'A', 'e', 't'], c.has 's'⟩
  let mut status := 0
  let mut all := []
  for path in inputs c.operands do
    if ← isOwnOutput path then
      complain (plainPath path ++ ": input file is output file".toList)
      status := 1
      continue
    match ← input path with
    | .ok cs => all := all ++ cs
    | .error e =>
      -- What was read before a complaint is written before it.
      if c.options = [] then
        Run.emit 1 all
        all := []
      complainOfInput path (plainPath path) "closing standard input".toList e
      status := 1
  let (lines, ended) := linesOf all
  Run.emit 1 (if c.options = [] then all else style.lines 1 false lines ended)
  pure status

/-- Writes its arguments with blanks between them; the letters of leading options say whether a line
    feed follows and whether escapes are resolved. -/
def echo : Tool := fun args => do
  let isOption (arg : List Char) : Bool :=
    match arg with
    | '-' :: c :: cs => (c :: cs).all fun c => ['n', 'e', 'E'].contains c
    | _ => false
  let letters := (args.takeWhile isOption).flatten.filter (· != '-')
  let text := [' '].intercalate (args.dropWhile isOption)
  let resolve := (letters.filter (· != 'n')).getLast? == some 'e'
  let (text, stopped) :=
    if resolve then Shell.Format.unescape true (text.length + 1) text else (text, false)
  Run.emit 1 (if stopped || letters.contains 'n' then text else text ++ ['\n'])
  pure 0

/-- The wording of a complaint about a format. -/
def formatComplaint : Shell.Format.Complaint → List Char
  | .missingCharacter => "%: invalid conversion specification".toList
  | .invalidDirective directive => directive ++ ": invalid conversion specification".toList
  | .expectedNumber word => quoted word ++ ": expected a numeric value".toList
  | .notConverted word => quoted word ++ ": value not completely converted".toList
  | .outOfRange word => quoted word ++ ": Numerical result out of range".toList

/-- Writes words after a format. -/
def printf : Tool := fun args => do
  let args := if args.head? == some ['-', '-'] then args.tail else args
  match args with
  | [] => misuse 1 "missing operand".toList
  | format :: words =>
    let p := Shell.Format.print true format words
    for c in p.complaints do complain (formatComplaint c)
    Run.emit 1 p.written
    if p.taken = 0 && !p.finished then
      if let some word := words.head? then
        complain ("warning: ignoring excess arguments, starting with ".toList ++ quoted word)
    pure (if p.complaints = [] then 0 else 1)

/-- The wording of an error in a condition of the given words. -/
def conditionComplaint (words : List (List Char)) : Shell.ConditionError → List Char
  | .illegalNumber text => "invalid integer ".toList ++ quoted text
  | .argumentExpected operator => "missing argument after ".toList ++ quoted operator
  | .parenthesisExpected => "missing argument after ".toList ++ quoted (words.getLastD [])
  | .unexpectedOperator word =>
    match words with
    | [first, second] =>
      if first.head? == some '-' then quoted first ++ ": unary operator expected".toList
      else "missing argument after ".toList ++ quoted second
    | [_, second, _] => quoted second ++ ": binary operator expected".toList
    | _ => "extra argument ".toList ++ quoted word

/-- Whether a condition holds, as a status. -/
def test : Tool := fun args => do
  let isBracket := (((← ownName).splitOn '/').getLastD []) == ['[']
  let args ←
    if !isBracket then pure args
    else if args.getLast? == some [']'] then pure args.dropLast
    else
      complain (Text.Octets.ofString "missing ‘]’")
      quit 2
  match Shell.Condition.holds (← Run.files) 4 args with
  | .ok holds => pure (if holds then 0 else 1)
  | .error e => complain (conditionComplaint args e); pure 2

/-- The millionths of a second that a word for a time spells: digits with a point, and a letter for
    seconds, minutes, hours or days. -/
def micros? (word : List Char) : Option Nat := do
  let unit ← match word.getLast? with
    | some 's' => some 1
    | some 'm' => some 60
    | some 'h' => some 3600
    | some 'd' => some 86400
    | some c => if c.isDigit || c == '.' then some 1 else none
    | none => none
  let number := word.takeWhile fun c => c.isDigit || c == '.'
  let whole := number.takeWhile Char.isDigit
  let fraction := (number.drop (whole.length + 1)).take 6
  if word.length > number.length + 1 || !fraction.all Char.isDigit then none
  else if whole = [] && fraction = [] then none
  else
    let value (cs : List Char) : Nat := (Shell.natural? cs).getD 0
    some (unit * (value whole * 1000000 + value fraction * Nat.pow 10 (6 - fraction.length)))

/-- A time that no limit is longer than. -/
def foreverMicros : Nat := 1 <<< 80

/-- The time that words for times spell together, in millionths of a second. -/
def sleepMicros? (words : List (List Char)) : Option Nat := do
  let times ← words.mapM fun word =>
    if ["infinity", "inf"].any (·.toList == word) then some foreverMicros else micros? word
  if words = [] then none else some (times.foldl (· + ·) 0)

/-- Waits for as long as its arguments say together. -/
def sleep : Tool := fun args => do
  let c ← options (letters "" "") 1 args
  let words := c.operands
  if words = [] then misuse 1 "missing operand".toList
  match sleepMicros? words with
  | some micros =>
    Run.spend micros
    if micros ≥ foreverMicros then throw .expired
    pure 0
  | none =>
    for word in words do
      if (sleepMicros? [word]).isNone then complain ("invalid time interval ".toList ++ quoted word)
    pointToHelp
    pure 1

/-- The reason that a fault of the host gives. -/
def reason : Fault → List Char
  | .system (.numbered _ reason _ _) => reason.toList
  | fault => fault.message.toList

/-- The paths of a directory and of those above it, from the highest on. -/
def ancestors (path : List Char) : List (List Char) :=
  let parts := path.splitOn '/'
  let starts := (List.range parts.length).map fun n => ['/'].intercalate (parts.take (n + 1))
  starts.filter fun start => start != [] && start.getLast? != some '/'

/-- Makes a directory, and tells so where asked for. Gives whether there was no error. -/
def makeDirectory (told : Bool) (path : List Char) : Run Bool := do
  match (← Run.files).makeDirectory (Text.Octets.toString path) with
  | .ok t =>
    Run.setFiles t
    if told then
      Run.emit 1 ((← ownName) ++ ": created directory ".toList ++ quotedPath path ++ ['\n'])
    pure true
  | .error fault =>
    complain ("cannot create directory ".toList ++ quoted path ++ ": ".toList ++ reason fault)
    pure false

/-- Makes a directory and those above it that are missing. -/
def makeDirectories (told : Bool) (path : List Char) : Run Bool := do
  for place in ancestors path do
    match ← entryAt .target place with
    | .ok (.directory _) => pure ()
    | .ok _ =>
      let e : Errno := if place == path then .alreadyExists else .notDirectory
      complain ("cannot create directory ".toList ++ quoted place ++ ": ".toList ++ e.reason.toList)
      return false
    | .error _ => if !(← makeDirectory told place) then return false
  if path = [] then makeDirectory told path else pure true

/-- Makes directories, with those above them where asked for. -/
def mkdir : Tool := fun args => do
  let c ← options ⟨"pv".toList, "m".toList, [("parents", 'p'), ("verbose", 'v'), ("mode", 'm')],
    true⟩ 1 args
  if c.operands = [] then misuse 1 "missing operand".toList
  if let some word := c.value? 'm' then
    if (Permission.changed? 0 true 0o777 word).isNone then
      complain ("invalid mode ".toList ++ quoted word)
      quit 1
  let mode := (c.value? 'm').bind (Permission.changed? 0 true 0o777)
  let mut status := 0
  for path in c.operands do
    let made ← if c.has 'p' then makeDirectories (c.has 'v') path else makeDirectory (c.has 'v') path
    if !made then status := 1
    else if let some mode := mode then
      let t ← Run.files
      if let .ok l := t.resolve .target (Text.Octets.toString path) then
        Run.setFiles (t.put l (.directory mode))
  pure status

/-- Takes away a directory that holds nothing. -/
def removeEmpty (path : List Char) : Run (Except Errno Unit) := do
  let t ← Run.files
  match t.resolve .link (Text.Octets.toString path) with
  | .error e => pure (.error e)
  | .ok l =>
    match t.get? l with
    | none => pure (.error .noEntry)
    | some (.directory _) =>
      if !t.mayChange l then pure (.error .accessDenied)
      else if t.names l = [] then
        Run.setFiles (t.remove l)
        pure (.ok ())
      else pure (.error .notEmpty)
    | some _ => pure (.error .notDirectory)

/-- Takes away directories that hold nothing, with those above them where asked for. -/
def rmdir : Tool := fun args => do
  let c ← options ⟨"pvi".toList, [], [("parents", 'p'), ("verbose", 'v'),
    ("ignore-fail-on-non-empty", 'i')], true⟩ 1 args
  if c.operands = [] then misuse 1 "missing operand".toList
  let mut status := 0
  for path in c.operands do
    let places := if c.has 'p' then (ancestors path).reverse else [path]
    for (place, i) in places.zipIdx do
      if c.has 'v' then
        Run.emit 1 ((← ownName) ++ ": removing directory, ".toList ++ quotedPath place ++ ['\n'])
      match ← removeEmpty place with
      | .ok () => pure ()
      | .error e =>
        if !(e = .notEmpty && c.has 'i') then
          let what := if i = 0 then "failed to remove " else "failed to remove directory "
          complain (what.toList ++ quotedPath place ++ ": ".toList ++ e.reason.toList)
          status := 1
        break
  pure status

/-- Makes files that are missing. -/
def touch : Tool := fun args => do
  let c ← options ⟨"acfmh".toList, "dtr".toList, [("no-create", 'c'), ("date", 'd'),
    ("reference", 'r')], true⟩ 1 args
  if c.operands = [] then misuse 1 "missing file operand".toList
  let mut status := 0
  for path in c.operands do
    match ← entryAt .target path with
    | .ok _ => pure ()
    | .error e =>
      let fails (what : String) (e : Errno) : Run Unit :=
        complain (what.toList ++ quotedPath path ++ ": ".toList ++ e.reason.toList)
      if c.has 'c' then
        if !Program.isAbsence e then fails "cannot touch " e
      else if path.getLast? == some '/' then
        fails "setting times of " .noEntry
        status := 1
      else
        match ← write path [] with
        | .ok () => pure ()
        | .error e =>
          fails "cannot touch " e
          status := 1
  pure status

/-- The path of an entry below a directory that a path names. -/
def pathBelow (path : List Char) (below : Location) : List Char :=
  below.foldl (fun path name => path ++ '/' :: Text.Octets.ofString name) path

/-- The locations below a directory, with what stands there, each behind those that it holds. -/
def contentsFirst (t : FileTree) (l : Location) : List (Location × Entry) :=
  let below := t.entries.filter fun (m, _) => l.isPrefixOf m && m != l
  below.mergeSort fun a b => decide (a.1.length ≥ b.1.length)

/-- Takes files away, and directories with all that is in them where asked for. -/
def rm : Tool := fun args => do
  let c ← options ⟨"frRidvI".toList, [], [("force", 'f'), ("recursive", 'r'), ("dir", 'd'),
    ("verbose", 'v')], true⟩ 1 args
  let force := c.has 'f'
  if c.operands = [] then if force then quit 0 else misuse 1 "missing operand".toList
  let deep := c.has 'r' || c.has 'R'
  let tell (what : String) (path : List Char) : Run Unit := do
    if c.has 'v' then Run.emit 1 ("removed ".toList ++ what.toList ++ quotedPath path ++ ['\n'])
  let mut status := 0
  for path in c.operands do
    let t ← Run.files
    let refuse (e : Errno) : Run Unit :=
      complain ("cannot remove ".toList ++ quotedPath path ++ ": ".toList ++ e.reason.toList)
    let name := ((path.splitOn '/').filter (· != [])).getLastD []
    match t.resolve .link (Text.Octets.toString path) with
    | .error e =>
      if !(force && Program.isAbsence e) then
        refuse e
        status := 1
    | .ok l =>
      match t.get? l with
      | none =>
        if !force then
          refuse .noEntry
          status := 1
      | some (.directory _) =>
        if deep && (name == ['.'] || name == ['.', '.']) then
          complain ("refusing to remove '.' or '..' directory: skipping ".toList ++ quotedPath path)
          status := 1
        else if !t.mayChange l then
          refuse .accessDenied
          status := 1
        else if deep then
          for (m, e) in contentsFirst t l do
            let what := if e.isDirectory then "directory " else ""
            tell what (pathBelow path (m.drop l.length))
          tell "directory " path
          Run.setFiles { t with entries := t.entries.filter fun (m, _) => !l.isPrefixOf m }
        else if c.has 'd' then
          match ← removeEmpty path with
          | .ok () => tell "directory " path
          | .error e =>
            refuse e
            status := 1
        else
          refuse .isDirectory
          status := 1
      | some _ =>
        if t.mayChange l then
          Run.setFiles (t.remove l)
          tell "" path
        else
          refuse .accessDenied
          status := 1
  pure status

/-- Writes the directory in which relative paths start. -/
def pwd : Tool := fun _ => do
  Run.emit 1 ((Text.Octets.ofString (FileTree.locationText (← Run.files).current)) ++ ['\n'])
  pure 0

/-- Writes a line again and again, for as long as it is read. -/
def yes : Tool := fun args => do
  let line := (if args = [] then ['y'] else [' '].intercalate args) ++ ['\n']
  let block := (List.replicate (Run.channelLimit / (8 * line.length) + 1) line).flatten
  for _ in List.range 32 do
    Run.emit 1 block
    if (← Run.writeFault? 1).isSome then quit 1
  throw .expired

/-- Writes variables that the program was given, by name or all of them. -/
def printenv : Tool := fun names => do
  let all ← Run.environment
  if names = [] then
    for (name, value) in all do Run.emit 1 (name ++ '=' :: value ++ ['\n'])
    pure 0
  else
    let mut status := 0
    for name in names do
      match all.lookup name with
      | some value => Run.emit 1 (value ++ ['\n'])
      | none => status := 1
    pure status

end NativeExtension.Utility

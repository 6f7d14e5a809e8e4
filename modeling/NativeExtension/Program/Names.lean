import NativeExtension.Program.Columns
import NativeExtension.Program.Filter
import NativeExtension.Program.Placement

/-!
Programs of a host that take paths apart, follow links to where they lead, compare files, or write
what they read to several of them.
-/
namespace NativeExtension.Utility

open Shell (Run)

/-- A path without slashes behind its last name; nothing but slashes stand for the root. -/
def trimmed (path : List Char) : List Char :=
  match (path.reverse.dropWhile (· == '/')).reverse with
  | [] => if path = [] then [] else ['/']
  | cs => cs

/-- The last name in a path. The root is its own. -/
def baseName (path : List Char) : List Char :=
  let path := trimmed path
  if path == ['/'] then path else (path.splitOn '/').getLastD []

/-- A name without what it ends in, unless there is nothing else. -/
def withoutSuffix (suffix name : List Char) : List Char :=
  if name != suffix && suffix.reverse.isPrefixOf name.reverse then
    name.take (name.length - suffix.length)
  else name

/-- What is in front of the last name in a path. -/
def directoryName (path : List Char) : List Char :=
  let path := trimmed path
  let above := path.take (path.length - (baseName path).length)
  if path == ['/'] then path
  else if above = [] then ['.']
  else trimmed above

/-- What ends an answer: a line feed, or an octet of zero where that is asked for. -/
def answerEnd (c : Command.Chosen) : List Char := if c.has 'z' then ['\x00'] else ['\n']

/-- Refuses an operand that is one too many. -/
def refuseOperand {α : Type} (operand : List Char) : Run α :=
  misuse 1 ("extra operand ".toList ++ quoted operand)

/-- Writes the last names of paths, without what they end in where that is asked for. -/
def baseNames : Tool := fun args => do
  let c ← options ⟨"az".toList, ['s'], [("multiple", 'a'), ("suffix", 's'), ("zero", 'z')], false⟩ 1
    args
  let several := c.has 'a' || c.has 's'
  let (paths, suffix) ← match c.operands with
    | [] => misuse 1 "missing operand".toList
    | paths =>
      if several then pure (paths, (c.value? 's').getD [])
      else
        match paths with
        | [path] => pure ([path], [])
        | path :: suffix :: [] => pure ([path], suffix)
        | _ :: _ :: extra :: _ => refuseOperand extra
        | [] => pure ([], [])
  for path in paths do Run.emit 1 (withoutSuffix suffix (baseName path) ++ answerEnd c)
  pure 0

/-- Writes what is in front of the last names of paths. -/
def directoryNames : Tool := fun args => do
  let c ← options ⟨['z'], [], [("zero", 'z')], true⟩ 1 args
  if c.operands = [] then misuse 1 "missing operand".toList
  for path in c.operands do Run.emit 1 (directoryName path ++ answerEnd c)
  pure 0

/-- How much of a path has to be there. -/
inductive Presence where
  | all
  | allButLast
  | nothing
  deriving DecidableEq, Repr

/-- Where names lead from a location on, whether or not anything is there. -/
def boldWalk (t : FileTree) (here : Location) (names : List String) : Location :=
  names.foldl (fun here name =>
    if name = "" || name = "." then here
    else if name = ".." then here.dropLast
    else
      let next := here ++ [name]
      match t.resolve .target (FileTree.locationText next) with
      | .ok l => l
      | .error _ => next) here

/-- The location that a path leads to. -/
def canonical (t : FileTree) (presence : Presence) (path : List Char) : Except Errno Location := do
  let text := Text.Octets.toString path
  match presence with
  | .all => return (← t.find text).1
  | .allButLast =>
    match t.resolve .target text with
    | .ok l => pure l
    | .error .noEntry => t.resolve .target (FileTree.withoutSlashes text)
    | .error e => throw e
  | .nothing =>
    if path = [] then throw .noEntry
    else pure (boldWalk t (FileTree.origin t.current text) (FileTree.pathNames text))

/-- The text of a location as octets. -/
def locationOctets (l : Location) : List Char := Text.Octets.ofString (FileTree.locationText l)

/-- Writes where links lead, or where paths lead in the end. -/
def linkTargets : Tool := fun args => do
  let c ← options ⟨"femnqsvz".toList, [], [("canonicalize", 'f'), ("canonicalize-existing", 'e'),
    ("canonicalize-missing", 'm'), ("no-newline", 'n'), ("quiet", 'q'), ("silent", 's'),
    ("verbose", 'v'), ("zero", 'z')], true⟩ 1 args
  if c.operands = [] then misuse 1 "missing operand".toList
  let bare := c.has 'n' && c.operands.length = 1
  if c.has 'n' && !bare then complain "ignoring --no-newline with multiple arguments".toList
  let presence := match c.last? ['f', 'e', 'm'] with
    | some 'e' => some Presence.all
    | some 'm' => some .nothing
    | some _ => some .allButLast
    | none => none
  let mut status := 0
  for path in c.operands do
    let found : Except Errno (List Char) ← match presence with
      | some presence =>
        pure ((canonical (← Run.files) presence path).map locationOctets)
      | none =>
        match ← entryAt .link path with
        | .ok (.link text) => pure (.ok (Text.Octets.ofString text))
        | .ok _ => pure (.error .invalidArgument)
        | .error e => pure (.error e)
    match found with
    | .ok target => Run.emit 1 (target ++ if bare then [] else answerEnd c)
    | .error e =>
      if c.last? ['v', 'q', 's'] == some 'v' then complainOf (plainPath path) e
      status := 1
  pure status

/-- The way from one location to another. -/
def relativeTo (start l : Location) : List Char :=
  let shared := ((start.zip l).takeWhile fun (a, b) => a = b).length
  let parts := List.replicate (start.length - shared) ".." ++ l.drop shared
  if parts = [] then ['.'] else Text.Octets.ofString ("/".intercalate parts)

/-- Writes where paths lead in the end. -/
def canonicalPaths : Tool := fun args => do
  let c ← options ⟨"emLPqsz".toList, "RB".toList, [("canonicalize-existing", 'e'),
    ("canonicalize-missing", 'm'), ("quiet", 'q'), ("strip", 's'), ("no-symlinks", 's'),
    ("zero", 'z'), ("relative-to", 'R'), ("relative-base", 'B')], true⟩ 1 args
  if c.operands = [] then misuse 1 "missing operand".toList
  let presence : Presence := match c.last? ['e', 'm'] with
    | some 'e' => .all
    | some _ => .nothing
    | none => .allButLast
  let place (path : List Char) : Run (Except Errno Location) := do
    let t ← Run.files
    let text := Text.Octets.toString path
    if c.has 's' && path != [] then
      let plain : Location := (FileTree.pathNames text).foldl (fun here name =>
        if name = "" || name = "." then here
        else if name = ".." then here.dropLast
        else here ++ [name]) (FileTree.origin t.current text)
      pure (.ok plain)
    else pure (canonical t presence path)
  let start (letter : Char) : Run (Option Location) := do
    match c.value? letter with
    | none => pure none
    | some path =>
      match ← place path with
      | .ok l => pure (some l)
      | .error e => complainOf (plainPath path) e; quit 1
  let base ← start 'B'
  let here ← start 'R'
  let mut status := 0
  for path in c.operands do
    match ← place path with
    | .ok l =>
      let isInside := base.all fun base => base.isPrefixOf l
      let shown := match if isInside then here <|> base else none with
        | some start => relativeTo start l
        | none => locationOctets l
      Run.emit 1 (shown ++ answerEnd c)
    | .error e =>
      if !c.has 'q' then complainOf (if path = [] then "''".toList else plainPath path) e
      status := 1
  pure status

/-- Writes what is read, and to the files that are named as well. -/
def branchOff : Tool := fun args => do
  let c ← options ⟨"aip".toList, [], [("append", 'a'), ("ignore-interrupts", 'i')], true⟩ 1 args
  let mut status := 0
  let cs ← match ← input ['-'] with
    | .ok cs => pure cs
    | .error e =>
      complainOfInput ['-'] "read error".toList "standard input".toList e
      status := 1
      pure []
  for path in c.operands do
    let old ← if c.has 'a' then input path else pure (.ok [])
    let done ← match old with
      | .ok before => write path (before ++ cs)
      | .error .noEntry => write path cs
      | .error e => pure (.error e)
    if let .error e := done then
      complainOf (plainPath path) e
      status := 1
  Run.emit 1 cs
  pure status

/-- The place of the first difference of two texts: the octets in front of it. -/
def agreement (a b : List Char) : List Char :=
  ((a.zip b).takeWhile fun (x, y) => x == y).map Prod.fst

/-- An octet as it is shown beside its number. -/
def octetShown (c : Char) : List Char := spelled c

/-- An octet as a number to the base of eight, three wide. -/
def octetNumber (c : Char) : List Char := flushRight 3 (Nat.toDigits 8 c.toNat)

/-- Says of two texts of which one is the start of the other where the shorter one ends. -/
def tellEnd (shorter : List Char) (text : List Char) (counted : Bool) : Run Unit := do
  let place :=
    if text = [] then " which is empty".toList
    else
      let lines := text.count '\n'
      let where_ :=
        if counted then []
        else if text.getLast? == some '\n' then ", line ".toList ++ digits lines
        else ", in line ".toList ++ digits (lines + 1)
      " after byte ".toList ++ digits text.length ++ where_
  complain ("EOF on ".toList ++ shorter ++ place)

/-- Compares two files: nothing is said of those that are the same. -/
def compareFiles : Tool := fun args => do
  let c ← match (⟨"slbv".toList, ['n', 'i'], [("silent", 's'), ("quiet", 's'), ("verbose", 'l'),
    ("print-bytes", 'b'), ("bytes", 'n')], true⟩ : Command.Letters).read args with
    | .ok c => pure c
    | .error fault =>
      complain (faultText fault)
      complain "Try 'cmp --help' for more information.".toList
      quit 2
  let (first, second) ← match c.operands with
    | [] =>
      complain ("missing operand after '".toList ++ (← ownName) ++ ['\''])
      complain "Try 'cmp --help' for more information.".toList
      quit 2
    | [path] => pure (path, ['-'])
    | path :: other :: _ => pure (path, other)
  if first == second then return 0
  let limit := (c.value? 'n').bind multiple?
  let quiet := c.has 's'
  let read (path : List Char) : Run (List Char) := do
    match ← input path with
    | .ok cs => pure (match limit with
      | some n => cs.take n
      | none => cs)
    | .error e =>
      if !quiet then complainOf path e
      quit 2
  let a ← read first
  let b ← read second
  let same := agreement a b
  if a == b then pure 0
  else if quiet then pure 1
  else
    if c.has 'l' then
      for ((x, y), i) in (a.zip b).zipIdx do
        if x != y then
          let shown :=
            if c.has 'b' then
              [octetNumber x, (octetShown x ++ "    ".toList).take 4, octetNumber y, octetShown y]
            else [octetNumber x, octetNumber y]
          let width := (digits (min a.length b.length)).length
          Run.emit 1 ([' '].intercalate (flushRight width (digits (i + 1)) :: shown) ++ ['\n'])
      if a.length < b.length then tellEnd first a true
      else if b.length < a.length then tellEnd second b true
    else if same.length = a.length then tellEnd first a false
    else if same.length = b.length then tellEnd second b false
    else
      let x := a.getD same.length '\x00'
      let y := b.getD same.length '\x00'
      let octets :=
        if c.has 'b' then
          " is ".toList ++ octetNumber x ++ [' '] ++ octetShown x ++ [' '] ++ octetNumber y ++ [' '] ++
            octetShown y
        else []
      Run.emit 1 (first ++ [' '] ++ second ++ " differ: byte ".toList ++ digits (same.length + 1) ++
        ", line ".toList ++ digits (same.count '\n' + 1) ++ octets ++ ['\n'])
    pure 1

/-- The paths that a name stands for in the directories in which programs are looked for. -/
def programPaths (name : List Char) : Run (List (List Char)) := do
  let path := ((← Run.environment).lookup "PATH".toList).getD []
  let t ← Run.files
  pure ((Program.candidates (path.splitOn ':') name).filter fun path =>
    match t.find (Text.Octets.toString path) with
    | .ok (_, .file _ mode) => FileTree.mayExecute mode
    | _ => false)

/-- Writes where programs are found by their names. -/
def locate : Tool := fun args => do
  match (⟨"as".toList, [], [], false⟩ : Command.Letters).read args with
  | .error (.unknown letter) =>
    Run.emit 2 ("Illegal option -".toList ++ [letter, '\n'])
    Run.emit 1 "Usage: /usr/bin/which [-as] args\n".toList
    pure 2
  | .error _ => pure 2
  | .ok c =>
    let mut status := if c.operands = [] then 1 else 0
    for name in c.operands do
      match ← programPaths name with
      | [] => status := 1
      | path :: others =>
        if !c.has 's' then
          for path in if c.has 'a' then path :: others else [path] do Run.emit 1 (path ++ ['\n'])
    pure status

/-- Makes a file or a directory under a name that is not taken. -/
def makeTemporary : Tool := fun args => do
  let c ← options ⟨"dutqV".toList, "p".toList, [("directory", 'd'), ("dry-run", 'u'), ("tmpdir", 'p'),
    ("quiet", 'q')], true⟩ 1 args
  let home := (((← Run.environment).lookup "TMPDIR".toList).filter (· != [])).getD "/tmp".toList
  let template ← match c.operands with
    | [] => pure (joined ((c.value? 'p').getD home) "tmp.XXXXXXXXXX".toList)
    | [template] =>
      if c.has 't' then pure (joined home template)
      else
        match c.value? 'p' with
        | some directory => pure (joined directory template)
        | none => pure template
    | _ => misuse 1 "too many templates".toList
  let runs := template.reverse
  let behind := runs.takeWhile (· != 'X')
  let marks := (runs.drop behind.length).takeWhile (· == 'X')
  if marks.length < 3 then
    complain ("too few X's in template ".toList ++ quoted template)
    quit 1
  let start := template.take (template.length - behind.length - marks.length)
  let number := digits (← Run.newNumber)
  let filled := List.replicate (marks.length - number.length) 'a' ++ number.take marks.length
  let path := start ++ filled ++ behind.reverse
  let fails (reason : List Char) : Run Nat := do
    if !c.has 'q' then
      complain ((if c.has 'd' then "failed to create directory via template " else
        "failed to create file via template ").toList ++ quoted template ++ ": ".toList ++ reason)
    pure 1
  let t ← Run.files
  let text := Text.Octets.toString path
  let made :=
    if c.has 'u' then .ok t
    else if c.has 'd' then t.makeDirectory text
    else t.createExclusive text
  match made with
  | .error fault => fails (reason fault)
  | .ok t =>
    Run.setFiles t
    Run.emit 1 (path ++ ['\n'])
    pure 0

end NativeExtension.Utility

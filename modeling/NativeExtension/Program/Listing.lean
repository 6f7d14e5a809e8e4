import NativeExtension.Program.Names

/-!
Programs of a host that tell what is there: what directories hold, what is known of files, and what
the host is.
-/
namespace NativeExtension.Utility

open Shell (Run)

/-- Whether one name comes before another or is the same: octet by octet. -/
def nameOrder : List Char → List Char → Bool
  | [], _ => true
  | _ :: _, [] => false
  | a :: as, b :: bs => if a = b then nameOrder as bs else a < b

/-- The names in a directory, in their order. -/
def sortedNames (t : FileTree) (l : Location) : List (List Char) :=
  ((t.names l).map Text.Octets.ofString).mergeSort nameOrder

/-- The mark behind a name that says what it names. -/
def kindMark (e : Entry) : List Char :=
  match e with
  | .directory _ => ['/']
  | .link _ => ['@']
  | .file _ mode => if mode &&& 0o111 != 0 then ['*'] else []
  | .device _ => []

/-- The permission bits of what stands somewhere. -/
def entryMode (e : Entry) : Nat :=
  match e with
  | .directory mode | .file _ mode => mode
  | .link _ => 0o777
  | .device _ => FileTree.deviceMode

/-- How many octets an entry holds. -/
def entrySize (e : Entry) : Nat :=
  match e with
  | .directory _ => 4096
  | .link text => text.utf8ByteSize
  | .file content _ => content.size
  | .device _ => 0

/-- The kind and the permission bits of an entry, as letters. -/
def entryLetters (e : Entry) : List Char :=
  let kind := match e with
    | .directory _ => 'd'
    | .link _ => 'l'
    | .file .. => '-'
    | .device _ => 'c'
  kind :: modeLetters (entryMode e)

/-- How many blocks of a thousand octets an entry takes. -/
def entryBlocks (e : Entry) : Nat :=
  match e with
  | .link _ | .device _ => 0
  | e => (entrySize e + 4095) / 4096 * 4

/-- The time at which all was written, as it is shown. -/
def writtenTime : List Char := "Jan  1 00:00".toList

/-- How the names in directories are shown. -/
structure ListStyle where
  hidden : Bool
  dots : Bool
  marksAll : Bool
  marksDirectories : Bool
  backwards : Bool
  quoted : Bool
  commas : Bool
  /-- All that is known is shown. -/
  long : Bool
  /-- Names that match one of these are left out. -/
  ignored : List Shell.Pattern

/-- A name as it is shown. -/
def ListStyle.shown (style : ListStyle) (name : List Char) (e : Option Entry) : List Char :=
  let name := if style.quoted then '"' :: name ++ ['"'] else name
  match e with
  | some e =>
    if style.marksAll then name ++ kindMark e
    else if style.marksDirectories && e.isDirectory then name ++ ['/']
    else name
  | none => name

/-- Columns of which the first ones are as wide as the widest field in them. -/
def alignedRows (rows : List (List (List Char))) : List (List Char) :=
  let count := (rows.map List.length).foldl max 0
  let widths := (List.range count).map fun i =>
    (rows.map fun row => (row.getD i []).length).foldl max 0
  rows.map fun row =>
    [' '].intercalate ((row.zip widths).zipIdx.map fun ((field, width), i) =>
      if i + 1 = row.length then field else flushRight width field)

/-- The lines that show all that is known of entries, by their names. -/
def longLines (style : ListStyle) (t : FileTree) (named : List (List Char × Entry × Location)) :
    List (List Char) :=
  alignedRows (named.map fun (name, e, l) =>
    let links := match e with
      | .directory _ => 2 + ((t.names l).filter fun n => t.hasDirectory (l ++ [n])).length
      | _ => 1
    let shown := match e with
      | .link text => name ++ " -> ".toList ++ Text.Octets.ofString text
      | e => style.shown name (some e)
    [entryLetters e, digits links, "root".toList, "root".toList, digits (entrySize e), writtenTime,
      shown])

/-- Entries as they are shown, by their names: one a line or between commas. -/
def ListStyle.text (style : ListStyle) (t : FileTree) (named : List (List Char × Entry × Location)) :
    List Char :=
  let named := if style.backwards then named.reverse else named
  if style.long then ofLines (longLines style t named)
  else
    let names := named.map fun (name, e, _) => style.shown name (some e)
    if style.commas && names != [] then ", ".toList.intercalate names ++ ['\n']
    else ofLines names

/-- What a directory holds, as it is shown. -/
def ListStyle.inside (style : ListStyle) (t : FileTree) (l : Location) : List Char :=
  let all := (if style.dots then [['.'], ['.', '.']] else []) ++ sortedNames t l
  let seen := all.filter fun name => (style.hidden || name.head? != some '.') &&
    !style.ignored.any (·.isMatch name)
  let named := seen.filterMap fun name =>
    let place :=
      if name == ['.'] then l
      else if name == ['.', '.'] then l.dropLast
      else l ++ [Text.Octets.toString name]
    (t.get? place).map fun e => (name, e, place)
  let total := (named.map fun (_, e, _) => entryBlocks e).foldl (· + ·) 0
  (if style.long then "total ".toList ++ digits total ++ ['\n'] else []) ++ style.text t named

/-- The directories in a directory, with all below them, in the order in which they are shown, by
    their paths. Every level spends fuel. -/
def directoriesBelow (t : FileTree) (hidden : Bool) :
    (fuel : Nat) → (path : List Char) → Location → List (List Char × Location)
  | 0, _, _ => []
  | fuel + 1, path, l =>
    let below := (sortedNames t l).filter fun name =>
      (hidden || name.head? != some '.') &&
        t.hasDirectory (l ++ [Text.Octets.toString name])
    (path, l) :: below.flatMap fun name =>
      directoriesBelow t hidden fuel (joined path name) (l ++ [Text.Octets.toString name])

/-- How deep directories may stand in each other. -/
def directoryDepth : Nat := 200

/-- Writes what directories hold. -/
def listNames : Tool := fun args => do
  let c ← options ⟨"1aABCdFfgGhHikLlmnNopqQrRsStuUvxXZ".toList, "IwT\x01".toList, [("all", 'a'),
    ("almost-all", 'A'), ("directory", 'd'), ("classify", 'F'), ("reverse", 'r'),
    ("recursive", 'R'), ("color", '\x01'), ("dereference", 'L'), ("ignore", 'I'),
    ("quote-name", 'Q'), ("indicator-style", '\x01')], true⟩ 2
    (args.map fun arg => if arg == "--color".toList then "--color=never".toList else arg)
  let t ← Run.files
  let style : ListStyle :=
    { hidden := c.has 'a' || c.has 'A' || c.has 'f'
      dots := c.has 'a' || c.has 'f'
      marksAll := c.has 'F'
      marksDirectories := c.has 'p'
      backwards := c.has 'r'
      quoted := c.has 'Q'
      commas := c.last? ['m', '1', 'C', 'x', 'l'] == some 'm'
      long := ['l', 'g', 'o', 'n'].any c.has && (c.last? ['m', 'C', 'x', 'l']).getD 'l' == 'l'
      ignored := (c.values 'I').map fun p => Shell.Pattern.ofMarked (p.map fun c => ⟨c, false⟩) }
  let paths := if c.operands = [] then [['.']] else c.operands
  let keepsLinks := (c.has 'd' || c.has 'F' || style.long) && !c.has 'L'
  let mut status := 0
  let mut plain : List (List Char × Entry × Location) := []
  let mut directories : List (List Char × Location) := []
  for path in paths do
    let direct ← entryAt .link path
    let followed ← entryAt .target path
    let found := if keepsLinks then direct
      else if followed.isOk || c.has 'L' then followed else direct
    match found with
    | .error e =>
      complain ("cannot access ".toList ++ quotedPath path ++ ": ".toList ++ e.reason.toList)
      status := 2
    | .ok (.directory mode) =>
      match t.resolve .target (Text.Octets.toString path) with
      | .ok l =>
        if c.has 'd' then plain := plain ++ [(path, .directory mode, l)]
        else directories := directories ++ [(path, l)]
      | .error _ => pure ()
    | .ok e => plain := plain ++ [(path, e, [])]
  let alone := plain.mergeSort fun a b => nameOrder a.1 b.1
  let sorted := directories.mergeSort fun a b => nameOrder a.1 b.1
  let listed := if style.backwards then sorted.reverse else sorted
  Run.emit 1 (style.text t alone)
  let all := if c.has 'R' then
      listed.flatMap fun (path, l) => directoriesBelow t style.hidden directoryDepth path l
    else listed
  let titled := c.has 'R' || paths.length > 1
  for ((path, l), i) in all.zipIdx do
    if titled then
      Run.emit 1 ((if i != 0 || alone != [] then ['\n'] else []) ++ path ++ [':', '\n'])
    Run.emit 1 (style.inside t l)
  pure status

/-- What is known of an entry, in place of a letter behind a percent sign. -/
def entryFact (path : List Char) (e : Entry) (letter : Char) : List Char :=
  match letter with
  | 'a' => Nat.toDigits 8 (entryMode e)
  | 'A' => entryLetters e
  | 'F' =>
    match e with
    | .directory _ => "directory".toList
    | .link _ => "symbolic link".toList
    | .file content _ => (if content.size = 0 then "regular empty file" else "regular file").toList
    | .device _ => "character special file".toList
  | 'n' => path
  | 'N' =>
    match e with
    | .link text => quotedPath path ++ " -> ".toList ++ quotedPath (Text.Octets.ofString text)
    | _ => quotedPath path
  | 's' => digits (entrySize e)
  | '%' => ['%']
  | _ => ['?']

/-- A format with what is known of an entry. -/
def factText (path : List Char) (e : Entry) : List Char → List Char
  | '%' :: letter :: rest => entryFact path e letter ++ factText path e rest
  | c :: rest => c :: factText path e rest
  | [] => []

/-- Writes what is known of files. -/
def tellFacts : Tool := fun args => do
  let c ← options ⟨"Lft".toList, "cp".toList, [("format", 'c'), ("printf", 'p'),
    ("dereference", 'L'), ("terse", 't')], true⟩ 1 args
  if c.operands = [] then misuse 1 "missing operand".toList
  let mut status := 0
  for path in c.operands do
    match ← entryAt (if c.has 'L' then .target else .link) path with
    | .error e =>
      complain ("cannot statx ".toList ++ quotedPath path ++ ": ".toList ++ e.reason.toList)
      status := 1
    | .ok e =>
      match c.value? 'p' with
      | some format =>
        Run.emit 1 (factText path e (Shell.Format.unescape false (format.length + 1) format).1)
      | none => Run.emit 1 (factText path e ((c.value? 'c').getD "%n".toList) ++ ['\n'])
  pure status

/-- Writes what the host is. -/
def tellHost : Tool := fun args => do
  let c ← options ⟨"asnrvmpio".toList, [], [("kernel-name", 's'), ("machine", 'm'),
    ("operating-system", 'o')], true⟩ 1 args
  if let some word := c.operands.head? then refuseOperand word
  let parts := (if c.options = [] || c.has 's' || c.has 'a' then ["Linux"] else []) ++
    (if c.has 'm' || c.has 'a' then ["x86_64"] else []) ++
    (if c.has 'o' || c.has 'a' then ["GNU/Linux"] else [])
  Run.emit 1 ((" ".intercalate parts).toList ++ ['\n'])
  pure 0

end NativeExtension.Utility

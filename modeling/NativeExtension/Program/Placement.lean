import NativeExtension.Files.Install
import NativeExtension.Program.Utility
import NativeExtension.Shell.Builtin

/-!
Programs of a host that put files somewhere else or change who may use them. The last argument names
where to, or the directory in which the entries keep their names.
-/
namespace NativeExtension.Utility

open Shell (Run)

/-- What is wrong with one of the paths. -/
def complainAbout (doing : String) (path reason : List Char) : Run Unit :=
  complain (doing.toList ++ [' '] ++ quotedPath path ++ ": ".toList ++ reason)

/-- The last name in a path. -/
def lastName (path : List Char) : List Char :=
  ((path.splitOn '/').filter (· != [])).getLastD []

/-- A path below another. -/
def joined (directory name : List Char) : List Char :=
  if directory.getLast? == some '/' then directory ++ name else directory ++ '/' :: name

/-- Says that two paths lead to the same file. -/
def complainOfSame (path target : List Char) : Run Unit :=
  complain (quotedPath path ++ " and ".toList ++ quotedPath target ++ " are the same file".toList)

/-- Says from where to where something went, where asked for. -/
def tell (isTold : Bool) (start path arrow target : List Char) : Run Unit := do
  if isTold then
    Run.emit 1 (start ++ quotedPath path ++ arrow ++ quotedPath target ++ ['\n'])

/-- The path and the place of each entry: the last operand is the place, or the directory that
    places are in. The program ends where that makes no sense. -/
def places (c : Command.Chosen) (missing : Errno) : Run (List (List Char × List Char)) := do
  let inDirectory (directory : List Char) (paths : List (List Char)) :=
    paths.map fun path => (path, joined directory (lastName path))
  match c.value? 't', c.operands.reverse with
  | some _, [] => misuse 1 "missing file operand".toList
  | some directory, reversed => pure (inDirectory directory reversed.reverse)
  | none, [] => misuse 1 "missing file operand".toList
  | none, [path] =>
    misuse 1 ("missing destination file operand after ".toList ++ quotedPath path)
  | none, target :: sources =>
    let isInto ← isDirectory target
    if isInto && !c.has 'T' then pure (inDirectory target sources.reverse)
    else
      match sources with
      | [path] => pure [(path, target)]
      | _ =>
        if c.has 'T' then
          misuse 1 ("extra operand ".toList ++ quotedPath target)
        else
          let reason := match ← entryAt .target target with
            | .ok _ => Errno.notDirectory
            | .error _ => missing
          complain ("target ".toList ++ quotedPath target ++ ": ".toList ++ reason.reason.toList)
          quit 1

/-- Runs a step for each path and its place. The status says whether all went well. -/
def forEach (pairs : List (List Char × List Char)) (step : List Char → List Char → Run Bool) :
    Run Nat := do
  let mut status := 0
  for (path, place) in pairs do
    if !(← step path place) then status := 1
  pure status

/-- How entries are copied. -/
structure CopyStyle where
  deep : Bool
  keepsMode : Bool
  keepsLinks : Bool
  spares : Bool
  isTold : Bool
  asLink : Option Bool
  force : Bool

/-- Copies the octets and the permission bits of a file. A new file gets the bits of the old one,
    less those of the mask. -/
def copyOctets (style : CopyStyle) (path target : List Char) : Run Bool := do
  let t ← Run.files
  let fails (doing : String) (about : List Char) (e : Errno) : Run Bool := do
    complainAbout doing about e.reason.toList
    pure false
  match t.readUpTo (Text.Octets.toString path) 0 with
  | .error e =>
    if e = .accessDenied then
      complain ("cannot open ".toList ++ quotedPath path ++ " for reading: ".toList ++
        e.reason.toList)
      pure false
    else fails "cannot stat" path e
  | .ok (content, mode) =>
    let mask := (← Run.session).mask
    let place (t : FileTree) := t.openForWriting (Text.Octets.toString target)
    let place := match place t with
      | .error .accessDenied =>
        if style.force then place (t.discard (Text.Octets.toString target)) else place t
      | found => found
    match place with
    | .error e =>
      let e := if e = .isDirectory then .notDirectory else e
      fails "cannot create regular file" target e
    | .ok (l, old) =>
      let new := match old with
        | none => if style.keepsMode then mode else mode &&& (0o777 - mask)
        | some (.file _ old) => if style.keepsMode then mode else FileTree.writtenMode old
        | some _ => mode
      match old with
      | some (.device _) =>
        if l.getLast? == some "full" && content.size != 0 then
          complain ("error writing ".toList ++ quotedPath target ++ ": ".toList ++
            Errno.noSpace.reason.toList)
          return false
      | _ => Run.setFiles (t.put l (.file content new))
      tell style.isTold [] path " -> ".toList target
      pure true

/-- Copies one entry. What stands at the place of something else is an obstacle. -/
def copyEntry (style : CopyStyle) (path target : List Char) (e : Entry) : Run Bool := do
  let t ← Run.files
  let there ← entryAt .target target
  let refuse (text : String) : Run Bool := do
    complain (text.toList ++ quotedPath target)
    pure false
  match e, there with
  | .directory _, .ok (.directory _) => pure true
  | .directory _, .ok _ =>
    complain ("cannot overwrite non-directory ".toList ++ quotedPath target ++
      " with directory ".toList ++ quotedPath path)
    pure false
  | .directory _, .error _ =>
    match t.makeDirectory (Text.Octets.toString target) with
    | .ok t =>
      Run.setFiles t
      tell style.isTold [] path " -> ".toList target
      pure true
    | .error fault => complainAbout "cannot create directory" target (reason fault); pure false
  | _, .ok (.directory _) =>
    complain ("cannot overwrite directory ".toList ++ quotedPath target ++
      " with non-directory".toList)
    pure false
  | e, there =>
    if style.spares && there.isOk then pure true
    else
      match style.asLink, e with
      | some symbolic, e =>
        match t.resolve .link (Text.Octets.toString target) with
        | .error _ => refuse "cannot create link "
        | .ok l =>
          if !t.mayChange l then return (← refuse "cannot create link ")
          Run.setFiles (t.put l (if symbolic then .link (Text.Octets.toString path) else e))
          pure true
      | none, .link text =>
        match t.resolve .link (Text.Octets.toString target) with
        | .error _ => refuse "cannot create symbolic link "
        | .ok l =>
          if !t.mayChange l then return (← refuse "cannot create symbolic link ")
          Run.setFiles (t.put l (.link text))
          tell style.isTold [] path " -> ".toList target
          pure true
      | none, _ => copyOctets style path target

/-- Copies a directory with all that is in it, each entry behind the directory that holds it. -/
def copyTree (style : CopyStyle) (path target : List Char) (l : Location) (e : Entry) : Run Bool := do
  let t ← Run.files
  if (← copyEntry style path target e) then
    let below := (contentsFirst t l).reverse
    let mut fine := true
    for (m, e) in below do
      let rest := m.drop l.length
      if !(← copyEntry style (pathBelow path rest) (pathBelow target rest) e) then fine := false
    pure fine
  else pure false

/-- Copies files, and directories with all that is in them where asked for. -/
def copy : Tool := fun args => do
  let c ← options ⟨"abdfHilLnPpRrsTuvx".toList, "tS".toList, [("recursive", 'r'), ("force", 'f'),
    ("verbose", 'v'), ("preserve", 'p'), ("archive", 'a'), ("no-clobber", 'n'),
    ("target-directory", 't'), ("no-target-directory", 'T'), ("symbolic-link", 's'), ("link", 'l'),
    ("update", 'u'), ("dereference", 'L'), ("no-dereference", 'P')], true⟩ 1 args
  let deep := c.has 'r' || c.has 'R' || c.has 'a'
  let follow := c.last? ['L', 'P', 'd', 'a', 'H']
  let style : CopyStyle :=
    { deep
      keepsMode := c.has 'p' || c.has 'a'
      keepsLinks := follow == some 'P' || follow == some 'd' || follow == some 'a' ||
        (deep && follow != some 'L' && follow != some 'H')
      spares := c.has 'n'
      isTold := c.has 'v'
      asLink := if c.has 's' then some true else if c.has 'l' then some false else none
      force := c.has 'f' }
  forEach (← places c .noEntry) fun path target => do
    let t ← Run.files
    let aim : FileTree.Aim := if style.keepsLinks then .link else .target
    match t.resolve aim (Text.Octets.toString path), ← entryAt aim path with
    | .error e, _ | _, .error e => complainAbout "cannot stat" path e.reason.toList; pure false
    | .ok l, .ok (.directory mode) =>
      if !deep then
        complain ("-r not specified; omitting directory ".toList ++ quotedPath path)
        pure false
      else
        match t.resolve .target (Text.Octets.toString target) with
        | .ok m =>
          if l.isPrefixOf m then
            complain ("cannot copy a directory, ".toList ++ quotedPath path ++
              ", into itself, ".toList ++ quotedPath target)
            pure false
          else copyTree style path target l (.directory mode)
        | .error _ => copyTree style path target l (.directory mode)
    | .ok _, .ok e =>
      if t.sameEntry (Text.Octets.toString path) (Text.Octets.toString target) && !style.spares then
        complainOfSame path target
        pure false
      else copyEntry style path target e

/-- Gives files, and directories with all that is in them, another name. -/
def move : Tool := fun args => do
  let c ← options ⟨"bfinTuv".toList, "tS".toList, [("force", 'f'), ("no-clobber", 'n'),
    ("verbose", 'v'), ("target-directory", 't'), ("no-target-directory", 'T')], true⟩ 1 args
  forEach (← places c .noEntry) fun path target => do
    let t ← Run.files
    let bare (path : List Char) : String := FileTree.withoutSlashes (Text.Octets.toString path)
    let fails (e : Errno) : Run Bool := do
      complain ("cannot move ".toList ++ quotedPath path ++ " to ".toList ++ quotedPath target ++
        ": ".toList ++ e.reason.toList)
      pure false
    match ← entryAt .link path, t.resolve .link (bare path), t.resolve .link (bare target) with
    | .error e, _, _ | _, .error e, _ => complainAbout "cannot stat" path e.reason.toList; pure false
    | _, _, .error e => fails e
    | .ok e, .ok old, .ok new =>
      let there := t.get? new
      if !e.isDirectory && there.isNone && target.getLast? == some '/' then fails .notDirectory
      else if c.has 'n' && there.isSome then pure true
      else if old = new && !e.isDirectory then
        complainOfSame path target
        pure false
      else if old.isPrefixOf new && e.isDirectory then
        complain ("cannot move ".toList ++ quotedPath path ++ " to a subdirectory of itself, ".toList ++
          quotedPath target)
        pure false
      else if e.isDirectory && there.isSome && !t.hasDirectory new then
        complain ("cannot overwrite non-directory ".toList ++ quotedPath target ++
          " with directory ".toList ++ quotedPath path)
        pure false
      else if !e.isDirectory && t.hasDirectory new then
        complain ("cannot overwrite directory ".toList ++ quotedPath target ++
          " with non-directory".toList)
        pure false
      else if t.hasDirectory new && t.names new != [] then
        complain ("cannot overwrite ".toList ++ quotedPath target ++ ": ".toList ++
          Errno.notEmpty.reason.toList)
        pure false
      else if !(t.mayChange old && t.mayChange new) then fails .accessDenied
      else
        let moved := (t.remove new).entries.map fun (l, e) =>
          if old.isPrefixOf l then (new ++ l.drop old.length, e) else (l, e)
        Run.setFiles { t with entries := moved }
        tell (c.has 'v') "renamed ".toList path " -> ".toList target
        pure true

/-- Makes links to paths. -/
def link : Tool := fun args => do
  let c ← options ⟨"bdfFiLnPrsTv".toList, "tS".toList, [("symbolic", 's'), ("force", 'f'),
    ("no-dereference", 'n'), ("verbose", 'v'), ("target-directory", 't'),
    ("no-target-directory", 'T'), ("relative", 'r')], true⟩ 1 args
  let symbolic := c.has 's'
  -- One operand is linked to in the directory at hand, and a link can be taken for what it is.
  let isLink (path : List Char) : Run Bool := do
    match ← entryAt .link path with
    | .ok (.link _) => pure true
    | _ => pure false
  let pairs ← match c.operands, c.value? 't' with
    | [path], none => pure [(path, joined ['.'] (lastName path))]
    | [path, target], none =>
      if c.has 'n' && (← isLink target) then pure [(path, target)] else places c .noEntry
    | _, _ => places c .noEntry
  forEach pairs fun path target => do
    let shown := if c.operands.length = 1 then target.drop 2 else target
    let t ← Run.files
    let refuse (e : Errno) : Run Bool := do
      let kind := if symbolic then "symbolic" else "hard"
      complainAbout ("failed to create " ++ kind ++ " link") shown e.reason.toList
      pure false
    let entry : Except Errno Entry ←
      if symbolic then pure (.ok (.link (Text.Octets.toString path))) else entryAt .link path
    match entry, t.resolve .link (Text.Octets.toString target) with
    | .error e, _ => complainAbout "failed to access" path e.reason.toList; pure false
    | .ok (.directory _), _ =>
      complain (plainPath path ++ ": hard link not allowed for directory".toList)
      pure false
    | .ok _, .error e => refuse e
    | .ok e, .ok l =>
      let done : Run Bool := do
        Run.setFiles (t.put l e)
        tell (c.has 'v') [] shown (if symbolic then " -> " else " => ").toList path
        pure true
      match t.get? l with
      | none => if t.mayChange l then done else refuse .accessDenied
      | some (.directory _) => refuse .alreadyExists
      | some _ =>
        if !c.has 'f' then refuse .alreadyExists
        else if !t.mayChange l then refuse .accessDenied
        else if t.sameEntry (Text.Octets.toString path) (Text.Octets.toString target) then
          complainOfSame path shown
          pure false
        else done

/-- Copies files to places, with permission bits that are given, or makes directories. -/
def place : Tool := fun args => do
  let c ← options ⟨"bcCdDpsTv".toList, "gmotS".toList, [("mode", 'm'), ("directory", 'd'),
    ("verbose", 'v'), ("target-directory", 't'), ("no-target-directory", 'T'), ("owner", 'o'),
    ("group", 'g'), ("preserve-timestamps", 'p'), ("compare", 'C'), ("strip", 's')], true⟩ 1 args
  let mode ← match c.value? 'm' with
    | none => pure 0o755
    | some word =>
      match Permission.changed? 0 false 0 word with
      | some mode => pure mode
      | none => complain ("invalid mode ".toList ++ quoted word); quit 1
  if c.has 'd' then
    if c.operands = [] then misuse 1 "missing file operand".toList
    let mut status := 0
    for path in c.operands do
      match ← entryAt .target path with
      | .ok (.directory _) => pure ()
      | .ok _ =>
        complain ("cannot create directory ".toList ++ quoted path ++ ": ".toList ++
          Errno.alreadyExists.reason.toList)
        status := 1
      | .error _ => if !(← makeDirectories (c.has 'v') path) then status := 1
    pure status
  else
    forEach (← places c .notDirectory) fun path target => do
      if c.has 'D' then
        let above := target.take (target.length - (lastName target).length)
        if above != [] then
          let _ ← makeDirectories false (above.reverse.dropWhile (· == '/')).reverse
      let t ← Run.files
      match t.readUpTo (Text.Octets.toString path) 0 with
      | .error .isDirectory =>
        complain ("omitting directory ".toList ++ quotedPath path)
        pure false
      | .error .accessDenied =>
        complain ("cannot open ".toList ++ quotedPath path ++ " for reading: ".toList ++
          Errno.accessDenied.reason.toList)
        pure false
      | .error e => complainAbout "cannot stat" path e.reason.toList; pure false
      | .ok (content, _) =>
        if t.sameEntry (Text.Octets.toString path) (Text.Octets.toString target) then
          complainOfSame path target
          pure false
        else
          match (t.discard (Text.Octets.toString target)).openForWriting
            (Text.Octets.toString target) with
          | .error e =>
            complainAbout "cannot create regular file" target e.reason.toList
            pure false
          | .ok (l, _) =>
            Run.setFiles (t.put l (.file content mode))
            tell (c.has 'v') [] path " -> ".toList target
            pure true

/-- Permission bits as letters. -/
def modeLetters (mode : Nat) : List Char :=
  let part (shift bit : Nat) (set clear : Char) : List Char :=
    let n := mode >>> shift
    [if n &&& 4 != 0 then 'r' else '-', if n &&& 2 != 0 then 'w' else '-',
      if mode &&& bit != 0 then if n &&& 1 != 0 then set else clear
      else if n &&& 1 != 0 then 'x' else '-']
  part 6 0o4000 's' 'S' ++ part 3 0o2000 's' 'S' ++ part 0 0o1000 't' 'T'

/-- The first argument that changes permission bits: a dash with letters for rights is one as well. -/
def isModeWord (word : List Char) : Bool :=
  match word with
  | '-' :: c :: cs => (c :: cs).all fun c => "rwxXstugoa+-=,".toList.contains c
  | _ => false

/-- The permission bits of a file or a directory, and the entry with others. -/
def modeAndChange? : Entry → Option (Nat × (Nat → Entry))
  | .directory mode => some (mode, .directory)
  | .file content mode => some (mode, .file content)
  | .link _ | .device _ => none

/-- Changes permission bits. -/
def changeMode : Tool := fun args => do
  let isGiven (word : List Char) : Bool := isModeWord word
  let early := (args.takeWhile (· != ['-', '-'])).find? isGiven
  let c ← options ⟨"Rcfv".toList, "e".toList, [("recursive", 'R'), ("verbose", 'v'),
    ("changes", 'c'), ("quiet", 'f'), ("silent", 'f'), ("reference", 'e')], true⟩ 1
    (match early with
      | some word => args.erase word
      | none => args)
  let (word, paths) ← match early, c.value? 'e', c.operands with
    | some word, _, [] => misuse 1 ("missing operand after ".toList ++ quoted word)
    | some word, _, paths => pure (word, paths)
    | none, some path, paths =>
      let mode := match ← entryAt .target path with
        | .ok (.file _ mode) | .ok (.directory mode) => mode
        | _ => 0o755
      pure (Nat.toDigits 8 mode, paths)
    | none, none, [] => misuse 1 "missing operand".toList
    | none, none, [word] => misuse 1 ("missing operand after ".toList ++ quoted word)
    | none, none, word :: paths => pure (word, paths)
  if word = [] || (Permission.changed? 0 false 0 word).isNone then
    misuse 1 ("invalid mode: ".toList ++ quoted word)
  let mask := (← Run.session).mask
  let mut status := 0
  for path in paths do
    let t ← Run.files
    match t.resolve .target (Text.Octets.toString path), ← entryAt .target path with
    | .error e, _ | _, .error e =>
      if !c.has 'f' then
        if (← entryAt .link path).isOk then
          complain ("cannot operate on dangling symlink ".toList ++ quotedPath path)
        else complainAbout "cannot access" path e.reason.toList
      status := 1
    | .ok l, .ok e =>
      let below := if c.has 'R' && e.isDirectory then (contentsFirst t l).reverse else []
      for (m, e) in (l, e) :: below do
        if let some (mode, withMode) := modeAndChange? e then
          let new := (Permission.changed? mask e.isDirectory mode word).getD mode
          let shown (n : Nat) : List Char :=
            Shell.Builtin.octalText n ++ " (".toList ++ modeLetters n ++ [')']
          let name := quotedPath (pathBelow path (m.drop l.length))
          Run.setFiles ((← Run.files).put m (withMode new))
          if new != mode && (c.has 'v' || c.has 'c') then
            Run.emit 1 ("mode of ".toList ++ name ++ " changed from ".toList ++ shown mode ++
              " to ".toList ++ shown new ++ ['\n'])
          else if c.has 'v' then
            Run.emit 1 ("mode of ".toList ++ name ++ " retained as ".toList ++ shown mode ++ ['\n'])
  pure status

end NativeExtension.Utility

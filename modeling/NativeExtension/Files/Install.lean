import NativeExtension.Files.Access

/-!
Copying files. `install` copies under a staging name beside the destination and then renames, so
that the destination never holds a part of the file; when a step fails the staging file is taken
away.
-/
namespace NativeExtension.FileTree

/-- Whether two paths lead to one entry. -/
def sameEntry (t : FileTree) (a b : String) : Bool :=
  match t.find a, t.find b with
  | .ok (l, _), .ok (m, _) => l = m
  | _, _ => false

/-- What is reported where a file cannot be opened that others are copied to. A name that only a
    directory could have is missing where there is none. -/
def copyFault (t : FileTree) (destination : String) (e : Errno) : Fault :=
  match t.find destination with
  | .error _ =>
    if e = .isDirectory then .system (.noDirectory destination)
    else .system (.about e destination)
  | .ok _ => .system (.about e destination)

/-- Copies the octets of a file. -/
def copyFile (t : FileTree) (source : Path) (destination : String) : Except Fault FileTree := do
  checkNul source.toString
  checkNul destination
  if t.sameEntry source.toString destination then
    throw (.system (.sameFile source (.ofString destination)))
  let (content, _) ← t.readFile source.toString
  match t.openForWriting destination with
  | .ok (l, old) => pure (t.putContent l content old)
  | .error e => throw (t.copyFault destination e)

/-- Copies the permission bits of a file. -/
def copyMode (t : FileTree) (source : Path) (destination : String) : Except Fault FileTree := do
  let (_, old) ← faultAbout source.toString (t.find source.toString)
  let (l, new) ← faultAbout destination (t.find destination)
  match old, new with
  | .file _ mode, .file content _ => pure (t.put l (.file content mode))
  | .device _, .file content _ => pure (t.put l (.file content deviceMode))
  | _, _ => pure t

/-- Whether a path ends in a name that an entry can be given. -/
def endsInName (path : String) : Bool :=
  match (pathNames path).getLast? with
  | none => false
  | some name => name != "." && name != ".."

/-- Gives a file another name. A file or a link that has the name is replaced, a directory is not.
    -/
def rename (t : FileTree) (source destination : String) : Except Errno FileTree := do
  let old ← t.resolve .link source
  let new ← t.resolve .link destination
  if !endsInName destination then throw .busy
  match t.get? old with
  | none => throw .noEntry
  | some e =>
    if !(t.mayChange old && t.mayChange new) then throw .accessDenied
    if t.hasDirectory new then throw .isDirectory
    pure ((t.remove old).put new e)

/-- Takes a file or a link away if it is there. -/
def discard (t : FileTree) (path : String) : FileTree :=
  match t.resolve .link path with
  | .ok l => if t.hasDirectory l || !t.mayChange l then t else t.remove l
  | .error _ => t

/-- How many staging names are tried. -/
def stagingAttempts : Nat := 10000

/-- The path of the `n`-th staging file for a destination: hidden beside it, in the directory that its
    parent names once each `..` has taken away the name before it. -/
def stagingPath (t : FileTree) (destination : Path) (n : Nat) : Path :=
  let here : Path := ⟨.root, t.current⟩
  let directory := (here.join destination.parent).collapse
  let name := "." ++ destination.name ++ "." ++ (t.draws destination n).text
  { directory with parts := directory.parts ++ [name] }

/-- Makes a staging file under the first name, from the `n`-th on, that is free. -/
def makeStaging (t : FileTree) (destination : Path) :
    (attempts n : Nat) → Except Fault (String × FileTree)
  | 0, _ => .error (.system (.numbered 17 "No usable temporary file name found" none none))
  | attempts + 1, n =>
    let staging := (t.stagingPath destination n).toString
    match t.createExclusive staging with
    | .ok t => .ok (staging, t)
    | .error fault =>
      if fault = .system (.about .alreadyExists staging) then
        t.makeStaging destination attempts (n + 1)
      else .error fault

/-- Copies a file and its permission bits to a staging file, which then takes the destination's
    name. -/
def fillAndRename (t : FileTree) (source : Path) (staging : String) (destination : Path) :
    Except Fault Unit × FileTree :=
  match t.copyFile source staging with
  | .error fault => (.error fault, t)
  | .ok t =>
    match t.copyMode source staging with
    | .error fault => (.error fault, t)
    | .ok t =>
      match t.rename staging destination.toString with
      | .error e => (.error (.system (.between e staging destination.toString)), t)
      | .ok t => (.ok (), t)

/-- Copies a file with its permission bits to a destination, all or nothing. -/
def install (t : FileTree) (source destination : Path) : Except Fault Unit × FileTree :=
  if t.isAdrift destination then (.error (.system .noCurrent), t)
  else
    match t.makeStaging destination stagingAttempts 0 with
    | .error fault => (.error fault, t)
    | .ok (staging, t) =>
      match t.fillAndRename source staging destination with
      | (.error fault, t) => (.error fault, t.discard staging)
      | done => done

end NativeExtension.FileTree

import NativeExtension.Fault
import NativeExtension.Files.Resolve
import NativeExtension.Text.Lines

/-!
Reading and changing a file system by path. Each operation answers, or fails with a fault and
changes nothing; only creating a directory with its parents can fail after it made some of them.
-/
namespace NativeExtension.FileTree

/-- Refuses a path that holds a NUL. -/
def checkNul (path : String) : Except Fault Unit :=
  if path.toList.contains '\x00' then .error .embeddedNul else .ok ()

/-- An error about a path as a fault. -/
def faultAbout {α : Type} (path : String) : Except Errno α → Except Fault α
  | .ok a => .ok a
  | .error e => .error (.system (.about e path))

/-- What a path names, links followed; nothing where there is no such entry or the way to it is
    broken. Other errors are faults. -/
def status? (t : FileTree) (path : Path) : Except Fault (Option Entry) :=
  let text := path.toString
  if text.toList.contains '\x00' then .ok none
  else
    match t.find text with
    | .ok (_, e) => .ok (some e)
    | .error .noEntry | .error .notDirectory | .error .linkLoop => .ok none
    | .error e => .error (.system (.about e text))

/-- Whether a path names a directory. -/
def isDirectory (t : FileTree) (path : Path) : Except Fault Bool := do
  match ← t.status? path with
  | some (.directory _) => pure true
  | _ => pure false

/-- Whether a path names a regular file. -/
def isFile (t : FileTree) (path : Path) : Except Fault Bool := do
  match ← t.status? path with
  | some (.file ..) => pure true
  | _ => pure false

/-- The permission bits of a device. -/
def deviceMode : Nat := 0o666

/-- The permission bits of files that are made for writing. -/
def newFileMode : Nat := 0o644

/-- The permission bits of a file that has been written: whom it is executed as is forgotten. -/
def writtenMode (mode : Nat) : Nat :=
  let kept := if mode &&& 0o10 != 0 then 0o1777 else 0o3777
  mode &&& kept

/-- The octets that can be read at a path and the permission bits. An endless device gives as many
    octets as are asked for, any other as many as it has. -/
def readUpTo (t : FileTree) (path : String) (endless : Nat) : Except Errno (ByteArray × Nat) := do
  match ← t.find path with
  | (_, .file content mode) => if mayRead mode then pure (content, mode) else throw .accessDenied
  | (_, .device isEndless) =>
    let count := if isEndless then endless else 0
    pure (⟨(List.replicate count 0).toArray⟩, deviceMode)
  | (_, .directory mode) => throw (if mayRead mode then .isDirectory else .accessDenied)
  | (_, .link _) => throw .linkLoop

/-- Whether a path leads to a device that can be read without end. -/
def readsEndlessly (t : FileTree) (path : String) : Bool :=
  match t.find path with
  | .ok (_, .device endless) => endless
  | _ => false

/-- The octets and the permission bits of a file. No program comes to the end of an endless device. -/
def readFile (t : FileTree) (path : String) : Except Fault (ByteArray × Nat) := do
  checkNul path
  if t.readsEndlessly path then throw (.tooLarge .reading)
  faultAbout path (t.readUpTo path 0)

/-- Where a file is that is opened for writing, and what stands there. -/
def openForWriting (t : FileTree) (path : String) : Except Errno (Location × Option Entry) := do
  let l ← t.resolve .newFile path
  match t.get? l with
  | some (.file content mode) =>
    if mayWrite mode then pure (l, some (.file content mode)) else throw .accessDenied
  | some (.device endless) => pure (l, some (.device endless))
  | some _ => throw .isDirectory
  | none => if t.mayChange l then pure (l, none) else throw .accessDenied

/-- Puts octets into a file that was opened, in place of what it held before. A device keeps none. -/
def putContent (t : FileTree) (l : Location) (content : ByteArray) : Option Entry → FileTree
  | some (.file _ mode) => t.put l (.file content (writtenMode mode))
  | some (.device _) => t
  | _ => t.put l (.file content newFileMode)

/-- Writes a file, in place of what it held before. -/
def writeFile (t : FileTree) (path : String) (content : ByteArray) : Except Fault FileTree := do
  checkNul path
  let (l, old) ← faultAbout path (t.openForWriting path)
  pure (t.putContent l content old)

/-- The text of a file, every line end a line feed. -/
def readText (t : FileTree) (path : Path) : Except Fault String := do
  let (content, _) ← t.readFile path.toString
  match Text.Utf8.decode content with
  | .ok text => pure (String.ofList (Text.unifyNewlines text.toList))
  | .error e => throw (.undecodable e)

/-- Makes a file that must not exist yet, with nothing in it, for its owner alone. -/
def createExclusive (t : FileTree) (path : String) : Except Fault FileTree := do
  checkNul path
  let l ← faultAbout path (t.resolve .link path)
  match t.get? l with
  | none =>
    if t.mayChange l then pure (t.put l (.file .empty 0o600))
    else throw (.system (.about .accessDenied path))
  | some _ => throw (.system (.about .alreadyExists path))

/-- A path without the slashes behind its last name. -/
def withoutSlashes (path : String) : String :=
  match (path.toList.reverse.dropWhile (· == '/')).reverse with
  | [] => path
  | cs => String.ofList cs

/-- Makes one directory. -/
def makeDirectory (t : FileTree) (path : String) : Except Fault FileTree := do
  checkNul path
  let l ← faultAbout path (t.resolve .link (withoutSlashes path))
  match t.get? l with
  | none =>
    if t.mayChange l then pure (t.put l (.directory newDirectoryMode))
    else throw (.system (.about .accessDenied path))
  | some _ => throw (.system (.about .alreadyExists path))

/-- Whether a fault says that an entry is missing. -/
def isMissing : Fault → Bool
  | .system (.numbered 2 _ _ _) => true
  | _ => false

/-- Nothing for a path that is a directory, and otherwise the fault of making it. -/
def unlessDirectory (t : FileTree) (path : Path) (fault : Fault) : Except Fault Unit :=
  match fault with
  | .system _ => do
    if ← t.isDirectory path then pure () else throw fault
  | fault => .error fault

/-- Makes a directory whose parents were just made. -/
def makeLast (t : FileTree) (path : Path) : Except Fault Unit × FileTree :=
  match t.makeDirectory path.toString with
  | .ok t => (.ok (), t)
  | .error fault => if isMissing fault then (.error fault, t) else (t.unlessDirectory path fault, t)

/-- Makes a directory and, where they are missing, those above it. A directory that is there is left
    as it is. Every level is a call in the one before it, and so many calls may be nested. -/
def makeDirectories (t : FileTree) (path : Path) : (calls : Nat) → Except Fault Unit × FileTree
  | 0 => (.error (.tooLarge .nesting), t)
  | calls + 1 =>
    match t.makeDirectory path.toString with
    | .ok t => (.ok (), t)
    | .error fault =>
      if isMissing fault then
        if path.parts = [] then (.error fault, t)
        else
          match t.makeDirectories path.parent calls with
          | (.ok (), t) => t.makeLast path
          | failed => failed
      else (t.unlessDirectory path fault, t)

/-- Makes a directory and those above it. -/
def ensureDirectory (t : FileTree) (path : Path) : Except Fault Unit × FileTree :=
  t.makeDirectories path callLimit

/-- The names in a directory. -/
def list (t : FileTree) (path : Path) : Except Fault (List String) := do
  let text := path.toString
  checkNul text
  let (l, e) ← faultAbout text (t.find text)
  match e with
  | .directory mode =>
    if mayRead mode then pure (t.names l) else throw (.system (.about .accessDenied text))
  | _ => throw (.system (.about .notDirectory text))

end NativeExtension.FileTree

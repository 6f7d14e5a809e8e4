import NativeExtension.Files.Access
import NativeExtension.Text.Octets

/-!
Starting programs: from a path to the program that runs and the arguments that it sees. A file that
may be executed holds a program, or starts with a line that names the program to read it.
-/
namespace NativeExtension

/-- The programs that a host has. -/
inductive Program where
  | basename
  | cat
  | chmod
  | cmp
  | cp
  | cut
  | dirname
  | echo
  | env
  | expr
  | failure
  | find
  | fold
  | grep
  | head
  | install
  | ln
  | ls
  | mkdir
  | mktemp
  | mv
  | nice
  | nl
  | nohup
  | od
  | paste
  | printenv
  | printf
  | pwd
  | readlink
  | realpath
  | rev
  | rm
  | rmdir
  | sed
  | seq
  | setsid
  | shell
  | sleep
  | sort
  | stat
  | success
  | tac
  | tail
  | tee
  | test
  | timeout
  | touch
  | tr
  | uname
  | uniq
  | wc
  | which
  | xargs
  | yes
  deriving DecidableEq, Repr

/-- A program that is about to run: the arguments that it sees, from its own name on, as octets. -/
structure Image where
  program : Program
  args : List (List Char)
  deriving DecidableEq, Repr

namespace Program

/-- The programs and their names. -/
def names : List (String × Program) :=
  [("[", test), ("basename", basename), ("bash", shell), ("cat", cat), ("chmod", chmod),
    ("cmp", cmp), ("cp", cp), ("cut", cut), ("dash", shell), ("dirname", dirname),
    ("echo", echo), ("egrep", grep), ("env", env), ("expr", expr), ("false", failure),
    ("fgrep", grep), ("find", find), ("fold", fold), ("grep", grep), ("head", head),
    ("install", install), ("ln", ln), ("ls", ls), ("mkdir", mkdir), ("mktemp", mktemp),
    ("mv", mv), ("nice", nice), ("nl", nl), ("nohup", nohup), ("od", od), ("paste", paste),
    ("printenv", printenv), ("printf", printf), ("pwd", pwd), ("readlink", readlink),
    ("realpath", realpath), ("rev", rev), ("rm", rm), ("rmdir", rmdir), ("sed", sed),
    ("seq", seq), ("setsid", setsid), ("sh", shell), ("sleep", sleep), ("sort", sort),
    ("stat", stat), ("tac", tac), ("tail", tail), ("tee", tee), ("test", test),
    ("timeout", timeout), ("touch", touch), ("tr", tr), ("true", success), ("uname", uname),
    ("uniq", uniq), ("wc", wc), ("which", which), ("xargs", xargs), ("yes", yes)]

/-- The octets that a file with a program starts with. -/
def magic : List Char := ['\x7f', 'E', 'L', 'F']

/-- What the file of a program holds. -/
def content (name : String) : ByteArray :=
  Text.Octets.toBytes (magic ++ Text.Octets.ofString name)

/-- The program that a file holds. -/
def ofContent? (octets : ByteArray) : Option Program :=
  let cs := Text.Octets.ofBytes octets
  if magic.isPrefixOf cs then names.lookup (Text.Octets.toString (cs.drop magic.length)) else none

/-- The directories in which programs without a slash in their names are looked for. -/
def searchPath : List String :=
  ["/usr/local/sbin", "/usr/local/bin", "/usr/sbin", "/usr/bin", "/sbin", "/bin"]

/-- How many octets of a file are looked at for the program that is to read it. -/
def lineLimit : Nat := 256

/-- How many times a program may be named by another one. -/
def depthLimit : Nat := 5

/-- The program that is to read a file, and its one argument, as the first line of the file gives
    them. -/
def interpreter? (octets : ByteArray) : Option (List Char × Option (List Char)) :=
  let isBlank (c : Char) : Bool := c == ' ' || c == '\t'
  match Text.Octets.ofBytes (octets.extract 0 lineLimit) with
  | '#' :: '!' :: cs =>
    let line := (cs.takeWhile (· != '\n')).dropWhile isBlank
    let line := (line.reverse.dropWhile isBlank).reverse
    let name := line.takeWhile (!isBlank ·)
    let argument := (line.drop name.length).dropWhile isBlank
    if name = [] then none else some (name, if argument = [] then none else some argument)
  | _ => none

/-- What runs when a file is started with the given arguments, the name that it was called by first.
    -/
def load (t : FileTree) : (depth : Nat) → (path : List Char) → (args : List (List Char)) →
    Except Errno Image
  | depth, path, args => do
    let (_, e) ← t.find (Text.Octets.toString path)
    match e with
    | .file content mode =>
      if !FileTree.mayExecute mode then throw .accessDenied
      match ofContent? content, interpreter? content with
      | some program, _ => pure ⟨program, args⟩
      | none, none => throw .notExecutable
      | none, some (name, argument) =>
        match depth with
        | 0 => throw .linkLoop
        | depth + 1 => load t depth name (name :: argument.toList ++ path :: args.tail)
    | _ => throw .accessDenied

/-- The paths at which a program is looked for. -/
def candidates (directories : List (List Char)) (name : List Char) : List (List Char) :=
  if name.contains '/' then [name]
  else directories.map fun d => if d = [] then name else d ++ '/' :: name

/-- Whether a search goes on after an error. -/
def isAbsence (e : Errno) : Bool := e = .noEntry || e = .notDirectory

/-- What runs when a program is looked for at several paths: the first that can be, or else the
    first error that is more than an absence, or else the last one. -/
def search (t : FileTree) (args : List (List Char)) :
    Option Errno → Errno → List (List Char) → Except Errno Image
  | kept, last, [] => .error (kept.getD last)
  | kept, _, path :: paths =>
    match load t depthLimit path args with
    | .ok image => .ok image
    | .error e => search t args (if isAbsence e then kept else kept <|> some e) e paths

/-- What runs when a command is started. -/
def start (t : FileTree) (args : List String) : Except Errno Image :=
  let args := args.map Text.Octets.ofString
  search t args none .noEntry (candidates (searchPath.map Text.Octets.ofString) (args.headD []))

/-- A host with nothing but its programs, the usual directories and a file of its users. -/
def baseTree : FileTree :=
  let directories : List Location :=
    [["dev"], ["etc"], ["home"], ["opt"], ["proc"], ["root"], ["run"], ["srv"], ["sys"], ["tmp"],
      ["usr"], ["usr", "bin"], ["usr", "include"], ["usr", "lib"], ["usr", "local"],
      ["usr", "local", "bin"], ["usr", "local", "lib"], ["usr", "local", "sbin"], ["usr", "sbin"],
      ["usr", "share"], ["var"]]
  let entries := directories.map (·, .directory FileTree.newDirectoryMode) ++
    [(["bin"], .link "usr/bin"), (["lib"], .link "usr/lib"), (["sbin"], .link "usr/sbin"),
      (["dev", "full"], .device false), (["dev", "null"], .device false),
      (["dev", "random"], .device true), (["dev", "stderr"], .device false),
      (["dev", "stdin"], .device false), (["dev", "stdout"], .device false),
      (["dev", "urandom"], .device true), (["dev", "zero"], .device true),
      (["etc", "passwd"], .file "root:x:0:0:root:/root:/bin/bash\n".toUTF8 0o644)] ++
    names.map fun (name, _) => (["usr", "bin", name], .file (content name) 0o755)
  { entries, current := [] }

end Program

end NativeExtension

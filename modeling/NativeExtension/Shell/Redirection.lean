import NativeExtension.Shell.Expansion

/-!
Redirections: leading descriptors to files, to each other and to texts.
-/
namespace NativeExtension.Shell.Run

/-- The reason in a message about a path that cannot be opened. -/
def openingReason (e : Errno) (missing : String) : String :=
  if Program.isAbsence e then missing else e.reason

/-- The descriptor that a path names, if it names one. -/
def namedDescriptor? (path : List Char) : Option Nat :=
  match String.ofList path with
  | "/dev/stdin" => some 0
  | "/dev/stdout" => some 1
  | "/dev/stderr" => some 2
  | _ =>
    let starts := ["/dev/fd/".toList, "/proc/self/fd/".toList]
    (starts.find? (·.isPrefixOf path)).bind fun start => natural? (path.drop start.length)

/-- The permission bits of a file that the script makes. -/
def newMode : Run Nat := return 0o666 - (0o666 &&& (← session).mask)

/-- What leads to a device. -/
def deviceEndpoint (l : Location) (endless : Bool) : Endpoint :=
  if l.getLast? == some "full" then .full else if endless then .endless else .nowhere

/-- Where a path leads that is opened for writing. -/
def openForWriting (direction : Direction) (path : List Char) : Run (Except Errno Endpoint) := do
  if let some n := namedDescriptor? path then
    return match ← endpoint n with
      | some p => .ok p
      | none => .error .noEntry
  let t ← files
  let text := Text.Octets.toString path
  let clobbers := !((← hasOption 'C') && direction = .write)
  let leadTo (l : Location) : Run (Except Errno Endpoint) := do
    return .ok (← openFile ⟨l, none, 0, direction = .readWrite, true, direction = .append⟩)
  match t.openForWriting text with
  | .error e => pure (.error e)
  | .ok (l, none) =>
    setFiles (t.put l (.file .empty (← newMode)))
    leadTo l
  | .ok (l, some (.device endless)) => pure (.ok (deviceEndpoint l endless))
  | .ok (l, some (.file content mode)) =>
    if !clobbers then pure (.error .alreadyExists)
    else
      if direction = .write || direction = .writeAnyway then
        if content.size != 0 then setFiles (t.put l (.file .empty (FileTree.writtenMode mode)))
      leadTo l
  | .ok _ => pure (.error .isDirectory)

/-- What a path leads to that is opened for reading. -/
def openForReading (path : List Char) : Run (Except Errno Endpoint) := do
  if let some n := namedDescriptor? path then
    return match ← endpoint n with
      | some p => .ok p
      | none => .error .noEntry
  let t ← files
  let text := Text.Octets.toString path
  match t.find text with
  | .ok (l, .device endless) => pure (.ok (deviceEndpoint l endless))
  | .ok (_, .directory _) => pure (.ok .directory)
  | .error e => pure (.error e)
  | .ok (l, _) =>
    match t.readUpTo text 0 with
    | .ok _ => return .ok (← openFile ⟨l, none, 0, true, false, false⟩)
    | .error e => pure (.error e)

/-- The descriptor that a text names behind an ampersand; nothing where it is to be closed. -/
def duplicated (cs : List Char) : Run (Option Nat) := do
  match cs with
  | ['-'] => pure none
  | [c] => if c.isDigit then pure (some (digitValue c)) else die 2 "Syntax error: Bad fd number".toList
  | _ => die 2 "Syntax error: Bad fd number".toList

/-- Leads a descriptor where a redirection with the given text says, or complains. -/
def redirect (descriptor : Nat) (direction : Direction) (cs : List Char) : Run Bool := do
  let lead (result : Except Errno Endpoint) (doing missing : String) : Run Bool := do
    match result with
    | .ok p => setEndpoint descriptor (some p); pure true
    | .error e =>
      complain (doing.toList ++ [' '] ++ cs ++ ": ".toList ++ (openingReason e missing).toList)
      pure false
  match direction with
  | .document => setEndpoint descriptor (some (← newChannel cs)); pure true
  | .duplicate =>
    match ← duplicated cs with
    | none => setEndpoint descriptor none; pure true
    | some n =>
      match ← endpoint n with
      | some p => setEndpoint descriptor (some p); pure true
      | none =>
        complain (cs ++ ": ".toList ++ Errno.badDescriptor.reason.toList)
        pure false
  | .read => lead (← openForReading cs) "cannot open" "No such file"
  | .write | .writeAnyway | .append | .readWrite =>
    lead (← openForWriting direction cs) "cannot create" "Directory nonexistent"

/-- The texts of redirections. -/
def redirectionTexts (capture : Capture) (depth : Nat) (redirections : List Redirection) :
    Run (List (Nat × Direction × List Char)) :=
  redirections.mapM fun
    | .mk descriptor direction target => do
      let cs ← if direction = .document then documentText capture depth target
        else wordText capture depth target
      pure (descriptor, direction, cs)

/-- Leads descriptors where redirections say, up to the first that cannot be opened. -/
def redirectAll : List (Nat × Direction × List Char) → Run Bool
  | [] => pure true
  | (descriptor, direction, cs) :: rest => do
    if ← redirect descriptor direction cs then redirectAll rest else pure false

end NativeExtension.Shell.Run

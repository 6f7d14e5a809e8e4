import NativeExtension.Files.Access
import NativeExtension.Number.Seconds
import NativeExtension.Program.Image
import NativeExtension.Shell.Signal
import NativeExtension.Shell.Statement

/-!
The state of running programs: files, channels that hold what was written until it is read, the time
spent, and what the script that runs knows. A step changes the state and may halt. The files are those
of a build, since what its tools leave is what it goes on with.
-/
namespace NativeExtension.Shell

/-- Where a descriptor leads: to a channel, to a file that was opened, to a directory, nowhere, to
    zeros without end, or to a device that is full. -/
inductive Endpoint where
  | channel (index : Nat)
  | file (index : Nat)
  | directory
  | nowhere
  | endless
  | full
  deriving DecidableEq, Repr

/-- What was written and has not been read. A limited channel takes no more once it holds much, for
    its reader may have gone. -/
structure Channel where
  octets : ByteArray
  limited : Bool

/-- A file that was opened: where it stands, or what it holds if it stands nowhere any more, the place
    at which it is read and written next, and what may be done with it. -/
structure Opening where
  location : Location
  orphan : Option ByteArray
  offset : Nat
  reads : Bool
  writes : Bool
  /-- All is written at the end. -/
  appends : Bool

namespace Opening

/-- What the file holds. -/
def content (t : FileTree) (o : Opening) : ByteArray :=
  match o.orphan, t.get? o.location with
  | some octets, _ => octets
  | none, some (.file octets _) => octets
  | none, _ => .empty

/-- The open file after the files have changed. One that was taken away keeps what it held, one that
    was moved stands where it was moved to, and another file put in its place is another file. -/
def follow (old new : FileTree) (o : Opening) : Opening :=
  match o.orphan, old.get? o.location with
  | none, some (.file was mode) =>
    match new.get? o.location with
    | some (.file now _) =>
      let wasMoved := now != was && old.entries.any fun (l, e) =>
        (match e with
          | .file other _ => other == now
          | _ => false) && (new.get? l).isNone
      if wasMoved then { o with orphan := some was } else o
    | _ =>
      match new.entries.find? fun (l, e) => e == .file was mode && (old.get? l).isNone with
      | some (l, _) => { o with location := l }
      | none => { o with orphan := some was }
  | _, _ => o

/-- Octets with others put over them from a place on. -/
def overwritten (content : ByteArray) (place : Nat) (octets : ByteArray) : ByteArray :=
  let gap := ByteArray.mk (Array.replicate (place - content.size) 0)
  content.extract 0 place ++ gap ++ octets ++ content.extract (place + octets.size) content.size

end Opening

/-- What is known of a variable: its value, whether programs get it, and whether it is kept from
    changes. -/
structure Binding where
  value : Option (List Char)
  exported : Bool
  isReadOnly : Bool
  deriving DecidableEq, Repr

/-- What a running script knows. -/
structure Session where
  name : List Char
  arguments : List (List Char)
  bindings : List (List Char × Binding)
  functions : List (List Char × Statement)
  aliases : List (List Char × List Char)
  endpoints : List (Nat × Endpoint)
  /-- The status of the last statement. -/
  status : Nat
  /-- The status of the last statement whose output was taken into the words that are being read. -/
  taken : Nat
  line : Nat
  /-- The built-in command that runs. -/
  command : Option (List Char)
  /-- Why something could not be written that should have been. -/
  lost : Option Errno
  /-- The number of the program that reads the script. -/
  number : Nat
  /-- The number of the program itself: a part that runs apart is one of its own. -/
  process : Nat
  /-- The number of the program that started this one. -/
  parent : Nat
  /-- The number of the last program that is not waited for. -/
  latest : Option Nat
  /-- How many loops the statement stands in. -/
  loops : Nat
  /-- How many functions the statement stands in. -/
  calls : Nat
  /-- The letters of the options that are set. -/
  options : List Char
  /-- What is run on a signal. Nothing stands for a signal that is ignored. -/
  traps : List (Nat × List Char)
  /-- What variables held before the function that runs made them its own. -/
  saved : List (List Char × Option Binding)
  /-- The options that were set before the function that runs made them its own, if it did. -/
  savedOptions : Option (List Char)
  /-- The next argument that is looked at for options, counted from one, and the place in the one
      before it if that has letters left. -/
  optionPlace : Nat × Option Nat
  /-- The permission bits that new files are not given. -/
  mask : Nat
  /-- The directory as it was gone to. -/
  directory : List Char
  /-- Where programs were found that were looked for by name, and whether they have to be looked for
      again. -/
  places : List (List Char × List Char × Bool)

/-- A statement that was started and is not waited for: its number, the program that started it, the
    time of its start, what it knows, and how it ended. -/
structure Job where
  number : Nat
  owner : Nat
  start : Nat
  session : Session
  location : Location
  body : Statement
  outcome : Option Nat
  /-- Whether a signal ended it. -/
  killed : Option Nat

/-- What running programs share. Time is in millionths of a second: what was spent, the limit for all,
    and the time at which the program that runs is ended. `started` counts programs. -/
structure Host where
  files : FileTree
  channels : Array Channel
  openings : Array Opening
  spent : Nat
  limit : Option Seconds
  alarm : Option Nat
  started : Nat
  /-- The programs that run. -/
  alive : List Nat
  /-- The signals that programs have not yet been given. -/
  pending : List (Nat × Nat)
  jobs : List Job

/-- The state of running programs. -/
structure Machine where
  host : Host
  session : Session

/-- Why a statement ends what it stands in. A failure is the end of a script because of a mistake,
    which some commands can be told to survive. -/
inductive Halt where
  | exited (status : Nat)
  | failed (status : Nat)
  | ended (status : Nat)
  | killed (signal : Nat)
  | returned (status : Nat)
  | broken (levels : Nat)
  | continued (levels : Nat)
  | expired
  deriving DecidableEq, Repr

/-- How a program ended. -/
inductive Exit where
  | status (n : Nat)
  | signal (n : Nat)
  deriving DecidableEq, Repr

/-- The status that stands for how a program ended. -/
def Exit.toStatus : Exit → Nat
  | .status n => n
  | .signal n => 128 + n

/-- A step of running programs. -/
abbrev Run := ExceptT Halt (StateM Machine)

namespace Run

/-- What the running script knows. -/
def session : Run Session := return (← get).session

/-- Changes what the running script knows. -/
def update (f : Session → Session) : Run Unit :=
  modify fun m => { m with session := f m.session }

/-- What running programs share. -/
def host : Run Host := return (← get).host

/-- Changes what running programs share. -/
def updateHost (f : Host → Host) : Run Unit :=
  modify fun m => { m with host := f m.host }

/-- The files. -/
def files : Run FileTree := return (← host).files

/-- Changes the files. -/
def setFiles (files : FileTree) : Run Unit :=
  updateHost fun h => { h with files, openings := h.openings.map (Opening.follow h.files files) }

/-- The result of a step as a value, whether or not it halts. -/
def caught {α : Type} (step : Run α) : Run (Except Halt α) := ExceptT.mk do
  return .ok (← step.run)

/-- A value, or a halt that was caught before. -/
def resume {α : Type} (result : Except Halt α) : Run α := ExceptT.mk (pure result)

/-- Halts when a limit is reached. -/
def checkTime : Run Unit := do
  let h ← host
  if h.alarm.any (· ≤ h.spent) then throw .expired
  match h.limit with
  | some limit => if limit.withinMicros h.spent then throw .expired
  | none => pure ()

/-- Spends time. It halts when the limit is reached. -/
def spend (micros : Nat) : Run Unit := do
  updateHost fun h => { h with spent := h.spent + micros }
  checkTime

/-- Opens a channel. -/
def openChannel (channel : Channel) : Run Endpoint := do
  let index := (← host).channels.size
  updateHost fun h => { h with channels := h.channels.push channel }
  pure (.channel index)

/-- Opens a channel that holds the given octets. -/
def newChannel (octets : List Char) : Run Endpoint :=
  openChannel ⟨Text.Octets.toBytes octets, false⟩

/-- Opens a file. -/
def openFile (o : Opening) : Run Endpoint := do
  let index := (← host).openings.size
  updateHost fun h => { h with openings := h.openings.push o }
  pure (.file index)

/-- Where a descriptor leads. -/
def endpoint (descriptor : Nat) : Run (Option Endpoint) :=
  return (← session).endpoints.lookup descriptor

/-- Leads a descriptor somewhere else. -/
def setEndpoint (descriptor : Nat) (endpoint : Option Endpoint) : Run Unit :=
  update fun s =>
    let others := s.endpoints.filter (·.1 != descriptor)
    { s with endpoints := match endpoint with
      | some endpoint => (descriptor, endpoint) :: others
      | none => others }

/-- How many octets a limited channel holds before it takes no more. -/
def channelLimit : Nat := 262144

/-- Why octets cannot be written to a descriptor. -/
def writeFault? (descriptor : Nat) : Run (Option Errno) := do
  match ← endpoint descriptor with
  | none | some .directory => pure (some .badDescriptor)
  | some .full => pure (some .noSpace)
  | some (.file index) =>
    return if (← host).openings[index]?.any Opening.writes then none else some .badDescriptor
  | some _ => pure none

/-- Why octets cannot be read from a descriptor. -/
def readFault? (descriptor : Nat) : Run (Option Errno) := do
  match ← endpoint descriptor with
  | none => pure (some .badDescriptor)
  | some .directory => pure (some .isDirectory)
  | some (.file index) =>
    return if (← host).openings[index]?.any Opening.reads then none else some .badDescriptor
  | some _ => pure none

/-- Writes octets into an open file. -/
def emitToFile (index : Nat) (cs : List Char) : Run Unit := do
  let t ← files
  if let some o := (← host).openings[index]? then
    let content := o.content t
    let octets := Text.Octets.toBytes cs
    let place := if o.appends then content.size else o.offset
    let new := Opening.overwritten content place octets
    let o := { o with offset := place + octets.size }
    match o.orphan, t.get? o.location with
    | none, some (.file _ mode) =>
      setFiles (t.put o.location (.file new (FileTree.writtenMode mode)))
      updateHost fun h => { h with openings := h.openings.set! index o }
    | _, _ =>
      updateHost fun h => { h with openings := h.openings.set! index { o with orphan := some new } }

/-- Writes octets to a descriptor, if it leads anywhere. A program that goes on writing to a channel
    that takes no more is ended. -/
def emit (descriptor : Nat) (cs : List Char) : Run Unit := do
  if cs = [] then return
  match ← writeFault? descriptor with
  | some e => if descriptor = 1 then update fun s => { s with lost := some e }
  | none =>
    match ← endpoint descriptor with
    | some (.channel index) =>
      if let some c := (← host).channels[index]? then
        if c.limited && c.octets.size > channelLimit then throw (.killed brokenPipe)
      updateHost fun h => { h with
        channels := h.channels.modify index fun c =>
          { c with octets := c.octets ++ Text.Octets.toBytes cs } }
    | some (.file index) => emitToFile index cs
    | _ => pure ()

/-- What an endpoint still has to give. Some have no end. -/
def held (p : Endpoint) : Run (List Char) := do
  match p with
  | .channel index =>
    return Text.Octets.ofBytes (((← host).channels[index]?.map Channel.octets).getD .empty)
  | .file index =>
    match (← host).openings[index]? with
    | some o =>
      let content := o.content (← files)
      pure (if o.reads then Text.Octets.ofBytes (content.extract o.offset content.size) else [])
    | none => pure []
  | .endless | .full => pure (List.replicate channelLimit '\x00')
  | _ => pure []

/-- Leaves an endpoint the last part of what it had to give. -/
def hold (p : Endpoint) (cs : List Char) : Run Unit := do
  match p with
  | .channel index =>
    updateHost fun h => { h with
      channels := h.channels.modify index fun c => { c with octets := Text.Octets.toBytes cs } }
  | .file index =>
    let t ← files
    updateHost fun h => { h with
      openings := h.openings.modify index fun o =>
        { o with offset := max o.offset ((o.content t).size - cs.length) } }
  | _ => pure ()

/-- Takes all that a descriptor has to give. -/
def takeAll (descriptor : Nat) : Run (List Char) := do
  match ← endpoint descriptor with
  | some p => let cs ← held p; hold p []; pure cs
  | none => pure []

/-- Takes all that a descriptor has to give. From a file only what is needed is taken; `need` says how
    many octets are. -/
def takeNeeded (descriptor : Nat) (need : List Char → Nat) : Run (List Char) := do
  match ← endpoint descriptor with
  | some p =>
    let cs ← held p
    match p with
    | .file _ => hold p (cs.drop (need cs))
    | p => hold p []
    pure cs
  | none => pure []

/-- Takes the next line that a descriptor has to give, and whether a line feed ended it. -/
def takeLine (descriptor : Nat) : Run (List Char × Bool) := do
  match ← endpoint descriptor with
  | some p =>
    let cs ← held p
    let line := cs.takeWhile (· != '\n')
    hold p (cs.drop (line.length + 1))
    pure (line, line.length < cs.length)
  | none => pure ([], false)

/-- How many lines may be read as one. -/
def lineLimit : Nat := 100000

/-- Sets the status of the last statement. -/
def setStatus (status : Nat) : Run Unit := update fun s => { s with status }

/-- Says what is wrong, with the name of the script, the line and the built-in command that runs. -/
def complain (text : List Char) : Run Unit := do
  let s ← session
  let command := match s.command with
    | some command => command ++ ": ".toList
    | none => []
  emit 2 (s.name ++ ": ".toList ++ (toString s.line).toList ++ ": ".toList ++ command ++ text ++
    ['\n'])

/-- Says what is wrong, and ends the script. -/
def die {α : Type} (status : Nat) (text : List Char) : Run α := do
  complain text
  throw (.failed status)

/-- Whether an option is set. -/
def hasOption (letter : Char) : Run Bool := return (← session).options.contains letter

/-- What is known of a variable. -/
def binding? (name : List Char) : Run (Option Binding) :=
  return (← session).bindings.lookup name

/-- The value of a variable. -/
def value? (name : List Char) : Run (Option (List Char)) :=
  return (← binding? name).bind Binding.value

/-- Whether a word can be the name of a variable. -/
def isName (word : List Char) : Bool :=
  word.head?.any (fun c => c.isAlpha || c == '_') && word.all fun c => c.isAlphanum || c == '_'

/-- Puts what is known of a variable in place of what was known before. -/
def putBinding (name : List Char) (new : Option Binding) : Run Unit :=
  update fun s =>
    let isHere (b : List Char × Binding) : Bool := b.1 == name
    { s with
      bindings := match new with
        | none => s.bindings.filter (!isHere ·)
        | some b =>
          if s.bindings.any isHere then s.bindings.map fun old => if isHere old then (name, b) else old
          else s.bindings ++ [(name, b)]
      optionPlace :=
        if name == "OPTIND".toList then
          (max 1 (((new.bind Binding.value).bind natural?).getD 1), none)
        else s.optionPlace
      places := if name == "PATH".toList then [] else s.places }

/-- Changes a variable. A name that is none, and a variable that is kept from changes, end the
    script. -/
def changeBinding (name : List Char) (change : Binding → Option Binding) : Run Unit := do
  if !isName name then die 2 (name ++ ": bad variable name".toList)
  let b := (← binding? name).getD ⟨none, false, false⟩
  if b.isReadOnly then die 2 (name ++ ": is read only".toList)
  putBinding name (change b)

/-- Sets a variable. -/
def setVariable (name value : List Char) : Run Unit := do
  let all ← hasOption 'a'
  changeBinding name fun b => some { b with value := some value, exported := b.exported || all }

/-- The names and the values of the variables that programs get. -/
def environment : Run (List (List Char × List Char)) :=
  return (← session).bindings.filterMap fun (name, b) =>
    if b.exported then b.value.map (name, ·) else none

/-- Runs a step and then gives back what the session held before in the part that `restore` puts
    back. -/
def keeping {α : Type} (restore : Session → Session → Session) (step : Run α) : Run α := do
  let before ← session
  let result ← caught step
  update (restore before)
  resume result

/-- Runs a step after which the given descriptors lead where they led before. -/
def keepingEndpoints {α : Type} (descriptors : List Nat) (step : Run α) : Run α :=
  keeping (fun before s =>
    let isMeant (e : Nat × Endpoint) : Bool := descriptors.contains e.1
    { s with endpoints := before.endpoints.filter isMeant ++ s.endpoints.filter (!isMeant ·) }) step

/-- Runs a step under the name of a built-in command. -/
def under {α : Type} (command : List Char) (step : Run α) : Run α :=
  keeping (fun before s => { s with command := before.command }) do
    update fun s => { s with command := some command }
    step

/-- The number of a program that is about to start. -/
def newNumber : Run Nat := do
  updateHost fun h => { h with started := h.started + 1 }
  return 4000 + (← host).started

/-- The signals that were sent to the running program, which are gone then. -/
def takeSignals : Run (List Nat) := do
  let process := (← session).process
  let mine := (← host).pending.filter (·.1 == process)
  updateHost fun h => { h with pending := h.pending.filter (·.1 != process) }
  pure (mine.map Prod.snd).eraseDups.mergeSort

end Run

end NativeExtension.Shell

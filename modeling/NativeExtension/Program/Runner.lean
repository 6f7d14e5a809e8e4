import NativeExtension.Command.Run
import NativeExtension.Shell.Evaluation

/-!
Running commands on a host: the runner that starts the programs that are there and waits for their
end.

A build knows its tools, the compiler and the program that tells the directories of a server, only as
commands that some `Command.Runner` answers, and what is proved of a build holds for every runner with
the properties that it names. But tools are often scripts that call others, and a build goes on with
the files that they leave. This runner is for them: it starts a tool on the file tree of the model, so
that a build with such tools can be computed from the manifest to the last file that is installed. The
modules under `Shell` read and run scripts, those under `Program` are the utilities that scripts call,
and `Editor` and `Regex` are the stream editor and the expressions that some of these take.
-/
namespace NativeExtension.Program

open Shell (Machine)

/-- The longest limit, in millionths of a second, that can be waited for. -/
def waitLimit : Nat := 2147483647 * 1000

/-- The longest limit, in millionths of a second, that can be told as a time. -/
def timeLimit : Nat := Shell.greatest / 1000

/-- Whether a span is a whole number that lies beyond all finite ones with a fraction. -/
def isBeyondReals : Seconds → Bool
  | .whole n =>
    match Binary64.ofDecimal false n.natAbs 0 with
    | .infinite _ => true
    | _ => false
  | .real _ => false

/-- Why a limit cannot be waited for. -/
def limitFault? : Option Seconds → Option Fault
  | none => none
  | some (.real .notANumber) => some (.badValue "cannot convert float NaN to integer")
  | some (.real (.infinite false)) => some (.tooLarge (.number "cannot convert float infinity to integer"))
  | some limit =>
    if isBeyondReals limit then some (.tooLarge (.number "int too large to convert to float"))
    else if limit.withinMicros waitLimit then none
    else if limit.withinMicros timeLimit then some (.tooLarge (.number "timeout is too large"))
    else some (.tooLarge (.number "timestamp too large to convert to C _PyTime_t"))

/-- The number of the program that starts the others. -/
def hostNumber : Nat := 4000

/-- The time that programs that nobody waits for have after the end of the one that started them. -/
def graceMicros : Nat := 10000

/-- The state before anything runs: nothing to read, nothing written, and the variables that are
    handed on. -/
def fresh (given : List (String × String)) (t : FileTree) (limit : Option Seconds) :
    Machine where
  host :=
    { files := t
      channels := #[⟨.empty, false⟩, ⟨.empty, false⟩, ⟨.empty, false⟩]
      openings := #[]
      spent := 0
      limit
      alarm := none
      started := 0
      alive := [hostNumber]
      pending := []
      jobs := [] }
  session :=
    { name := []
      arguments := []
      bindings := given.map fun (name, value) =>
        (Text.Octets.ofString name, ⟨some (Text.Octets.ofString value), true, false⟩)
      functions := []
      aliases := []
      endpoints := [(0, .channel 0), (1, .channel 1), (2, .channel 2)]
      status := 0
      taken := 0
      line := 0
      command := none
      lost := none
      number := hostNumber
      process := hostNumber
      parent := 1
      latest := none
      loops := 0
      calls := 0
      options := []
      traps := []
      saved := []
      savedOptions := none
      optionPlace := (1, none)
      mask := 0o22
      directory := Text.Octets.ofString (FileTree.locationText t.current)
      places := [] }

/-- What a program wrote, as text with line feeds. -/
def written (octets : ByteArray) : Except Fault String :=
  match Text.Utf8.decode octets with
  | .ok text => .ok (String.ofList (Text.unifyNewlines text.toList))
  | .error e => .error (.undecodable e)

/-- The status of a program: the one that it gave, or the number of the signal that ended it, below
    zero. -/
def statusOf : Shell.Exit → Int
  | .status n => n
  | .signal n => -n

/-- A program that came to its end: how, and what it wrote to its two channels. -/
structure Ended where
  exit : Shell.Exit
  stdout : ByteArray
  stderr : ByteArray

/-- What is told of a command that came to its end. Both channels have to hold text, whatever the
    status is. -/
def Ended.outcome (args : List String) (e : Ended) : Except Fault Command.Outcome := do
  pure ⟨args, statusOf e.exit, ← written e.stdout, ← written e.stderr⟩

/-- Runs commands by starting them and waiting for their end: `start` finds what is to run, and
    `execute` runs it, to its end where that comes in time. -/
def runnerOf {α : Type} (start : FileTree → List String → Except Errno α)
    (execute : Command.Call → α → FileTree → Option Ended × FileTree) : Command.Runner :=
  fun _ call t =>
    if call.args = [] then (.error .noProgram, t)
    else if call.args.any (·.toList.contains '\x00') then (.error .embeddedNul, t)
    else
      match start t call.args with
      | .error e => (.error (.system (.about e (call.args.headD ""))), t)
      | .ok image =>
        match limitFault? call.limit with
        | some fault => (.error fault, t)
        | none =>
          match execute call image t with
          | (some ended, after) => (ended.outcome call.args, after)
          | (none, after) => (.error (.expired call.args call.limit), after)

/-- What a program wrote to a channel of a machine. -/
def channelOctets (m : Machine) (index : Nat) : ByteArray :=
  (m.host.channels[index]?.map Shell.Channel.octets).getD .empty

/-- Runs a program to its end. What it wrote is complete when nothing else can write there; all other
    programs that it started have a short time. -/
def toTheEnd (image : Image) : Shell.Run Shell.Exit := do
  let run := Shell.Run.statement Shell.depthLimit
  let exit ← Shell.Run.execute run Shell.depthLimit image
  Shell.Run.settle run (.channel 1)
  Shell.Run.settle run (.channel 2)
  Shell.Run.runJobsUntil run ((← Shell.Run.host).spent + graceMicros)
  pure exit

/-- Runs a program on a machine, with the variables that are handed on. -/
def runImage (given : List (String × String)) (call : Command.Call) (image : Image)
    (t : FileTree) : Option Ended × FileTree :=
  let (result, m) := (toTheEnd image).run.run (fresh given t call.limit)
  let ended : Option Ended :=
    match result with
    | .ok exit => some ⟨exit, channelOctets m 1, channelOctets m 2⟩
    | .error _ => none
  (ended, { m.host.files with current := t.current })

/-- The variables that programs get when nothing else is said. -/
def usualVariables : List (String × String) :=
  [("PATH", ":".intercalate searchPath), ("LANG", "C.UTF-8")]

/-- Runs commands with the programs of the host, which get some more variables. -/
def runner (given : List (String × String)) : Command.Runner :=
  runnerOf start (runImage (usualVariables ++ given))

end NativeExtension.Program

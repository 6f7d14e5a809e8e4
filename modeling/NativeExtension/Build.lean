import NativeExtension.BuildError
import NativeExtension.Command.Run
import NativeExtension.Files.Install

/-!
Steps of a build. A step reads and changes files, records the commands it runs and what it has to
say, and ends with a value or a failure; what it did before it failed stays done.
-/
namespace NativeExtension

/-- How important a message is. -/
inductive Level where
  | info
  | warning
  deriving DecidableEq, Repr

/-- A message of a build. -/
structure Message where
  level : Level
  text : String
  deriving DecidableEq, Repr

/-- The state of a build: the files, the commands run so far with what they answered, and the
    messages, oldest first. -/
structure BuildState where
  files : FileTree
  calls : List Command.Answered
  messages : List Message

/-- A failure of a build: one of its own errors, or a fault of the host that it does not take on. -/
inductive Failure where
  | build (error : BuildError)
  | fault (fault : Fault)
  deriving DecidableEq, Repr

/-- A step of a build. -/
abbrev Build := ExceptT Failure (StateM BuildState)

namespace Build

/-- Ends with an error of the build. -/
def failWith {α : Type} (error : BuildError) : Build α := throw (.build error)

/-- Ends with a fault of the host. -/
def faultWith {α : Type} (fault : Fault) : Build α := throw (.fault fault)

/-- Says something. -/
def say (level : Level) (text : String) : Build Unit :=
  modify fun s => { s with messages := s.messages ++ [⟨level, text⟩] }

/-- What reading the files gives. -/
def look {α : Type} (read : FileTree → Except Fault α) : Build (Except Fault α) := do
  pure (read (← get).files)

/-- Changes the files, unless that fails. -/
def change (f : FileTree → Except Fault FileTree) : Build (Except Fault Unit) := do
  let s ← get
  match f s.files with
  | .ok files => set { s with files }; pure (.ok ())
  | .error fault => pure (.error fault)

/-- Changes the files, also where that fails. -/
def changeAnyway (f : FileTree → Except Fault Unit × FileTree) : Build (Except Fault Unit) := do
  let s ← get
  let (result, files) := f s.files
  set { s with files }
  pure result

/-- A result that was found without looking at the state. -/
def ofResult {α : Type} (result : Except Failure α) : Build α := ExceptT.mk (pure result)

/-- A value, or a fault as it is. -/
def orFault {α : Type} : Except Fault α → Build α
  | .ok a => pure a
  | .error fault => faultWith fault

/-- A value, or an error of the build made from an error of the operating system. Other faults stay.
    -/
def orSystem {α : Type} (wrap : SystemError → BuildError) : Except Fault α → Build α
  | .ok a => pure a
  | .error (.system e) => failWith (wrap e)
  | .error fault => faultWith fault

/-- A value, or an error of the build made from one of reading a text. Other faults stay. -/
def orRead {α : Type} (wrap : ReadError → BuildError) : Except Fault α → Build α
  | .ok a => pure a
  | .error (.system e) => failWith (wrap (.system e))
  | .error (.undecodable e) => failWith (wrap (.undecodable e))
  | .error fault => faultWith fault

/-- Runs a command and records the call with its answer. -/
def call (runner : Command.Runner) (c : Command.Call) : Build (Except Fault Command.Outcome) := do
  let s ← get
  let (answer, files) := runner (s.calls.map (·.call)) c s.files
  let answered : Command.Answered := { call := c, answer }
  set { s with files, calls := s.calls ++ [answered] }
  pure answer

/-- What the answer to a call means for a stage. It fails the stage unless the tool starts, ends in
    time and exits with status zero. -/
def toolResult (args : List String) (stage : ToolStage) (limit : Option Seconds) :
    Except Fault Command.Outcome → Except Failure Command.Outcome
  | .ok outcome =>
    if outcome.ok then .ok outcome
    else if args = [] then .error (.fault .noProgram)
    else .error (.build (.tool stage args (.exited outcome.status outcome.stderr)))
  | .error (.expired ..) => .error (.build (.tool stage args (.expired limit)))
  | .error (.system e) =>
    if args = [] then .error (.fault .noProgram)
    else .error (.build (.tool stage args (.notStarted e)))
  | .error fault => .error (.fault fault)

/-- Runs an external tool for a stage. -/
def runTool (runner : Command.Runner) (args : List String) (stage : ToolStage)
    (limit : Option Seconds) : Build Command.Outcome := do
  say .info ("Running: " ++ Command.joined args)
  ofResult (toolResult args stage limit (← call runner ⟨args, limit⟩))

end Build

end NativeExtension

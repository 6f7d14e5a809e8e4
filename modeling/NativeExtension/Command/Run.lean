import NativeExtension.Fault
import NativeExtension.Files.Tree

/-!
Running external commands. A runner stands for whatever runs them: it answers each call, and may
change files while it does.
-/
namespace NativeExtension

namespace Command

/-- A command and how long it may take. -/
structure Call where
  args : List String
  limit : Option Seconds
  deriving DecidableEq, Repr

/-- How a command ended: its exit status, negative for a signal, and what it printed. -/
structure Outcome where
  args : List String
  status : Int
  stdout : String
  stderr : String
  deriving DecidableEq, Repr

/-- Whether a command succeeded. -/
def Outcome.ok (o : Outcome) : Bool := o.status == 0

/-- A call that was made, and how the runner answered it. -/
structure Answered where
  call : Call
  answer : Except Fault Outcome

/-- Whether a command that was called ran to its end and succeeded. -/
def Answered.succeeded (a : Answered) : Bool :=
  match a.answer with
  | .ok outcome => outcome.ok
  | .error _ => false

/-- A record of answered calls says which calls were made. -/
instance : Coe (List Answered) (List Call) := ⟨List.map Answered.call⟩

/-- Runs commands. It sees the calls made before, so that it may answer the same call differently
    later, and the files, which it may change whether or not it answers with an outcome. -/
abbrev Runner := (earlier : List Call) → Call → FileTree → Except Fault Outcome × FileTree

end Command

end NativeExtension

import NativeExtension.Files.SystemError
import NativeExtension.Identity
import NativeExtension.Number.Seconds
import NativeExtension.Text.Utf8

/-!
Faults of the host: what reading and writing files and running programs can end with besides an
answer. A build turns some of them into its own errors and lets the others through.
-/
namespace NativeExtension

/-- What can be too much for the program: a number, what is nested in each other, or what is read
    without end. -/
inductive Excess where
  | number (message : String)
  | nesting
  | reading
  deriving DecidableEq, Repr

/-- The text of an excess. -/
def Excess.message : Excess → String
  | .number text => text
  | .nesting => "maximum recursion depth exceeded"
  | .reading => ""

/-- How many calls the program can nest where it reads a manifest or makes a directory. -/
def callLimit : Nat := 980

/-- A fault of the host. -/
inductive Fault where
  /-- The operating system refuses. -/
  | system (error : SystemError)
  /-- Octets are no text. -/
  | undecodable (error : Text.Utf8.Error)
  /-- A command took longer than it may. -/
  | expired (args : List String) (limit : Option Seconds)
  /-- A value is of the right sort but out of its range. -/
  | badValue (message : String)
  /-- Something is too much for the program. -/
  | tooLarge (what : Excess)
  /-- A command without a program. -/
  | noProgram
  /-- An identity that is refused. -/
  | rejected (r : Rejection)
  deriving DecidableEq, Repr

namespace Fault

/-- A path with a NUL, which no operation takes. -/
def embeddedNul : Fault := .badValue "embedded null byte"

/-- The text of a fault. -/
def message : Fault → String
  | .system error => error.message
  | .undecodable error => error.message
  | .expired args limit =>
    "Command '" ++ Text.quotedList args ++ "' timed out after " ++ Seconds.textOrNone limit ++
      " seconds"
  | .badValue text => text
  | .tooLarge what => what.message
  | .noProgram => "list index out of range"
  | .rejected r => r.message

end Fault

end NativeExtension

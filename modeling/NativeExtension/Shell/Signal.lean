import NativeExtension.Shell.Calculation

/-!
Signals that programs send to each other: their names, their numbers, and what they do to a program
that has not said otherwise.
-/
namespace NativeExtension.Shell

/-- The names of the signals that programs send, from the first number on. -/
def signalNames : List String :=
  ["HUP", "INT", "QUIT", "ILL", "TRAP", "ABRT", "BUS", "FPE", "KILL", "USR1", "SEGV", "USR2", "PIPE",
    "ALRM", "TERM", "16", "CHLD", "CONT", "STOP", "TSTP", "TTIN", "TTOU", "URG", "XCPU", "XFSZ",
    "VTALRM", "PROF", "WINCH", "IO", "PWR", "SYS", "32", "33", "RTMIN", "RTMIN+1", "RTMIN+2",
    "RTMIN+3", "RTMIN+4", "RTMIN+5", "RTMIN+6", "RTMIN+7", "RTMIN+8", "RTMIN+9", "RTMIN+10",
    "RTMIN+11", "RTMIN+12", "RTMIN+13", "RTMIN+14", "RTMIN+15", "RTMAX-14", "RTMAX-13", "RTMAX-12",
    "RTMAX-11", "RTMAX-10", "RTMAX-9", "RTMAX-8", "RTMAX-7", "RTMAX-6", "RTMAX-5", "RTMAX-4",
    "RTMAX-3", "RTMAX-2", "RTMAX-1", "RTMAX"]

/-- The number of signals, with the one that stands for the end of a script. -/
def signalCount : Nat := 65

/-- The name of a signal. Number zero is the end of a script. -/
def signalName (signal : Nat) : List Char :=
  match signal with
  | 0 => "EXIT".toList
  | n + 1 => (signalNames.getD n "").toList

/-- What a signal does to the program that gets it. -/
inductive SignalEffect where
  | nothing
  | stop
  | terminate
  deriving DecidableEq, Repr

/-- What a signal does to a program that has not said otherwise. -/
def signalEffect (signal : Nat) : SignalEffect :=
  if [0, 17, 18, 23, 28].contains signal then .nothing
  else if [19, 20, 21, 22].contains signal then .stop
  else .terminate

/-- Whether a program can say what a signal does to it. -/
def isCatchable (signal : Nat) : Bool := signal != 9 && signal != 19

/-- The signal that a program gets when nothing reads what it writes. -/
def brokenPipe : Nat := 13

/-- The signal that a program gets when what it runs nests too deep. -/
def segmentationFault : Nat := 11

/-- What is said of a program that a signal ended. Of some nothing is said. -/
def signalText : Nat → Option String
  | 1 => some "Hangup"
  | 3 => some "Quit"
  | 4 => some "Illegal instruction"
  | 5 => some "Trace/breakpoint trap"
  | 6 => some "Aborted"
  | 7 => some "Bus error"
  | 8 => some "Floating point exception"
  | 9 => some "Killed"
  | 10 => some "User defined signal 1"
  | 11 => some "Segmentation fault"
  | 12 => some "User defined signal 2"
  | 14 => some "Alarm clock"
  | 15 => some "Terminated"
  | 16 => some "Stack fault"
  | 24 => some "CPU time limit exceeded"
  | 25 => some "File size limit exceeded"
  | 26 => some "Virtual timer expired"
  | 27 => some "Profiling timer expired"
  | 29 => some "I/O possible"
  | 30 => some "Power failure"
  | 31 => some "Bad system call"
  | _ => none

/-- The natural number that a word spells in decimal digits. -/
def natural? (word : List Char) : Option Nat :=
  if !word.isEmpty && word.all Char.isDigit then
    some (word.foldl (fun n c => n * 10 + digitValue c) 0)
  else none

/-- The signal that a word names, by number or by name; with `ending` the end of a script counts as
    one. -/
def signal? (ending : Bool) (word : List Char) : Option Nat :=
  match natural? word with
  | some n => if n < signalCount then some n else none
  | none =>
    let numbers := (List.range signalCount).drop (if ending then 0 else 1)
    numbers.find? fun n => signalName n == word.map Char.toUpper

end NativeExtension.Shell

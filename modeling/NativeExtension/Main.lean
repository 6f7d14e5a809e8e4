import NativeExtension.CommandLine.Install
import NativeExtension.Program.Runner

/-!
The program. It works on a host of its own: a script on standard input puts the files in place, and
the command line then runs on what the script leaves.
-/
namespace NativeExtension

/-- The name of a level in front of a message. -/
def Level.label : Level → String
  | .info => "INFO"
  | .warning => "WARNING"

/-- The files that a script leaves on a host with nothing but its programs, or why it does not end.
    -/
def hostAfter (script : String) : Except Fault FileTree :=
  match Program.runner [] [] ⟨["/bin/sh", "-c", script], none⟩ Program.baseTree with
  | (.ok _, files) => .ok files
  | (.error fault, _) => .error fault

/-- What the command line prints on the given files, after the messages that are shown. A fault of
    the host is reported like an error of the build. -/
def transcript (env : Environment) (args : List String) (files : FileTree) :
    CommandLine.Printed :=
  let (result, after) :=
    (CommandLine.run (Program.runner env.variables) env args).run.run ⟨files, [], []⟩
  let shown := (CommandLine.visible args after.messages).map fun m =>
    m.level.label ++ " " ++ m.text ++ "\n"
  let printed :=
    match result with
    | .ok printed => printed
    | .error (.build e) => CommandLine.report .numbers e
    | .error (.fault f) => ⟨1, "", f.message ++ "\n"⟩
  { printed with stderr := String.join shown ++ printed.stderr }

end NativeExtension

open NativeExtension in
/-- Runs the command line with the arguments and the environment of the program. -/
def main (args : List String) : IO UInt32 := do
  let script ← (← IO.getStdin).readToEnd
  let env : Environment :=
    ⟨← IO.getEnv "PG_CONFIG", ← IO.getEnv "CC", ← IO.getEnv "PGEXT_PROFILE",
      ← IO.getEnv "PGEXT_TIMEOUT"⟩
  let printed :=
    match hostAfter script with
    | .ok files => transcript env args files
    | .error fault => ⟨1, "", fault.message ++ "\n"⟩
  IO.print printed.stdout
  IO.eprint printed.stderr
  pure printed.exit.toNat.toUInt32

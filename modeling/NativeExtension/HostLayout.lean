import NativeExtension.Build
import NativeExtension.Text.Blank
import NativeExtension.Text.Lines

/-!
Where the server keeps the files of extensions. The directories are either fixed or asked for, one
command for each, every time they are needed.
-/
namespace NativeExtension

/-- The directories of a server: its headers, its modules and its shared data. -/
structure ServerDirectories where
  headers : Path
  modules : Path
  shared : Path
  deriving DecidableEq, Repr

/-- The directories given, or all fields that are refused. -/
def ServerDirectories.ofFields (headers modules shared : Given) :
    Except Rejection ServerDirectories :=
  match headers.path?, modules.path?, shared.path? with
  | .ok headers, .ok modules, .ok shared => .ok { headers, modules, shared }
  | _, _, _ =>
    .error (pathProblems
      [("server_include_dir", headers), ("shared_module_dir", modules), ("shared_data_dir", shared)])

/-- A way to find the directories of a server. -/
structure HostLayout where
  headers : Build Path
  modules : Build Path
  shared : Build Path

namespace HostLayout

/-- Directories that are known. -/
def fixed (d : ServerDirectories) : HostLayout where
  headers := pure d.headers
  modules := pure d.modules
  shared := pure d.shared

/-- The option that asks for the headers of the server. -/
def headersFlag : String := "--includedir-server"

/-- The option that asks for the modules. -/
def modulesFlag : String := "--pkglibdir"

/-- The option that asks for the shared data. -/
def sharedFlag : String := "--sharedir"

/-- The lines of a text that hold more than blanks, without the blanks around them. -/
def filledLines (text : String) : List String :=
  ((Text.lines text.toList).map Text.trim).filterMap fun line =>
    if line = [] then none else some (String.ofList line)

/-- The directory that a command answers with: its only line. -/
def directory? (stdout : String) : Option Path :=
  match filledLines stdout with
  | [line] => some (.ofString line)
  | _ => none

/-- Asks for one directory. -/
def query (executable : String) (runner : Command.Runner) (limit : Option Seconds) (flag : String) :
    Build Path := do
  let args := [executable, flag]
  let outcome ← Build.runTool runner args .hostConfig limit
  match directory? outcome.stdout with
  | none => Build.failWith (.hostAnswer args flag outcome.stdout outcome.stderr)
  | some directory =>
    Build.say .info ("Found Postgres directory: " ++ flag ++ " = " ++ directory.toString)
    pure directory

/-- Directories that an executable is asked for. -/
def queried (executable : String) (runner : Command.Runner) (limit : Option Seconds) :
    HostLayout where
  headers := query executable runner limit headersFlag
  modules := query executable runner limit modulesFlag
  shared := query executable runner limit sharedFlag

end HostLayout

end NativeExtension

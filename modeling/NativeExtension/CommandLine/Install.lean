import NativeExtension.CommandLine.Display
import NativeExtension.CommandLine.Options
import NativeExtension.Pipeline
import NativeExtension.Settings

/-!
The command line: it builds and installs the extension of one project, says what it copied where,
and reports the first failure. What is given on the command line counts before the environment,
except that an empty text counts as not given.
-/
namespace NativeExtension.CommandLine

open Display (Pictographs)

/-- What the command line prints and the status it exits with. -/
structure Printed where
  exit : Int
  stdout : String
  stderr : String
  deriving DecidableEq, Repr

/-- The status of a command line that is used wrongly. -/
def usageStatus : Int := 2

/-- The line that reports a failure. -/
def failureLine (ps : Pictographs) (stage text : String) : String :=
  Display.tagged ps ("[red]".toList ++ stage.toList ++ " failed:[/red] ".toList ++
    Display.escape text) ++ "\n"

/-- The report of a build error: its stage and text, then what an external tool said about it. -/
def report (ps : Pictographs) (e : BuildError) : Printed where
  exit := 1
  stdout := ""
  stderr :=
    failureLine ps e.stage e.message ++
      (if e.diagnostics = "" then "" else Display.verbatim ps e.diagnostics)

/-- The line about one installed file. -/
def copiedLine (ps : Pictographs) (f : DeployedFile) : String :=
  Display.tagged ps ("[green]Copied[/green] ".toList ++ Display.escape f.source.toString ++
    " into ".toList ++ Display.escape f.destination.toString) ++ "\n"

/-- The line that says how to use the extension. -/
def hintLine (ps : Pictographs) (i : Identity) : String :=
  Display.tagged ps ("Execute \"CREATE EXTENSION ".toList ++ Display.escape i.name ++
    ";\" in your database to access the extension.".toList) ++ "\n"

/-- What is printed when everything was installed. -/
def summary (ps : Pictographs) (r : PipelineResult) : Printed where
  exit := 0
  stdout := String.join (r.deployed.map (copiedLine ps)) ++ hintLine ps r.identity
  stderr := ""

/-- The first of two texts unless it is missing or empty. -/
def orElse (given : Option String) (fallback : String) : String :=
  match given with
  | none => fallback
  | some s => if s = "" then fallback else s

/-- The limit on each command: that of the command line, or else that of the environment. -/
def effectiveLimit (o : Options) (s : Settings) : Option Seconds :=
  (o.limit <|> s.limit).map .real

/-- Builds and installs with the options and settings. -/
def buildWith (runner : Command.Runner) (o : Options) (s : Settings) : Build PipelineResult := do
  let limit := effectiveLimit o s
  let host := HostLayout.queried (orElse o.pgConfig s.pgConfig) runner limit
  let layout ← Project.locate (.ofString o.path) (orElse o.profile s.profile)
  Pipeline.run layout host ⟨runner, orElse o.compiler s.compiler, limit⟩ o.extra

/-- Builds and installs, and reports an error of the build. A fault of the host is none. -/
def install (ps : Pictographs) (runner : Command.Runner) (env : Environment) (o : Options) :
    Build Printed :=
  match Settings.ofEnvironment env with
  | .error e => pure ⟨1, "", failureLine ps "configuration" e.message⟩
  | .ok settings =>
    tryCatch (do pure (summary ps (← buildWith runner o settings))) fun
      | .build e => pure (report ps e)
      | .fault f => Build.faultWith f

/-- Runs the command line where the given pictographs have names. -/
def runWith (ps : Pictographs) (runner : Command.Runner) (env : Environment) (args : List String) :
    Build Printed :=
  match env.fault?, parse args with
  | some fault, _ => Build.faultWith fault
  | none, .error _ => pure ⟨usageStatus, "", ""⟩
  | none, .ok .help => pure ⟨0, "", ""⟩
  | none, .ok (.install options) => install ps runner env options

/-- Runs the command line. Of the pictographs only those matter here whose names are numbers. -/
def run (runner : Command.Runner) (env : Environment) (args : List String) : Build Printed :=
  runWith .numbers runner env args

/-- Whether arguments ask for all messages. -/
def isVerbose (args : List String) : Bool :=
  match parse args with
  | .ok (.install options) => options.verbose
  | _ => false

/-- The messages that are shown: warnings, and the others where they are asked for. -/
def visible (args : List String) (messages : List Message) : List Message :=
  messages.filter fun m => isVerbose args || m.level == .warning

end NativeExtension.CommandLine

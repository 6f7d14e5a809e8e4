import NativeExtension.Command.Words
import NativeExtension.Fault
import NativeExtension.Toml.Error

/-!
What a build can fail with. Each error keeps its cause; `stage` says which part of the build it
ended, `message` puts it into words, and `diagnostics` is what an external tool said about it.
-/
namespace NativeExtension

/-- The parts of a build that run external tools or write what they need. -/
inductive ToolStage where
  | toolchain
  | metadata
  | source
  | hostConfig
  | compile
  | link
  deriving DecidableEq, Repr

/-- The name of a stage. -/
def ToolStage.label : ToolStage → String
  | .toolchain => "toolchain"
  | .metadata => "metadata"
  | .source => "source"
  | .hostConfig => "host-config"
  | .compile => "compile"
  | .link => "link"

/-- Why a file could not be read as text. -/
inductive ReadError where
  | system (error : SystemError)
  | undecodable (error : Text.Utf8.Error)
  deriving DecidableEq, Repr

/-- The text of a read error. -/
def ReadError.message : ReadError → String
  | .system error => error.message
  | .undecodable error => error.message

/-- What is wrong with a manifest; `source` says where it came from. -/
inductive ManifestError where
  | unreadable (path : Path) (cause : ReadError)
  | malformed (source : String) (cause : Toml.Error)
  | rejected (source field : String) (problem : FieldProblem)
  | noPackage (source : String)
  | noEntry (source : String) (field : Field)
  deriving DecidableEq, Repr

/-- The text of a manifest error. -/
def ManifestError.message : ManifestError → String
  | .unreadable path cause => "Could not read manifest " ++ path.toString ++ ": " ++ cause.message
  | .malformed source cause => "Could not parse " ++ source ++ ": " ++ cause.message
  | .rejected source field problem =>
    source ++ ": package." ++ field ++ ": " ++ problem.message
  | .noPackage source => source ++ " has no [package] table"
  | .noEntry source field => source ++ ": invalid or missing package." ++ field.label ++ " entry"

/-- What is wrong with the layout of a project. -/
inductive ProjectError where
  | missing (directory : Path)
  | noSqlDirectory (directory : Path)
  | unlistable (directory : Path) (cause : SystemError)
  | noScript (directory : Path)
  | severalScripts (directory : Path) (names : List String)
  | unreadableScript (path : Path) (cause : ReadError)
  deriving DecidableEq, Repr

/-- The text of a project error. -/
def ProjectError.message : ProjectError → String
  | .missing directory => "Project directory " ++ directory.toString ++ " does not exist"
  | .noSqlDirectory directory => "Missing sql directory at project root " ++ directory.toString
  | .unlistable directory cause =>
    "Unable to view content of sql directory " ++ directory.toString ++ ": " ++ cause.message
  | .noScript directory => "Missing SQL script file in " ++ directory.toString
  | .severalScripts directory names =>
    "Multiple SQL script files in " ++ directory.toString ++ ": " ++ ", ".intercalate names
  | .unreadableScript path cause =>
    "Could not read SQL definition " ++ path.toString ++ ": " ++ cause.message

/-- What keeps the metadata from being written. -/
inductive MetadataError where
  | directory (path : Path) (cause : SystemError)
  | script (source destination : Path) (cause : SystemError)
  | control (path : Path) (cause : SystemError)
  deriving DecidableEq, Repr

/-- The text of a metadata error. -/
def MetadataError.message : MetadataError → String
  | .directory path cause =>
    "Unable to create build directory " ++ path.toString ++ ": " ++ cause.message
  | .script source destination cause =>
    "Unable to copy " ++ source.toString ++ " to " ++ destination.toString ++ ": " ++ cause.message
  | .control path cause => "Error writing control file " ++ path.toString ++ ": " ++ cause.message

/-- How an external tool failed. -/
inductive ToolError where
  | expired (limit : Option Seconds)
  | notStarted (cause : SystemError)
  | exited (status : Int) (stderr : String)
  deriving DecidableEq, Repr

/-- The text about a tool that failed with a command. -/
def ToolError.message (command : List String) : ToolError → String
  | .expired limit =>
    "Timed out after " ++ Seconds.textOrNone limit ++ "s: " ++ Command.joined command
  | .notStarted cause => "Could not run " ++ command.headD "" ++ ": " ++ cause.message
  | .exited status _ =>
    command.headD "" ++ " exited with status " ++ toString status ++ ": " ++ Command.joined command

/-- What is deployed. -/
inductive Artifact where
  | sharedLibrary
  | script
  | control
  deriving DecidableEq, Repr

/-- The name of an artifact. -/
def Artifact.label : Artifact → String
  | .sharedLibrary => "shared library"
  | .script => "SQL script"
  | .control => "control file"

/-- What a build can fail with. -/
inductive BuildError where
  | manifest (error : ManifestError)
  | scan (around : String)
  | project (error : ProjectError)
  | metadata (error : MetadataError)
  | sourceWrite (path : Path) (cause : SystemError)
  | tool (stage : ToolStage) (command : List String) (error : ToolError)
  | hostAnswer (command : List String) (flag stdout stderr : String)
  | noObject (compiler : String) (object : Path) (command : List String)
  | objectMissing (object : Path)
  | deploy (artifact : Artifact) (source destination : Path) (cause : SystemError)
  deriving DecidableEq, Repr

namespace BuildError

/-- The name of the stage that an error ended. -/
def stage : BuildError → String
  | .manifest _ => "manifest"
  | .scan _ => "scan"
  | .project _ => "project"
  | .metadata _ => ToolStage.metadata.label
  | .sourceWrite .. => ToolStage.source.label
  | .tool stage .. => stage.label
  | .hostAnswer .. => ToolStage.hostConfig.label
  | .noObject .. => ToolStage.compile.label
  | .objectMissing _ => ToolStage.link.label
  | .deploy .. => "deploy"

/-- The text of an error. -/
def message : BuildError → String
  | .manifest error => error.message
  | .scan around => "Invalid SQL syntax: Error tokenizing '" ++ around ++ "'"
  | .project error => error.message
  | .metadata error => error.message
  | .sourceWrite path cause =>
    "Unable to write generated source " ++ path.toString ++ ": " ++ cause.message
  | .tool _ command error => error.message command
  | .hostAnswer _ flag stdout _ =>
    "Could not determine PostgreSQL " ++ flag ++ ": unexpected output " ++ Text.quoted stdout
  | .noObject compiler object _ =>
    compiler ++ " reported success but " ++ object.toString ++ " was not produced"
  | .objectMissing object => "Object file " ++ object.toString ++ " does not exist"
  | .deploy artifact source destination cause =>
    "Unable to copy " ++ artifact.label ++ " " ++ source.toString ++ " to " ++ destination.toString ++
      ": " ++ cause.message

/-- The command that an error is about. -/
def command? : BuildError → Option (List String)
  | .tool _ command _ | .hostAnswer command .. | .noObject _ _ command => some command
  | _ => none

/-- What an external tool said about an error, as it said it. -/
def diagnostics : BuildError → String
  | .tool _ _ (.exited _ stderr) | .hostAnswer _ _ _ stderr => stderr
  | _ => ""

end BuildError

end NativeExtension

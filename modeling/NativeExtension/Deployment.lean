import NativeExtension.HostLayout

/-!
Installing the built files into the directories of the server: the shared library, then the SQL
definition, then the descriptor, which makes the server see the extension. A failure ends the
deployment and leaves what was installed before it.
-/
namespace NativeExtension

/-- The files that a build makes. -/
structure BuildArtifacts where
  source : Path
  object : Path
  sharedLibrary : Path
  script : Path
  control : Path
  deriving DecidableEq, Repr

/-- The files given, or all fields that are refused. -/
def BuildArtifacts.ofFields (source object sharedLibrary script control : Given) :
    Except Rejection BuildArtifacts :=
  match source.path?, object.path?, sharedLibrary.path?, script.path?, control.path? with
  | .ok source, .ok object, .ok sharedLibrary, .ok script, .ok control =>
    .ok { source, object, sharedLibrary, script, control }
  | _, _, _, _, _ =>
    .error (pathProblems
      [("source_path", source), ("object_file_path", object), ("shared_library_path", sharedLibrary),
       ("sql_script_path", script), ("descriptor_path", control)])

/-- A file that is to be installed, or was. -/
structure DeployedFile where
  artifact : Artifact
  source : Path
  destination : Path
  deriving DecidableEq, Repr

namespace Deployment

/-- The directory of extensions in the shared data of the server. -/
def extensionSubdirectory : String := "extension"

/-- What is installed and where, in order. The library loses the `lib` in front of its name, since
    the descriptor names it without. -/
def targets (artifacts : BuildArtifacts) (i : Identity) (modules shared : Path) :
    List DeployedFile :=
  let extensions := shared.child extensionSubdirectory
  [⟨.sharedLibrary, artifacts.sharedLibrary, modules.child i.moduleName⟩,
   ⟨.script, artifacts.script, extensions.child i.scriptName⟩,
   ⟨.control, artifacts.control, extensions.child i.controlName⟩]

/-- Installs one file. -/
def installOne (f : DeployedFile) : Build DeployedFile := do
  Build.orSystem (fun e => .deploy f.artifact f.source f.destination e)
    (← Build.changeAnyway (·.install f.source f.destination))
  Build.say .info (f.source.toString ++ " copied into " ++ f.destination.toString)
  pure f

/-- Installs files one after the other. -/
def installAll : List DeployedFile → Build (List DeployedFile)
  | [] => pure []
  | f :: rest => do
    let done ← installOne f
    pure (done :: (← installAll rest))

/-- Installs the built files of an extension. -/
def deploy (artifacts : BuildArtifacts) (i : Identity) (host : HostLayout) :
    Build (List DeployedFile) := do
  let modules ← host.modules
  let shared ← host.shared
  installAll (targets artifacts i modules shared)

end Deployment

end NativeExtension

import NativeExtension.Deployment
import NativeExtension.Manifest
import NativeExtension.Project
import NativeExtension.Scan
import NativeExtension.Toolchain

/-!
The whole build of an extension, from its manifest to the files in the directories of the server.
The stages run in order and the first failure ends the run; files of earlier stages stay.
-/
namespace NativeExtension

/-- What a run made. -/
structure PipelineResult where
  identity : Identity
  declarations : List Declaration
  artifacts : BuildArtifacts
  deployed : List DeployedFile
  deriving DecidableEq, Repr

/-- What is known of an extension once its generated source is written. -/
structure Prepared where
  identity : Identity
  declarations : List Declaration
  script : Path
  control : Path
  source : Path
  deriving DecidableEq, Repr

namespace Pipeline

/-- Reads the manifest and the SQL definition of a project and fills its build directory up to the
    generated source. No command runs for it. -/
def prepare (layout : ProjectLayout) : Build Prepared := do
  let identity ← Manifest.readIdentity layout.manifest
  let sql ← Build.orRead (fun e => .project (.unreadableScript layout.script e))
    (← Build.look (·.readText layout.script))
  let declarations ← Scan.declarations sql
  let wrapper ← Scan.wrapper (declarations.map Declaration.functionName)
  let (script, control) ← Toolchain.writeMetadata layout.buildDir layout.script identity
  let source ← Toolchain.writeSource layout.buildDir identity wrapper
  pure { identity, declarations, script, control, source }

/-- Builds and installs the extension of a project. -/
def run (layout : ProjectLayout) (host : HostLayout) (tools : Toolchain.Tools)
    (extra : Option String) :
    Build PipelineResult := do
  let { identity, declarations, script, control, source } ← prepare layout
  let headers ← host.headers
  let object ←
    Toolchain.compileObject tools layout.buildDir source identity headers layout.libraryDir
  let sharedLibrary ←
    Toolchain.linkSharedLibrary tools layout.buildDir object identity layout.libraryDir extra
  let artifacts : BuildArtifacts := { source, object, sharedLibrary, script, control }
  let deployed ← Deployment.deploy artifacts identity host
  Build.say .info ("Extension " ++ identity.name ++ " " ++ identity.version ++ " installed")
  pure { identity, declarations, artifacts, deployed }

end Pipeline

end NativeExtension

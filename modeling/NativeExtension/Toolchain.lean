import NativeExtension.Build
import NativeExtension.Command.Build
import NativeExtension.Control

/-!
The steps that fill the build directory: the metadata, the generated source, the object file and the
shared library.
-/
namespace NativeExtension.Toolchain

/-- Makes the build directory, copies the SQL definition under the name of its version and writes
    the descriptor. -/
def writeMetadata (buildDir script : Path) (i : Identity) : Build (Path × Path) := do
  Build.orSystem (fun e => .metadata (.directory buildDir e))
    (← Build.changeAnyway (·.ensureDirectory buildDir))
  let copy := buildDir.child i.scriptName
  Build.orSystem (fun e => .metadata (.script script copy e))
    (← Build.change (·.copyFile script copy.toString))
  let control := buildDir.child i.controlName
  Build.orSystem (fun e => .metadata (.control control e))
    (← Build.change (·.writeFile control.toString (Control.render i).toUTF8))
  Build.say .info ("Wrote " ++ copy.toString ++ " and " ++ control.toString)
  pure (copy, control)

/-- Writes the generated source, in place of what an earlier run left. -/
def writeSource (buildDir : Path) (i : Identity) (source : String) : Build Path := do
  let path := buildDir.child i.sourceName
  Build.orSystem (fun e => .sourceWrite path e)
    (← Build.change (·.writeFile path.toString source.toUTF8))
  Build.say .info ("Wrote generated source " ++ path.toString)
  pure path

/-- What external tools are run with. -/
structure Tools where
  runner : Command.Runner
  compiler : String
  limit : Option Seconds

/-- Compiles the generated source. The object file must be there afterwards. -/
def compileObject (tools : Tools) (buildDir source : Path) (i : Identity)
    (includeDir libraryDir : Path) : Build Path := do
  let object := buildDir.child i.objectName
  let args := Command.compile tools.compiler source object i includeDir libraryDir
  let _ ← Build.runTool tools.runner args .compile tools.limit
  if !(← Build.orFault (← Build.look (·.isFile object))) then
    Build.failWith (.noObject tools.compiler object args)
  pure object

/-- Links the object file with the static archive of the native library. -/
def linkSharedLibrary (tools : Tools) (buildDir object : Path) (i : Identity) (libraryDir : Path)
    (extra : Option String) : Build Path := do
  if !(← Build.orFault (← Build.look (·.isFile object))) then
    Build.failWith (.objectMissing object)
  let shared := buildDir.child i.sharedLibraryName
  let args := Command.link tools.compiler object shared (Command.archivePath libraryDir i) extra
  let _ ← Build.runTool tools.runner args .link tools.limit
  pure shared

end NativeExtension.Toolchain

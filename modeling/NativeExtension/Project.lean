import NativeExtension.Build

/-!
The layout of a project: its manifest, its one SQL definition in `sql`, the directory of the native
library under `target`, and the build directory in that.
-/
namespace NativeExtension

/-- Where the parts of a project are. -/
structure ProjectLayout where
  directory : Path
  manifest : Path
  script : Path
  libraryDir : Path
  buildDir : Path
  deriving DecidableEq, Repr

namespace Project

/-- The name of the manifest. -/
def manifestName : String := "Cargo.toml"

/-- The directory of the SQL definition. -/
def sqlDirectory : String := "sql"

/-- The directory under which native libraries are built. -/
def targetDirectory : String := "target"

/-- The directory in which the extension is built. -/
def buildSubdirectory : String := "postgres"

/-- What the name of an SQL definition ends in. -/
def scriptSuffix : String := ".sql"

/-- The files in a directory whose names end like those of SQL definitions, in the order given. -/
def scriptsAmong (t : FileTree) (directory : Path) : List String → Except Fault (List String)
  | [] => .ok []
  | name :: rest => do
    let found ←
      if Path.hasSuffix scriptSuffix name then
        t.isFile { directory with parts := directory.parts ++ [name] }
      else pure false
    let others ← scriptsAmong t directory rest
    pure (if found then name :: others else others)

/-- The one SQL definition among the names found in a directory. -/
def onlyScript (directory : Path) (names : List String) : Except ProjectError Path :=
  match names.mergeSort (fun a b => decide (a ≤ b)) with
  | [] => .error (.noScript directory)
  | [name] => .ok { directory with parts := directory.parts ++ [name] }
  | names => .error (.severalScripts directory names)

/-- The SQL definition of a project. -/
def findScript (project : Path) : Build Path := do
  let directory := project.child sqlDirectory
  if !(← Build.orFault (← Build.look (·.isDirectory directory))) then
    Build.failWith (.project (.noSqlDirectory project))
  let names ← Build.orSystem (fun e => .project (.unlistable directory e))
    (← Build.look fun t => do scriptsAmong t directory (← t.list directory))
  match onlyScript directory names with
  | .ok script => pure script
  | .error e => Build.failWith (.project e)

/-- Whether the directory of a project is there. The working directory is there also where it was
    removed. -/
def isThere (t : FileTree) (project : Path) : Except Fault Bool :=
  if t.isAdrift project && project.parts.isEmpty then .ok true else t.isDirectory project

/-- Where the directory of a project is. From a working directory that was removed no way is known
    to it. -/
def location (t : FileTree) (project : Path) : Except Fault Location :=
  if t.isAdrift project then .error (.system .noCurrent)
  else (FileTree.faultAbout project.toString (t.find project.toString)).map Prod.fst

/-- The layout of the project in a directory, for one build profile of its native library. -/
def locate (project : Path) (profile : String) : Build ProjectLayout := do
  if !(← Build.orFault (← Build.look (isThere · project))) then
    Build.failWith (.project (.missing project))
  let location ← Build.orFault (← Build.look (location · project))
  let directory : Path := ⟨.root, location⟩
  let script ← findScript directory
  let libraryDir := (directory.child targetDirectory).child profile
  pure {
    directory
    manifest := directory.child manifestName
    script
    libraryDir
    buildDir := libraryDir.child buildSubdirectory }

end Project

end NativeExtension

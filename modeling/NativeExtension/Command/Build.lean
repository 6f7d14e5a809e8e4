import NativeExtension.Identity
import NativeExtension.Path

/-!
The commands that build an extension. One compiles the generated source to a position-independent
object file, the other links it with the whole static archive: nothing in the object file refers to
the functions of the archive, so that a linker would leave them out.
-/
namespace NativeExtension.Command

/-- The compiler that is used when none is given. -/
def defaultCompiler : String := "gcc"

/-- The pieces of a text between spaces that are not empty. -/
def splitFlags (text : String) : List String :=
  ((text.toList.splitOn ' ').filter (· ≠ [])).map String.ofList

/-- The extra flags for the linker, none when no text is given. -/
def extraFlags (text : Option String) : List String :=
  match text with
  | none => []
  | some text => splitFlags text

/-- Compiles a source file to an object file. -/
def compile (compiler : String) (source object : Path) (i : Identity)
    (includeDir libraryDir : Path) :
    List String :=
  [compiler, "-c", source.toString, "-fPIC", "-o", object.toString, "-I" ++ includeDir.toString,
    "-L" ++ libraryDir.toString, "-l" ++ i.libraryName]

/-- Links an object file and the whole of a static archive to a shared library. -/
def link (compiler : String) (object shared archive : Path) (extra : Option String) : List String :=
  [compiler, object.toString, "-shared", "-o", shared.toString, "-Wl,--whole-archive",
    archive.toString, "-Wl,--no-whole-archive"] ++ extraFlags extra

/-- The static archive of the native library. -/
def archivePath (libraryDir : Path) (i : Identity) : Path :=
  libraryDir.child i.archiveName

end NativeExtension.Command

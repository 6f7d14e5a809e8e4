import NativeExtension.Fields

/-!
What identifies an extension: its name, its description and its version, and the file names made
from them. The name and the version stand in file names, so they hold no path separator.
-/
namespace NativeExtension

/-- A character that separates the parts of a path. -/
def isPathSeparator (c : Char) : Bool := c == '/' || c == '\\'

/-- Whether a text holds a path separator. -/
def hasSeparator (s : String) : Bool := s.toList.any isPathSeparator

/-- What identifies an extension. -/
structure Identity where
  name : String
  description : String
  version : String
  name_nonempty : name ≠ ""
  description_nonempty : description ≠ ""
  version_nonempty : version ≠ ""
  name_plain : hasSeparator name = false
  version_plain : hasSeparator version = false
  deriving DecidableEq, Repr

/-- The fields of an identity, in the order in which they are checked. -/
inductive Field where
  | name
  | description
  | version
  deriving DecidableEq, Repr

/-- The name of a field in messages and documents. -/
def Field.label : Field → String
  | .name => "name"
  | .description => "description"
  | .version => "version"

/-- Whether a field stands in file names. -/
def Field.isFileName : Field → Bool
  | .description => false
  | _ => true

/-- The first thing wrong with what is given for a field. -/
def Field.problem? (field : Field) : Given → Option FieldProblem
  | .absent => some .missing
  | .otherwise => some .notText
  | .text s =>
    if s = "" then some .empty
    else if field.isFileName && hasSeparator s then some .separator
    else none

/-- The identity with the given fields, or all fields that are refused. -/
def Identity.ofFields (name description version : Given) : Except Rejection Identity :=
  match name, description, version with
  | .text n, .text d, .text v =>
    if h : (n ≠ "" ∧ hasSeparator n = false) ∧ d ≠ "" ∧ v ≠ "" ∧ hasSeparator v = false then
      .ok ⟨n, d, v, h.1.1, h.2.1, h.2.2.1, h.1.2, h.2.2.2⟩
    else .error (rejection (.text n) (.text d) (.text v))
  | n, d, v => .error (rejection n d v)
where
  /-- The problems in the order of the fields. -/
  rejection (name description version : Given) : Rejection :=
    [(Field.name, name), (.description, description), (.version, version)].filterMap
      fun (field, given) => (field.problem? given).map (field.label, ·)

namespace Identity

/-- An identity never changes: giving a field another value is refused. A name that starts with an
    underscore is no field, and what it is given changes nothing. -/
def assign (i : Identity) (field : String) : Except Rejection Identity :=
  if field.toList.head? = some '_' then .ok i else .error [(field, .frozen)]

/-- The name as the build tool of the native library spells it. -/
def libraryName (i : Identity) : String :=
  i.name.map fun c => if c == '-' then '_' else c

/-- The file name of the SQL definition of one version. -/
def scriptName (i : Identity) : String := i.name ++ "--" ++ i.version ++ ".sql"

/-- The file name of the descriptor. -/
def controlName (i : Identity) : String := i.name ++ ".control"

/-- The file name of the generated source. -/
def sourceName (i : Identity) : String := i.name ++ ".c"

/-- The file name of the object file. -/
def objectName (i : Identity) : String := i.name ++ ".o"

/-- The file name of the shared library in the build directory. -/
def sharedLibraryName (i : Identity) : String := "lib" ++ i.name ++ ".so"

/-- The file name of the shared library where the server loads it from. -/
def moduleName (i : Identity) : String := i.name ++ ".so"

/-- The file name of the static archive that the native library is built into. -/
def archiveName (i : Identity) : String := "lib" ++ i.libraryName ++ ".a"

end Identity

end NativeExtension

/-!
File-system paths in normal form. Empty parts and `.` are dropped, `..` is kept, since a symbolic
link may stand before it.
-/
namespace NativeExtension

/-- Where a path starts. Two leading slashes are a root of their own; more than two are one. -/
inductive Anchor where
  | relative
  | root
  | doubleRoot
  deriving DecidableEq, Repr

/-- A path: where it starts and the names on the way. -/
structure Path where
  anchor : Anchor
  parts : List String
  deriving DecidableEq, Repr

/-- The parts of a text between slashes. -/
def slashParts (cs : List Char) : List String :=
  (cs.splitOn '/').map String.ofList

/-- The slashes in front of a path. -/
def Anchor.slashes : Anchor → String
  | .relative => ""
  | .root => "/"
  | .doubleRoot => "//"

namespace Path

/-- The start of a path with so many leading slashes. -/
def anchorOf : List Char → Anchor
  | '/' :: '/' :: '/' :: _ => .root
  | '/' :: '/' :: _ => .doubleRoot
  | '/' :: _ => .root
  | _ => .relative

/-- The path that a text names. -/
def ofString (s : String) : Path where
  anchor := anchorOf s.toList
  parts := (slashParts s.toList).filter fun part => part != "" && part != "."

/-- The text of a path; the path without parts is the current directory. -/
def toString (p : Path) : String :=
  match p.anchor, p.parts with
  | .relative, [] => "."
  | anchor, parts => anchor.slashes ++ "/".intercalate parts

instance : ToString Path := ⟨Path.toString⟩

/-- A path taken from a directory; one that starts at a root ignores the directory. -/
def join (directory p : Path) : Path :=
  if p.anchor = .relative then { directory with parts := directory.parts ++ p.parts } else p

/-- The path that a text names, taken from a directory. -/
def child (directory : Path) (text : String) : Path :=
  directory.join (.ofString text)

/-- The last name of a path. -/
def name (p : Path) : String :=
  p.parts.getLastD ""

/-- A path without its last name. -/
def parent (p : Path) : Path :=
  { p with parts := p.parts.dropLast }

/-- Whether a name ends in the given point and letters with something before them. -/
def hasSuffix (suffix name : String) : Bool :=
  suffix.toList.isSuffixOf name.toList && suffix.length < name.length

/-- A path from the root with the names of `p`, each `..` having taken away the name before it. Only
    the text is looked at, no link. -/
def collapse (p : Path) : Path :=
  { p with
    parts := p.parts.foldl
      (fun done part => if part == ".." then done.dropLast else done ++ [part]) [] }

end Path

end NativeExtension

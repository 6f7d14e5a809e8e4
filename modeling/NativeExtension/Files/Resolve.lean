import NativeExtension.Files.SystemError
import NativeExtension.Files.Tree

/-!
From the text of a path to a location. Every name but the last must be a directory or a link to one;
the last one may be missing. Links are followed on the way, and at the end where it is asked for. A
name is looked up only in a directory whose owner may do so.
-/
namespace NativeExtension.FileTree

/-- How many links may be followed on the way to one location. -/
def linkLimit : Nat := 40

/-- The octets that one name may have. -/
def nameLimit : Nat := 255

/-- The octets that a path may have. -/
def pathLimit : Nat := 4095

/-- The names in a text. Behind a slash at the end stands an empty name, for the directory itself. -/
def pathNames (text : String) : List String :=
  let names := (slashParts text.toList).filter (· != "")
  if text.toList.getLast? == some '/' && names != [] then names ++ [""] else names

/-- Where the walk over a text starts. -/
def origin (here : Location) (text : String) : Location :=
  if text.toList.head? == some '/' then [] else here

/-- What a text is to name: the link at its end, what that leads to, or a file that is made where
    there is none, whose name no slash can follow. -/
inductive Aim where
  | link
  | target
  | newFile
  deriving DecidableEq, Repr

/-- Walks over names from a directory on. `follow` walks on behind a link, over the names in the link
    and those that are left. -/
def walkNames (t : FileTree) (aim : Aim) (follow : Location → List String → Except Errno Location)
    (here : Location) : List String → Except Errno Location
  | [] => .ok here
  | name :: rest =>
    if name = "" then walkNames t aim follow here rest
    else if t.isClosed here then .error .accessDenied
    else if name = "." then walkNames t aim follow here rest
    else if name = ".." then walkNames t aim follow here.dropLast rest
    else if aim = .newFile && rest = [""] then .error .isDirectory
    else if !t.hasDirectory here then .error .noEntry
    else if name.utf8ByteSize > nameLimit then .error .nameTooLong
    else
      let next := here ++ [name]
      match t.get? next with
      | none => if rest = [] then .ok next else .error .noEntry
      | some (.directory _) => walkNames t aim follow next rest
      | some (.file ..) | some (.device _) => if rest = [] then .ok next else .error .notDirectory
      | some (.link text) =>
        if rest = [] && aim = .link then .ok next
        else follow (origin here text) (pathNames text ++ rest)

/-- Walks over names from a directory on. `links` is how many links may still be followed. The
    location it gives exists, or its parent is a directory and only its last name is missing. -/
def walk (t : FileTree) (aim : Aim) (links : Nat) (here : Location) (names : List String) :
    Except Errno Location :=
  match links with
  | 0 => t.walkNames aim (fun _ _ => .error .linkLoop) here names
  | links + 1 => t.walkNames aim (fun here names => t.walk aim links here names) here names

@[simp] theorem walk_nil (t : FileTree) (aim : Aim) (links : Nat) (here : Location) :
    t.walk aim links here [] = .ok here := by
  cases links <;> rfl

theorem walk_cons (t : FileTree) (aim : Aim) (links : Nat) (here : Location) (name : String)
    (rest : List String) :
    t.walk aim links here (name :: rest) =
      if name = "" then t.walk aim links here rest
      else if t.isClosed here then .error .accessDenied
      else if name = "." then t.walk aim links here rest
      else if name = ".." then t.walk aim links here.dropLast rest
      else if aim = .newFile && rest = [""] then .error .isDirectory
      else if !t.hasDirectory here then .error .noEntry
      else if name.utf8ByteSize > nameLimit then .error .nameTooLong
      else
        match t.get? (here ++ [name]) with
        | none => if rest = [] then .ok (here ++ [name]) else .error .noEntry
        | some (.directory _) => t.walk aim links (here ++ [name]) rest
        | some (.file ..) | some (.device _) =>
          if rest = [] then .ok (here ++ [name]) else .error .notDirectory
        | some (.link text) =>
          if rest = [] && aim = .link then .ok (here ++ [name])
          else
            match links with
            | 0 => .error .linkLoop
            | links + 1 => t.walk aim links (origin here text) (pathNames text ++ rest) := by
  cases links <;> rfl

/-- The location that a text names. -/
def resolve (t : FileTree) (aim : Aim) (text : String) : Except Errno Location :=
  if text = "" then .error .noEntry
  else if text.utf8ByteSize > pathLimit then .error .nameTooLong
  else t.walk aim linkLimit (origin t.current text) (pathNames text)

/-- The text of a location. -/
def locationText (l : Location) : String := "/" ++ "/".intercalate l

/-- What a text names, links followed, and where it stands. -/
def find (t : FileTree) (text : String) : Except Errno (Location × Entry) := do
  let l ← t.resolve .target text
  match t.get? l with
  | some e => .ok (l, e)
  | none => .error .noEntry

end NativeExtension.FileTree

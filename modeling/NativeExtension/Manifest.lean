import NativeExtension.Build
import NativeExtension.Toml.Reader

/-!
The manifest of a project: a TOML document whose `package` table names the extension.
-/
namespace NativeExtension.Manifest

/-- The text of an entry, if it is one and not empty. -/
def textEntry? (package : Toml.Table) (field : Field) : Option String :=
  match package.get? field.label with
  | some (.text s) => if s = "" then none else some s
  | _ => none

/-- The identity in a document. The entries are looked for in the order of the fields. -/
def identity (source : String) (document : Toml.Table) : Except ManifestError Identity :=
  match document.get? "package" with
  | some (.table package) =>
    match textEntry? package .name, textEntry? package .description,
      textEntry? package .version with
    | none, _, _ => .error (.noEntry source .name)
    | _, none, _ => .error (.noEntry source .description)
    | _, _, none => .error (.noEntry source .version)
    | some name, some description, some version =>
      match Identity.ofFields (.text name) (.text description) (.text version) with
      | .ok i => .ok i
      | .error ((field, problem) :: _) => .error (.rejected source field problem)
      | .error [] => .error (.noPackage source)
  | _ => .error (.noPackage source)

/-- Reads a manifest with a reader of documents. -/
def parseWith (read : String → Except Toml.Failure Toml.Table) (source text : String) :
    Except Failure Identity :=
  match read text with
  | .error (.malformed e) => .error (.build (.manifest (.malformed source e)))
  | .error (.integerTooLong digits) =>
    .error (.fault (.badValue (Toml.integerTooLongMessage digits)))
  | .error .tooDeep => .error (.fault (.tooLarge .nesting))
  | .ok document => (identity source document).mapError fun e => .build (.manifest e)

/-- The identity in the text of a manifest. -/
def parse (source text : String) : Except Failure Identity :=
  parseWith Toml.read source text

/-- The identity in the manifest at a path. -/
def readIdentity (path : Path) : Build Identity := do
  let text ← Build.orRead (fun e => .manifest (.unreadable path e)) (← Build.look (·.readText path))
  let i ← Build.ofResult (parse path.toString text)
  Build.say .info ("Extension " ++ i.name ++ " " ++ i.version ++ " from " ++ path.toString)
  pure i

end NativeExtension.Manifest

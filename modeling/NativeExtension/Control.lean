import NativeExtension.Identity
import NativeExtension.Text.Blank
import NativeExtension.Text.Lines

/-!
The descriptor that tells the server about an extension: lines of the form `key = 'value'`, where a
quote inside a value is written twice. Reading takes any order, blanks, comments and unknown keys.
-/
namespace NativeExtension.Control

/-- Every quote twice. -/
def doubleQuotes : List Char → List Char
  | [] => []
  | c :: rest => if c = '\x27' then c :: c :: doubleQuotes rest else c :: doubleQuotes rest

/-- Every pair of quotes once; a quote that stands alone is kept. -/
def halveQuotes : List Char → List Char
  | '\x27' :: '\x27' :: rest => '\x27' :: halveQuotes rest
  | c :: rest => c :: halveQuotes rest
  | [] => []

/-- A value between quotes. -/
def quote (cs : List Char) : List Char :=
  '\x27' :: doubleQuotes cs ++ ['\x27']

/-- A value without the blanks around it and, where it has both, without its quotes. -/
def unquote (cs : List Char) : List Char :=
  match Text.trim cs with
  | '\x27' :: rest =>
    if rest.getLast? = some '\x27' then halveQuotes rest.dropLast else '\x27' :: rest
  | cs => cs

/-- What the server puts in place of its library directory. -/
def libraryDirectory : String := "$libdir/"

/-- The lines of the descriptor of an extension. -/
def descriptorLines (i : Identity) : List (List Char) :=
  ["# ".toList ++ i.name.toList ++ " extension".toList,
   "comment = ".toList ++ quote i.description.toList,
   "default_version = ".toList ++ quote i.version.toList,
   "module_pathname = ".toList ++ quote (libraryDirectory.toList ++ i.name.toList),
   "relocatable=true".toList]

/-- The descriptor of an extension. -/
def render (i : Identity) : String :=
  String.ofList ((descriptorLines i).flatMap (· ++ ['\n']))

/-- Keys with their values, in the order in which the keys first occur. -/
abbrev Entries := List (String × String)

/-- Gives a key a value. A key that is there keeps its place. -/
def Entries.put (entries : Entries) (key value : String) : Entries :=
  if entries.any (·.1 == key) then
    entries.map fun (k, v) => if k == key then (k, value) else (k, v)
  else entries ++ [(key, value)]

/-- The entry of a line, if it holds one: no blank line, no comment, and an equals sign. -/
def lineEntry? (raw : List Char) : Option (String × String) :=
  match Text.trim raw with
  | [] => none
  | '#' :: _ => none
  | cs =>
    match cs.dropWhile (· != '=') with
    | [] => none
    | _ :: value =>
      some (String.ofList (Text.trim (cs.takeWhile (· != '='))), String.ofList (unquote value))

/-- The entries of a descriptor; the last value of a key wins. -/
def parseEntries (text : String) : Entries :=
  ((Text.lines text.toList).filterMap lineEntry?).foldl (fun entries (k, v) => entries.put k v) []

/-- Why a descriptor names no extension. -/
inductive Fault where
  | missing (key : String)
  | rejected (r : Rejection)
  deriving DecidableEq, Repr

/-- The text about a key that is missing. -/
def missingMessage (key : String) : String := "Control file has no " ++ key ++ " entry"

/-- A path of a module without the library directory in front. -/
def withoutLibraryDirectory (s : String) : String :=
  let directory := libraryDirectory.toList
  if directory.isPrefixOf s.toList then String.ofList (s.toList.drop directory.length) else s

/-- The identity that a descriptor was rendered from. -/
def parse (text : String) : Except Fault Identity :=
  let entries := parseEntries text
  match entries.lookup "comment", entries.lookup "default_version",
    entries.lookup "module_pathname" with
  | none, _, _ => .error (.missing "comment")
  | _, none, _ => .error (.missing "default_version")
  | _, _, none => .error (.missing "module_pathname")
  | some comment, some version, some pathname =>
    (Identity.ofFields (.text (withoutLibraryDirectory pathname)) (.text comment)
      (.text version)).mapError
      .rejected

end NativeExtension.Control

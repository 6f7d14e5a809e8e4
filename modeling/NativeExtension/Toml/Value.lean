/-!
TOML documents as values. Tables keep their entries in the order of the document.
-/
namespace NativeExtension.Toml

/-- A value of a document. Numbers that are no integers, dates and times are kept as written. -/
inductive Value where
  | text (s : String)
  | boolean (b : Bool)
  | integer (n : Int)
  | float (literal : String)
  | moment (literal : String)
  | array (items : List Value)
  | table (entries : List (String × Value))
  deriving Inhabited

/-- The entries of a table. -/
abbrev Table := List (String × Value)

/-- The value of a key. -/
def Table.get? (t : Table) (key : String) : Option Value :=
  t.lookup key

/-- A table with another value at a key that it has. -/
def Table.replace (t : Table) (key : String) (value : Value) : Table :=
  t.map fun (k, v) => if k == key then (k, value) else (k, v)

/-- Whether a value is a table or an array. Such a value is closed where it is written: later
    statements add nothing to it. -/
def Value.isContainer : Value → Bool
  | .array _ | .table _ => true
  | _ => false

end NativeExtension.Toml

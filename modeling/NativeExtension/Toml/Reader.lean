import NativeExtension.Fault
import NativeExtension.Toml.Namespace
import NativeExtension.Toml.Scalar
import NativeExtension.Text.Lines

/-!
Reading a document: values that hold other values, statements, and the document as a whole.
`read` gives the root table, or the first problem and its place. Values are read by calls nested like
the values, of which there may be so many.
-/
namespace NativeExtension.Toml

/-- Drops blanks, line ends and comments, as often as they follow each other. -/
def skipGaps : (fuel : Nat) → List Char → Except Stop (List Char)
  | 0, cs => .ok cs
  | fuel + 1, cs => do
    let rest ← skipComment (cs.dropWhile isGap)
    if rest.length == cs.length then pure rest else skipGaps fuel rest

/-- Drops blanks, line ends and comments. -/
def skipArrayGap (cs : List Char) : Except Stop (List Char) :=
  skipGaps (cs.length + 1) cs

/-- All but the last part of a key, and the last part. -/
def splitKey (key : List String) : List String × String :=
  (key.dropLast, key.getLastD "")

/-- Adds an entry to an inline table. -/
def addInline (ns : Namespace) (t : Table) (key : List String) (value : Value) :
    Except Problem Table :=
  let (parents, last) := splitKey key
  if ns.isFrozen key then .error (.immutableNamespace key)
  else t.modifyAt false .overwritesValue (Table.addNew (.duplicateInlineKey last) last value) parents

/-- Places a problem in front of the unread characters. -/
def placed {α : Type} (unread : List Char) : Except Problem α → Except Stop α
  | .ok a => .ok a
  | .error problem => stopAt problem unread

/-- The calls that an array takes, in which its values are read, and those of an inline table. -/
def arrayCalls : Nat := 2

@[inherit_doc arrayCalls]
def inlineTableCalls : Nat := 3

/-- What reading gives with so many calls less, if there are as many. -/
def nested {α : Type} (taken calls : Nat) (read : Nat → Except Stop α) : Except Stop α :=
  if calls < taken then .error .tooDeep else read (calls - taken)

mutual

/-- A value. Fuel is spent on every value and on every element, and each takes a character at least,
    so that two units for each unread character and two more are enough. `calls` is how many calls
    may still be nested. -/
def readValue : (fuel calls : Nat) → List Char → Except Stop (Value × List Char)
  | 0, _, unread => stopAt .invalidValue unread
  | fuel + 1, calls, cs =>
    match readString? cs with
    | some reading => do
      let (s, rest) ← reading
      pure (.text s, rest)
    | none =>
      match cs with
      | '[' :: rest => nested arrayCalls calls fun calls => do
        let rest ← skipArrayGap rest
        readElements fuel calls [] rest
      | '\x7b' :: rest => nested inlineTableCalls calls fun calls =>
        match skipBlanks rest with
        | '\x7d' :: rest => .ok (.table [], rest)
        | rest => readInlineEntries fuel calls .empty [] rest
      | cs => readAtom cs

/-- The rest of an array; `items` holds the elements before it in reverse. -/
def readElements :
    (fuel calls : Nat) → (items : List Value) → List Char → Except Stop (Value × List Char)
  | 0, _, _, unread => stopAt .unclosedArray unread
  | fuel + 1, calls, items, cs =>
    match cs with
    | ']' :: rest => .ok (.array items.reverse, rest)
    | cs => do
      let (value, rest) ← readValue fuel calls cs
      match ← skipArrayGap rest with
      | ']' :: rest => pure (.array (value :: items).reverse, rest)
      | ',' :: rest => do
        let rest ← skipArrayGap rest
        readElements fuel calls (value :: items) rest
      | rest => stopAt .unclosedArray rest

/-- The rest of an inline table from a key on; `entries` holds those before it. -/
def readInlineEntries : (fuel calls : Nat) → Namespace → (entries : Table) → List Char →
    Except Stop (Value × List Char)
  | 0, _, _, _, unread => stopAt .unclosedInlineTable unread
  | fuel + 1, calls, ns, entries, cs => do
    let (key, rest) ← readKey cs
    match rest with
    | '=' :: rest => do
      let (value, rest) ← readValue fuel calls (skipBlanks rest)
      let entries ← placed rest (addInline ns entries key value)
      match skipBlanks rest with
      | '\x7d' :: rest => pure (.table entries, rest)
      | ',' :: rest =>
        let ns := if value.isContainer then ns.freeze key else ns
        readInlineEntries fuel calls ns entries (skipBlanks rest)
      | rest => stopAt .unclosedInlineTable rest
    | rest => stopAt .expectedEquals rest

end

/-- What was read of a document: its root table, what may still be added to it, and the table that
    the last header opened. -/
structure Draft where
  root : Table
  names : Namespace
  header : List String

/-- The header of a table. -/
def Draft.openTable (d : Draft) (key : List String) : Except Problem Draft :=
  if d.names.isDeclared key || d.names.isFrozen key then .error (.declaredTwice key)
  else do
    let root ← d.root.modifyAt true .overwritesValue .ok key
    pure ⟨root, d.names.declare key, key⟩

/-- The header of an element of an array of tables. -/
def Draft.openElement (d : Draft) (key : List String) : Except Problem Draft :=
  if d.names.isFrozen key then .error (.immutableNamespace key)
  else do
    let (parents, last) := splitKey key
    let root ← d.root.modifyAt true .overwritesValue (Table.appendTable .overwritesValue last) parents
    pure ⟨root, (d.names.forget key).declare key, key⟩

/-- Marks the tables that a dotted key makes, unless one of them was declared by a header. -/
def markParents : Namespace → List (List String) → Except Problem Namespace
  | ns, [] => .ok ns
  | ns, key :: keys =>
    if ns.isDeclared key then .error (.redefinesNamespace key)
    else markParents (ns.declareLater key) keys

/-- An entry under the header. -/
def Draft.add (d : Draft) (key : List String) (value : Value) : Except Problem Draft := do
  let (parents, last) := splitKey key
  let opened := (List.range parents.length).map fun i => d.header ++ parents.take (i + 1)
  let names ← markParents d.names opened
  let parent := d.header ++ parents
  if names.isFrozen parent then throw (.immutableNamespace parent)
  let root ← d.root.modifyAt true .overwritesValue (Table.addNew .overwritesValue last value) parent
  pure ⟨root, if value.isContainer then names.freeze (d.header ++ key) else names, d.header⟩

/-- A header or an entry, from its first character on. -/
def readStatement (d : Draft) (cs : List Char) : Except Stop (Draft × List Char) :=
  match cs with
  | '[' :: '[' :: rest => do
    let (key, rest) ← readKey (skipBlanks rest)
    let d ← placed rest ({ d with names := d.names.settle }.openElement key)
    match rest with
    | ']' :: ']' :: rest => pure (d, rest)
    | rest => stopAt .unclosedArrayHeader rest
  | '[' :: rest => do
    let (key, rest) ← readKey (skipBlanks rest)
    let d ← placed rest ({ d with names := d.names.settle }.openTable key)
    match rest with
    | ']' :: rest => pure (d, rest)
    | rest => stopAt .unclosedTableHeader rest
  | '#' :: _ => pure (d, cs)
  | c :: _ =>
    if isBareKeyChar c || c == '"' || c == '\x27' then do
      let (key, rest) ← readKey cs
      match rest with
      | '=' :: rest => do
        let (value, rest) ← readValue (2 * rest.length + 2) callLimit (skipBlanks rest)
        let d ← placed rest (d.add key value)
        pure (d, rest)
      | rest => stopAt .expectedEquals rest
    else stopAt .invalidStatement cs
  | [] => pure (d, [])

/-- The statements of a document, each on a line of its own. Fuel is spent on every line. -/
def readStatements : (fuel : Nat) → Draft → List Char → Except Stop Table
  | 0, d, _ => .ok d.root
  | fuel + 1, d, cs =>
    match skipBlanks cs with
    | [] => .ok d.root
    | '\n' :: rest => readStatements fuel d rest
    | cs => do
      let (d, rest) ← readStatement d cs
      match ← skipComment (skipBlanks rest) with
      | [] => pure d.root
      | '\n' :: rest => readStatements fuel d rest
      | rest => stopAt .expectedEndOfStatement rest

/-- A line end written as carriage return and line feed becomes a line feed. -/
def joinLineEnds : List Char → List Char
  | [] => []
  | '\r' :: '\n' :: rest => '\n' :: joinLineEnds rest
  | c :: rest => c :: joinLineEnds rest

/-- The root table of a document. -/
def read (document : String) : Except Failure Table :=
  let cs := joinLineEnds document.toList
  match readStatements (cs.length + 1) ⟨[], .empty, []⟩ cs with
  | .ok root => .ok root
  | .error (.malformed problem remaining) => .error (.malformed ⟨problem, .ofRemaining cs remaining⟩)
  | .error (.integerTooLong digits) => .error (.integerTooLong digits)
  | .error .tooDeep => .error .tooDeep

end NativeExtension.Toml

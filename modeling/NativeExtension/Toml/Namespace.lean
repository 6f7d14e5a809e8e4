import NativeExtension.Toml.Error
import NativeExtension.Toml.Value

/-!
Which statements of a document may add to which tables. A value written in one piece is closed for
good, and a table may be declared once.
-/
namespace NativeExtension.Toml

/-- The keys under which nothing may be added any more, and those that may not be declared again. A
    key made by a dotted key becomes declared when the next header is read. -/
structure Namespace where
  frozen : List (List String)
  declared : List (List String)
  pending : List (List String)

namespace Namespace

/-- A document in which nothing is declared. -/
def empty : Namespace := ⟨[], [], []⟩

/-- Whether a key, or one above it, is closed. -/
def isFrozen (ns : Namespace) (key : List String) : Bool :=
  ns.frozen.any (·.isPrefixOf key)

/-- Whether a key was declared. -/
def isDeclared (ns : Namespace) (key : List String) : Bool :=
  ns.declared.contains key

/-- Closes a key and everything under it. -/
def freeze (ns : Namespace) (key : List String) : Namespace :=
  { ns with frozen := key :: ns.frozen }

/-- Declares a key. -/
def declare (ns : Namespace) (key : List String) : Namespace :=
  { ns with declared := key :: ns.declared }

/-- Declares a key as soon as the next header is read. -/
def declareLater (ns : Namespace) (key : List String) : Namespace :=
  { ns with pending := key :: ns.pending }

/-- Declares the keys that waited for a header. -/
def settle (ns : Namespace) : Namespace :=
  { ns with declared := ns.pending ++ ns.declared, pending := [] }

/-- Forgets what is known of a key and of everything under it. -/
def forget (ns : Namespace) (key : List String) : Namespace :=
  { ns with
    frozen := ns.frozen.filter (!key.isPrefixOf ·)
    declared := ns.declared.filter (!key.isPrefixOf ·) }

end Namespace

/-- Changes the table at a key, making the tables that are missing on the way. Where `throughArrays`
    holds, an array on the way stands for its last element. A value that is no table blocks the way.
    -/
def Table.modifyAt {ε : Type} (throughArrays : Bool) (blocked : ε)
    (change : Table → Except ε Table) :
    List String → Table → Except ε Table
  | [], t => change t
  | k :: ks, t =>
    match t.get? k with
    | none => do
      let inner ← modifyAt throughArrays blocked change ks []
      pure (t ++ [(k, .table inner)])
    | some (.table inner) => do
      let inner ← modifyAt throughArrays blocked change ks inner
      pure (t.replace k (.table inner))
    | some (.array items) =>
      match throughArrays, items.getLast? with
      | true, some (.table inner) => do
        let inner ← modifyAt throughArrays blocked change ks inner
        pure (t.replace k (.array (items.dropLast ++ [.table inner])))
      | _, _ => .error blocked
    | some _ => .error blocked

/-- Adds an entry to a table that has none of that key. -/
def Table.addNew {ε : Type} (taken : ε) (key : String) (value : Value) (t : Table) :
    Except ε Table :=
  match t.get? key with
  | some _ => .error taken
  | none => .ok (t ++ [(key, value)])

/-- Adds an empty table at the end of the array of a key, which is made if it is missing. -/
def Table.appendTable {ε : Type} (blocked : ε) (key : String) (t : Table) : Except ε Table :=
  match t.get? key with
  | none => .ok (t ++ [(key, .array [.table []])])
  | some (.array items) => .ok (t.replace key (.array (items ++ [.table []])))
  | some _ => .error blocked

end NativeExtension.Toml

import NativeExtension.Path

/-!
A file system as a value: what stands at each location. Locations are names from the root down. The
view is `get?`, and every change is described by what it does to the view.
-/
namespace NativeExtension

/-- The names from the root down to an entry. -/
abbrev Location := List String

/-- What stands at a location. Directories and files have permission bits, of which those of the
    owner count. A device keeps nothing that is written to it; an endless one reads as zeros without
    end, any other as nothing. -/
inductive Entry where
  | directory (mode : Nat)
  | file (content : ByteArray) (mode : Nat)
  | link (target : String)
  | device (endless : Bool)

/-- Entries are compared by what they hold. -/
instance : DecidableEq Entry
  | .directory m, .directory m' =>
    if h : m = m' then isTrue (by rw [h]) else isFalse fun e => h (by injection e)
  | .file c m, .file c' m' =>
    if h : c.data = c'.data ∧ m = m' then isTrue (by rw [ByteArray.ext h.1, h.2])
    else isFalse fun e => h (by injection e with hc hm; exact ⟨congrArg ByteArray.data hc, hm⟩)
  | .link s, .link s' =>
    if h : s = s' then isTrue (by rw [h]) else isFalse fun e => h (by injection e)
  | .device b, .device b' =>
    if h : b = b' then isTrue (by rw [h]) else isFalse fun e => h (by injection e)
  | .device _, .directory _ => isFalse nofun
  | .device _, .file .. => isFalse nofun
  | .device _, .link _ => isFalse nofun
  | .directory _, .device _ => isFalse nofun
  | .file .., .device _ => isFalse nofun
  | .link _, .device _ => isFalse nofun
  | .directory _, .file .. => isFalse nofun
  | .directory _, .link _ => isFalse nofun
  | .file .., .directory _ => isFalse nofun
  | .file .., .link _ => isFalse nofun
  | .link _, .directory _ => isFalse nofun
  | .link _, .file .. => isFalse nofun

/-- Whether an entry is a directory. -/
def Entry.isDirectory : Entry → Bool
  | .directory _ => true
  | _ => false

/-- The random characters in the name of a staging file. -/
structure Suffix where
  text : String
  length_eq : text.length = 8
  plain : ∀ c ∈ text.toList, c.isAlphanum ∨ c = '_'

namespace Suffix

/-- The `i`-th digit of a number, the lowest first, and `X` behind the last one. -/
def character (n i : Nat) : Char :=
  if n / Nat.pow 10 i = 0 then 'X' else Nat.digitChar (n / Nat.pow 10 i % 10)

theorem isAlphanum_character (n i : Nat) : (character n i).isAlphanum = true := by
  have hdigits : ∀ d : Fin 10, (Nat.digitChar d).isAlphanum = true := by decide
  unfold character
  split
  · rfl
  · exact hdigits ⟨n / Nat.pow 10 i % 10, Nat.mod_lt _ (by decide)⟩

/-- The lowest eight digits of a number, the lowest first, filled up with `X`. -/
def ofNumber (n : Nat) : Suffix where
  text := String.ofList ((List.range 8).map (character n))
  length_eq := by simp
  plain := by
    intro c hc
    rw [String.toList_ofList] at hc
    obtain ⟨i, -, rfl⟩ := List.mem_map.mp hc
    exact .inl (isAlphanum_character n i)

theorem no_slash (suffix : Suffix) : '/' ∉ suffix.text.toList := by
  intro hslash
  exact absurd (suffix.plain _ hslash) (by decide)

end Suffix

/-- A file system, and the directory in which relative paths start. Where nothing stands there, that
    directory was removed. `draws` are the characters that are drawn one after the other for staging
    files beside a destination. -/
@[ext]
structure FileTree where
  entries : List (Location × Entry)
  current : Location
  draws : Path → Nat → Suffix := fun _ n => .ofNumber n

namespace FileTree

/-- Whether permission bits let the owner read. -/
def mayRead (mode : Nat) : Bool := mode &&& 0o400 != 0

/-- Whether permission bits let the owner write, or add entries to a directory and take them away. -/
def mayWrite (mode : Nat) : Bool := mode &&& 0o200 != 0

/-- Whether permission bits let the owner execute, or look names up in a directory. -/
def mayExecute (mode : Nat) : Bool := mode &&& 0o100 != 0

/-- The permission bits of directories that are made. -/
def newDirectoryMode : Nat := 0o755

/-- What stands at a location. The root is always a directory. -/
def get? (t : FileTree) (l : Location) : Option Entry :=
  if l = [] then some (.directory newDirectoryMode) else t.entries.lookup l

/-- Whether a directory stands at a location. -/
def hasDirectory (t : FileTree) (l : Location) : Bool :=
  (t.get? l).any Entry.isDirectory

/-- Whether a directory stands at a location in which no names may be looked up. -/
def isClosed (t : FileTree) (l : Location) : Bool :=
  match t.get? l with
  | some (.directory mode) => !mayExecute mode
  | _ => false

/-- Whether an entry may be made at a location or taken from it. -/
def mayChange (t : FileTree) (l : Location) : Bool :=
  match t.get? l.dropLast with
  | some (.directory mode) => mayWrite mode
  | _ => false

/-- Whether a path is taken from a working directory that was removed. -/
def isAdrift (t : FileTree) (path : Path) : Bool :=
  path.anchor == .relative && !t.hasDirectory t.current

/-- Puts an entry at a location in place of what stands there. -/
def put (t : FileTree) (l : Location) (e : Entry) : FileTree :=
  { t with entries := (l, e) :: t.entries.filter (·.1 ≠ l) }

/-- Takes away what stands at a location. -/
def remove (t : FileTree) (l : Location) : FileTree :=
  { t with entries := t.entries.filter (·.1 ≠ l) }

/-- The names in a directory, in no particular order. -/
def names (t : FileTree) (l : Location) : List String :=
  t.entries.filterMap fun (location, _) =>
    if location.dropLast = l then location.getLast? else none

theorem lookup_filter_ne_self (entries : List (Location × Entry)) (l : Location) :
    (entries.filter (·.1 ≠ l)).lookup l = none := by
  induction entries with
  | nil => rfl
  | cons e rest ih =>
    obtain ⟨k, v⟩ := e
    by_cases h : k = l
    · simpa [h] using ih
    · have hne : (l == k) = false := by simpa using fun h' => h h'.symm
      simpa [h, List.lookup_cons, hne] using ih

theorem lookup_filter_ne {entries : List (Location × Entry)} {l m : Location} (h : m ≠ l) :
    (entries.filter (·.1 ≠ l)).lookup m = entries.lookup m := by
  induction entries with
  | nil => rfl
  | cons e rest ih =>
    obtain ⟨k, v⟩ := e
    by_cases hk : k = l
    · subst hk
      have hne : (m == k) = false := by simpa using h
      simpa [List.lookup_cons, hne] using ih
    · by_cases hm : m = k
      · simp [hk, hm]
      · have hne : (m == k) = false := by simpa using hm
        simpa [hk, List.lookup_cons, hne] using ih

@[simp] theorem get?_put_self {t : FileTree} {l : Location} (h : l ≠ []) (e : Entry) :
    (t.put l e).get? l = some e := by
  simp [get?, put, h]

theorem get?_put_of_ne {t : FileTree} {l m : Location} (h : m ≠ l) (e : Entry) :
    (t.put l e).get? m = t.get? m := by
  have hne : (m == l) = false := by simpa using h
  by_cases hm : m = []
  · simp [get?, hm]
  · simpa [get?, put, hm, List.lookup_cons, hne] using lookup_filter_ne h

@[simp] theorem get?_remove_self {t : FileTree} {l : Location} (h : l ≠ []) :
    (t.remove l).get? l = none := by
  simpa [get?, remove, h] using lookup_filter_ne_self t.entries l

theorem get?_remove_of_ne {t : FileTree} {l m : Location} (h : m ≠ l) :
    (t.remove l).get? m = t.get? m := by
  by_cases hm : m = []
  · simp [get?, hm]
  · simpa [get?, remove, hm] using lookup_filter_ne h

theorem put_put (t : FileTree) (l : Location) (e f : Entry) : (t.put l e).put l f = t.put l f := by
  simp [put, List.filter_filter]

/-- What was put where nothing stood can be taken away without a trace. -/
theorem remove_put {t : FileTree} {l : Location} (h : t.get? l = none) (e : Entry) :
    (t.put l e).remove l = t := by
  have hl : l ≠ [] := by
    rintro rfl
    simp [get?] at h
  have hkeys := List.lookup_eq_none_iff.mp (show t.entries.lookup l = none by simpa [get?, hl] using h)
  have hentries : t.entries.filter (·.1 ≠ l) = t.entries := by
    rw [List.filter_eq_self]
    intro x hx
    have hne : l ≠ x.1 := by simpa using hkeys x hx
    simpa using hne.symm
  calc (t.put l e).remove l = { t with entries := t.entries.filter (·.1 ≠ l) } := by
        simp [remove, put, List.filter_filter]
    _ = t := by rw [hentries]

end FileTree

end NativeExtension

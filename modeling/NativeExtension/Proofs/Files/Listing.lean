import Mathlib.Data.List.Nodup
import NativeExtension.Proofs.Files.Directory
import NativeExtension.Proofs.Files.Faults

namespace NativeExtension

namespace Path

/-- The path of an entry of a directory, as a listing of the directory gives it. -/
def entry (directory : Path) (name : String) : Path :=
  { directory with parts := directory.parts ++ [name] }

theorem toString_entry {directory : Path} (h : directory.parts ≠ []) (name : String) :
    (directory.entry name).toString = directory.toString ++ "/" ++ name := by
  have hentry : (directory.entry name).parts ≠ [] := by simp [entry]
  rw [toString_of_parts_ne_nil hentry, toString_of_parts_ne_nil h, entry,
    String.intercalate_append_of_ne_nil h (by simp)]
  simp [String.append_assoc]

end Path

namespace FileTree

variable {t u : FileTree} {path : Path}

section Order

/-- Two file systems with the same at every location. Only the order may differ in which they list
    the names in a directory. -/
structure SameEntries (t u : FileTree) : Prop where
  get? : ∀ l, u.get? l = t.get? l
  current : u.current = t.current
  draws : u.draws = t.draws

namespace SameEntries

theorem sameWays (h : SameEntries t u) : SameWays t u :=
  ⟨fun l => congrArg wayOf (h.get? l), h.current, h.draws⟩

theorem symm (h : SameEntries t u) : SameEntries u t :=
  ⟨fun l => (h.get? l).symm, h.current.symm, h.draws.symm⟩

theorem resolve (h : SameEntries t u) (aim : Aim) (text : String) :
    u.resolve aim text = t.resolve aim text := by
  obtain ⟨m, hbars⟩ | hsame := bars_or_resolve_eq t aim text
  · -- the error of a barred walk tells a missing entry from one that is no directory
    rw [hbars.resolve, (hbars.sameWays h.sameWays).resolve, h.get?]
  · exact hsame u h.sameWays

theorem find (h : SameEntries t u) (text : String) : u.find text = t.find text := by
  simp only [FileTree.find, h.resolve, h.get?]

end SameEntries

theorem lookup_perm {entries entries' : List (Location × Entry)} (hperm : entries'.Perm entries)
    (hnodup : (entries.map Prod.fst).Nodup) (l : Location) :
    entries'.lookup l = entries.lookup l := by
  induction hperm with
  | nil => rfl
  | cons x _ ih =>
    simp only [List.map_cons, List.nodup_cons] at hnodup
    obtain ⟨k, e⟩ := x
    rw [List.lookup_cons, List.lookup_cons, ih hnodup.2]
  | swap x y rest =>
    obtain ⟨⟨k, e⟩, k', e'⟩ := x, y
    have hne : k ≠ k' := by
      rintro rfl
      simp at hnodup
    by_cases hk : l = k
    · subst hk
      simp [List.lookup_cons, beq_eq_false_iff_ne.mpr hne]
    · simp [List.lookup_cons, beq_eq_false_iff_ne.mpr hk]
  | trans _ hsecond ihfirst ihsecond =>
    rw [ihfirst ((hsecond.map Prod.fst).nodup_iff.mpr hnodup), ihsecond hnodup]

/-- Entries that stand at different locations may be kept in any order. -/
theorem sameEntries_of_perm {entries entries' : List (Location × Entry)} {current : Location}
    {draws : Path → Nat → Suffix} (hperm : entries'.Perm entries)
    (hnodup : (entries.map Prod.fst).Nodup) :
    SameEntries ⟨entries, current, draws⟩ ⟨entries', current, draws⟩ where
  get? l := by simp only [FileTree.get?, lookup_perm hperm hnodup]
  current := rfl
  draws := rfl

end Order

/-- The names in a directory are those under which something stands there. -/
theorem mem_names_iff {l : Location} {name : String} :
    name ∈ t.names l ↔ ∃ e, t.get? (l ++ [name]) = some e := by
  have hat (location : Location) :
      (if location.dropLast = l then location.getLast? else none) = some name ↔
        location = l ++ [name] := by
    split
    next hl =>
      subst hl
      rw [List.getLast?_eq_some_iff]
      constructor
      · rintro ⟨front, rfl⟩
        simp
      · intro h
        exact ⟨_, h⟩
    next hl =>
      refine iff_of_false (by simp) ?_
      rintro rfl
      simp at hl
  have hne : l ++ [name] ≠ [] := by simp
  simp only [names, List.mem_filterMap, hat, get?, hne, if_false, ← Option.isSome_iff_exists,
    List.lookup_isSome_iff, beq_iff_eq]
  simp only [eq_comm]

theorem checkNul_eq_ok_iff {text : String} : checkNul text = .ok () ↔ '\x00' ∉ text.toList := by
  unfold checkNul
  split
  next hnul => exact iff_of_false nofun fun hfree => hfree (by simpa using hnul)
  next hfree => exact iff_of_true rfl (by simpa using hfree)

theorem list_eq_ok_iff {listing : List String} : t.list path = .ok listing ↔
    '\x00' ∉ path.toString.toList ∧
      ∃ d mode, t.find path.toString = .ok (d, .directory mode) ∧ mayRead mode = true ∧
        t.names d = listing := by
  constructor
  · intro h
    obtain ⟨_, hnul, h⟩ := bind_eq_ok_iff.mp h
    obtain ⟨⟨d, e⟩, hfind, h⟩ := bind_eq_ok_iff.mp h
    rw [faultAbout_eq_ok_iff] at hfind
    cases e with
    | directory mode =>
      dsimp only at h
      split at h
      next hread =>
        exact ⟨checkNul_eq_ok_iff.mp hnul, d, mode, hfind, hread, pure_eq_ok_iff.mp h⟩
      next => exact absurd h throw_ne_ok
    | file | link | device => exact absurd h throw_ne_ok
  · rintro ⟨hfree, d, mode, hfind, hread, rfl⟩
    refine bind_eq_ok_iff.mpr ⟨(), checkNul_eq_ok_iff.mpr hfree, ?_⟩
    exact bind_eq_ok_iff.mpr ⟨_, faultAbout_eq_ok_iff.mpr hfind, by simp [hread, pure, Except.pure]⟩

/-- A path to a regular file, over whatever links. -/
def LeadsToFile (t : FileTree) (path : Path) : Prop :=
  ∃ l content mode, t.find path.toString = .ok (l, .file content mode)

/-- The errors that only tell that a path leads nowhere. -/
def nowhereErrors : List Errno := [.noEntry, .notDirectory, .linkLoop]

theorem mem_nowhereErrors {text : String} {e : Errno} (h : t.find text = .error e)
    (hlong : e ≠ .nameTooLong) (hclosed : e ≠ .accessDenied) : e ∈ nowhereErrors := by
  have hway := find_raises text e h
  simp only [wayErrors, nowhereErrors, List.mem_cons, List.not_mem_nil, or_false] at hway ⊢
  tauto

/-- Whether a path names a regular file is answered where it leads to something or nowhere. -/
theorem isFile_answers (hnul : '\x00' ∉ path.toString.toList)
    (herrors : ∀ e, t.find path.toString = .error e → e ∈ nowhereErrors) :
    ∃ answer, t.isFile path = .ok answer ∧ (answer = true ↔ t.LeadsToFile path) := by
  have hfree : path.toString.toList.contains '\x00' = false := by simpa using hnul
  unfold isFile status? LeadsToFile
  simp only [hfree]
  rcases hfind : t.find path.toString with e | ⟨l, e⟩
  · refine ⟨false, ?_, by simp⟩
    have hnowhere := herrors e hfind
    simp only [nowhereErrors, List.mem_cons, List.not_mem_nil, or_false] at hnowhere
    obtain rfl | rfl | rfl := hnowhere <;> rfl
  · cases e with
    | file content mode => exact ⟨true, rfl, by simp⟩
    | directory | link _ | device _ => exact ⟨false, rfl, by simp⟩

end FileTree

end NativeExtension

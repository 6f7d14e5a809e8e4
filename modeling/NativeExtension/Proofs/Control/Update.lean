import Mathlib.Data.List.Induction
import NativeExtension.Proofs.Control.Keys
import NativeExtension.Proofs.Text.Seam

namespace NativeExtension.Control

open Text

namespace Entries

/-- Entries with newer ones taken over. A key that is there keeps its place and takes its new value;
    the other new ones come behind, in their order. -/
def updated (entries new : Entries) : Entries :=
  entries.map (fun e => (e.1, (new.lookup e.1).getD e.2)) ++
    new.filter (fun e => e.1 ∉ entries.map Prod.fst)

example : updated [("a", "1"), ("b", "2")] [("c", "3"), ("b", "4")] =
    [("a", "1"), ("b", "4"), ("c", "3")] := by decide

/-- Entries in which a key has one value, wherever it stands. -/
def overwritten (entries : Entries) (key value : String) : Entries :=
  entries.map fun e => if e.1 = key then (e.1, value) else e

variable {entries : Entries} {key : String}

theorem overwritten_of_not_mem (h : key ∉ entries.map Prod.fst) (value : String) :
    entries.overwritten key value = entries := by
  have hkept : entries.overwritten key value = entries.map id :=
    List.map_congr_left fun e he => if_neg fun heq => h (List.mem_map.mpr ⟨e, he, heq⟩)
  rw [hkept, List.map_id]

theorem put_of_mem (h : key ∈ entries.map Prod.fst) (value : String) :
    entries.put key value = entries.overwritten key value := by
  obtain ⟨e, he, rfl⟩ := List.mem_map.mp h
  have hany : entries.any (·.1 == e.1) = true := List.any_eq_true.mpr ⟨e, he, by simp⟩
  rw [put, if_pos hany]
  simp [overwritten]

theorem put_of_not_mem (h : key ∉ entries.map Prod.fst) (value : String) :
    entries.put key value = entries ++ [(key, value)] := by
  have hany : ¬ entries.any (·.1 == key) = true := by
    intro hany
    obtain ⟨e, he, hkey⟩ := List.any_eq_true.mp hany
    exact h (List.mem_map.mpr ⟨e, he, by simpa using hkey⟩)
  rw [put, if_neg hany]

theorem lookup_eq_none_of_not_mem (h : key ∉ entries.map Prod.fst) : entries.lookup key = none := by
  refine List.lookup_eq_none_iff.mpr fun e he => ?_
  have hne : key ≠ e.1 := fun heq => h (List.mem_map.mpr ⟨e, he, heq.symm⟩)
  simpa using hne

theorem lookup_overwritten (entries : Entries) (key value other : String) :
    (entries.overwritten key value).lookup other =
      if other = key then (entries.lookup key).map (fun _ => value) else entries.lookup other := by
  unfold overwritten
  induction entries with
  | nil => simp
  | cons e rest ih =>
    obtain ⟨k, old⟩ := e
    have hkey : ((if k = key then (k, value) else (k, old)) : String × String) =
        (k, if k = key then value else old) := by split <;> rfl
    rw [List.map_cons, hkey]
    by_cases hother : other = k
    · subst hother
      by_cases hk : other = key <;> simp [hk]
    · have hne : (other == k) = false := by simpa using hother
      rw [List.lookup_cons, hne, ih, List.lookup_cons, List.lookup_cons, hne]
      by_cases hk : other = key
      · subst hk
        simp [hne]
      · simp [hk]

theorem lookup_put (entries : Entries) (key value other : String) :
    (entries.put key value).lookup other =
      if other = key then some value else entries.lookup other := by
  by_cases hmem : key ∈ entries.map Prod.fst
  · obtain ⟨old, hold⟩ : ∃ old, entries.lookup key = some old := by
      refine Option.isSome_iff_exists.mp ?_
      simpa using hmem
    rw [put_of_mem hmem, lookup_overwritten, hold]
    rfl
  · rw [put_of_not_mem hmem, List.lookup_append, List.lookup_singleton]
    by_cases hother : other = key
    · simp [hother, lookup_eq_none_of_not_mem hmem]
    · simp [hother]

/-- A key is looked for in the first of two parts, and only then in the second. -/
theorem append_put (front back : Entries) (key value : String) :
    Entries.put (front ++ back) key value =
      if key ∈ front.map Prod.fst then front.overwritten key value ++ back.overwritten key value
      else front ++ back.put key value := by
  have hparts : overwritten (front ++ back) key value =
      front.overwritten key value ++ back.overwritten key value := List.map_append
  split
  next hfront =>
    rw [put_of_mem (by simp [hfront]), hparts]
  next hfront =>
    by_cases hback : key ∈ back.map Prod.fst
    · rw [put_of_mem (by simp [hback]), hparts, overwritten_of_not_mem hfront, put_of_mem hback]
    · have hneither : key ∉ (front ++ back).map Prod.fst := by
        rw [List.map_append, List.mem_append, not_or]
        exact ⟨hfront, hback⟩
      rw [put_of_not_mem hneither, put_of_not_mem hback, List.append_assoc]

/-- Where entries are kept by their keys, a new value is kept with its key. -/
theorem filter_put (entries : Entries) (key value : String) (p : String → Bool) :
    (entries.put key value).filter (fun e => p e.1) =
      if p key then Entries.put (entries.filter (fun e => p e.1)) key value
      else entries.filter (fun e => p e.1) := by
  have hkeys : key ∈ (entries.filter (fun e => p e.1)).map Prod.fst ↔
      key ∈ entries.map Prod.fst ∧ p key = true := by
    simp [and_comm, exists_and_left]
  by_cases hmem : key ∈ entries.map Prod.fst
  · have hoverwritten : (entries.overwritten key value).filter (fun e => p e.1) =
        overwritten (entries.filter (fun e => p e.1)) key value := by
      have hkept : (fun e => p e.1) ∘ (fun e => if e.1 = key then (e.1, value) else e) =
          fun e => p e.1 := by
        funext e
        simp only [Function.comp_apply]
        split <;> rfl
      rw [overwritten, List.filter_map, hkept]
      rfl
    rw [put_of_mem hmem, hoverwritten]
    split
    next hp => rw [put_of_mem (hkeys.mpr ⟨hmem, hp⟩)]
    next hp => exact overwritten_of_not_mem (fun h => hp (hkeys.mp h).2) value
  · have hfiltered : key ∉ (entries.filter (fun e => p e.1)).map Prod.fst :=
      fun h => hmem (hkeys.mp h).1
    rw [put_of_not_mem hmem, List.filter_append, put_of_not_mem hfiltered]
    split
    next hp => simp [hp]
    next hp => simp [hp]

/-- A value that is new among the newer entries is new among all of them. -/
theorem updated_put (entries new : Entries) (key value : String) :
    entries.updated (new.put key value) = (entries.updated new).put key value := by
  have hkeys : (entries.map fun e => (e.1, (new.lookup e.1).getD e.2)).map Prod.fst =
      entries.map Prod.fst := by
    rw [List.map_map]
    rfl
  rw [updated, updated, append_put, hkeys, filter_put new key value (· ∉ entries.map Prod.fst)]
  by_cases hmem : key ∈ entries.map Prod.fst
  · have hnew : key ∉ (new.filter (fun e => e.1 ∉ entries.map Prod.fst)).map Prod.fst := by
      intro h
      obtain ⟨e, he, rfl⟩ := List.mem_map.mp h
      simp [hmem] at he
    have hold : entries.map (fun e => (e.1, ((new.put key value).lookup e.1).getD e.2)) =
        overwritten (entries.map fun e => (e.1, (new.lookup e.1).getD e.2)) key value := by
      rw [overwritten, List.map_map]
      refine List.map_congr_left fun e _ => ?_
      simp only [lookup_put, Function.comp_apply]
      split <;> rfl
    rw [if_pos hmem, if_neg (by simpa using hmem), overwritten_of_not_mem hnew, hold]
  · have hold : entries.map (fun e => (e.1, ((new.put key value).lookup e.1).getD e.2)) =
        entries.map fun e => (e.1, (new.lookup e.1).getD e.2) := by
      refine List.map_congr_left fun e he => ?_
      have hne : e.1 ≠ key := fun heq => hmem (List.mem_map.mpr ⟨e, he, heq⟩)
      rw [lookup_put, if_neg hne]
    rw [if_neg hmem, if_pos (by simpa using hmem), hold]

/-- Gives keys their values, one after the other. -/
def putAll (entries new : Entries) : Entries :=
  new.foldl (fun entries e => entries.put e.1 e.2) entries

/-- Values that are given one after the other can be collected first. -/
theorem putAll_eq_updated (entries new : Entries) :
    entries.putAll new = entries.updated (putAll [] new) := by
  induction new using List.reverseRecOn with
  | nil => simp [putAll, updated]
  | append_singleton before last ih =>
    have hlast (entries : Entries) :
        entries.putAll (before ++ [last]) = (entries.putAll before).put last.1 last.2 := by
      simp [putAll]
    rw [hlast, hlast, ih, updated_put]

end Entries

/-- A line that makes no entry: it is blank, a comment, or has no equals sign. -/
def HoldsNoEntry (line : List Char) : Prop :=
  (∀ c ∈ line, isBlank c = true) ∨ line.find? (!isBlank ·) = some '#' ∨ '=' ∉ line

theorem HoldsNoEntry.lineEntry?_eq {line : List Char} (h : HoldsNoEntry line) :
    lineEntry? line = none := by
  have hkey : lineKey? line = none := by
    obtain hblank | hcomment | hsign := h
    · refine lineKey?_of_not_mem fun hmem => ?_
      have hblankSign := hblank '=' hmem
      exact absurd hblankSign (by decide)
    · exact lineKey?_of_comment hcomment
    · exact lineKey?_of_not_mem hsign
  simpa [lineKey?] using hkey

/-- The entries that the lines of a text make, one after the other. -/
def lineEntries (cs : List Char) : Entries := (lines cs).filterMap lineEntry?

theorem parseEntries_eq (text : String) :
    parseEntries text = Entries.putAll [] (lineEntries text.toList) := rfl

theorem lineEntry?_nil : lineEntry? [] = none := by decide

theorem lineEntries_append {front : List Char} (h : EndsLine front) (back : List Char) :
    lineEntries (front ++ back) = lineEntries front ++ lineEntries back :=
  filterMap_lines_append lineEntry?_nil h back

/-- A line feed parts the entries of two texts, also where it meets a carriage return. -/
theorem lineEntries_append_newline_append (front back : List Char) :
    lineEntries (front ++ '\n' :: back) = lineEntries front ++ lineEntries back := by
  have hends : EndsLine (front ++ ['\n']) := endsLine_append_singleton front (by decide)
  have hsplit : front ++ '\n' :: back = front ++ ['\n'] ++ back := by simp
  rw [hsplit, lineEntries_append hends]
  exact congrArg (· ++ lineEntries back) (filterMap_lines_append_newline lineEntry?_nil front)

/-- A line without an entry. -/
theorem lineEntries_of_holdsNoEntry {line : List Char} (hline : Unbroken line)
    (h : HoldsNoEntry line) : lineEntries line = [] := by
  by_cases hne : line = []
  · rw [hne]
    rfl
  · rw [lineEntries, lines_of_unbroken hne hline]
    simp [h.lineEntry?_eq]

theorem lineEntries_insert {front line ending : List Char} (hfront : EndsLine front)
    (hline : Unbroken line) (h : HoldsNoEntry line) (hending : LineEnding ending)
    (back : List Char) :
    lineEntries (front ++ (line ++ ending ++ back)) = lineEntries (front ++ back) := by
  have hinserted : lineEntries (line ++ ending) = [] := by
    rw [lineEntries, hending.lines_append hline]
    simp [h.lineEntry?_eq]
  rw [lineEntries_append hfront, lineEntries_append (hending.endsLine_append line), hinserted,
    List.nil_append, ← lineEntries_append hfront]

/-- A descriptor is read line by line, and the last value of a key wins. The entries of two texts
    with a line feed between them are those of the first, updated with those of the second, however
    either text ends its lines. A blank line, a comment or a line without an equals sign can stand
    behind, before or between the lines of a text. -/
theorem parseEntries_append_newline (a b : String) :
    parseEntries (a ++ "\n" ++ b) = (parseEntries a).updated (parseEntries b) ∧
      ∀ line : String, Unbroken line.toList → HoldsNoEntry line.toList →
        parseEntries (a ++ "\n" ++ line) = parseEntries a ∧
          ∀ front ending : String, EndsLine front.toList → LineEnding ending.toList →
            parseEntries (front ++ line ++ ending ++ b) = parseEntries (front ++ b) := by
  have hseam (b : String) : (a ++ "\n" ++ b).toList = a.toList ++ '\n' :: b.toList := by simp
  refine ⟨?_, fun line hline hempty => ⟨?_, fun front ending hfront hending => ?_⟩⟩
  · have hentries : parseEntries (a ++ "\n" ++ b) =
        (parseEntries a).putAll (lineEntries b.toList) := by
      rw [parseEntries_eq, hseam, lineEntries_append_newline_append]
      exact List.foldl_append
    rw [hentries, Entries.putAll_eq_updated]
    rfl
  · rw [parseEntries_eq, hseam, lineEntries_append_newline_append,
      lineEntries_of_holdsNoEntry hline hempty, List.append_nil]
    rfl
  · have hinsert := lineEntries_insert hfront hline hempty hending b.toList
    simp only [parseEntries_eq, String.toList_append, List.append_assoc] at hinsert ⊢
    rw [hinsert]

/-- The first text ends in a carriage return, which the line feed behind it joins; the second has a
    line separator and gives `x` another value. A comment that stands between the two changes
    nothing. -/
theorem parseEntries_append_newline_sample :
    let a := "x = '1'\r"
    let b := "y = 'it''s'\u2028x=2"
    let comment := " # y = '3'"
    Unbroken comment.toList ∧ HoldsNoEntry comment.toList ∧ EndsLine a.toList ∧
      LineEnding "\r\n".toList ∧
      parseEntries (a ++ "\n" ++ b) = [("x", "2"), ("y", "it's")] ∧
      parseEntries (a ++ "\n" ++ comment) = [("x", "1")] ∧
      parseEntries (a ++ comment ++ "\r\n" ++ b) = [("x", "2"), ("y", "it's")] := by
  intro a b comment
  have hunbroken : Unbroken comment.toList := by decide
  have hempty : HoldsNoEntry comment.toList := .inr (.inl (by decide))
  have hfront : EndsLine a.toList := by
    intro c hc
    obtain rfl : '\r' = c := by simpa [a] using hc
    decide
  have hending : LineEnding "\r\n".toList := .inl (by decide)
  obtain ⟨hupdated, hinsert⟩ := parseEntries_append_newline a b
  obtain ⟨hbehind, hbetween⟩ := hinsert comment hunbroken hempty
  refine ⟨hunbroken, hempty, hfront, hending, ?_, ?_, ?_⟩
  · rw [hupdated]
    decide +kernel
  · rw [hbehind]
    decide +kernel
  · rw [hbetween a "\r\n" hfront hending]
    decide +kernel

end NativeExtension.Control

import Mathlib.Data.List.Basic
import NativeExtension.CommandLine.Pictograph

namespace NativeExtension.CommandLine.Display

/-- The parts of a text are the text, behind what was begun. -/
theorem flatMap_text_segments (begun : Option (List Char)) (cs : List Char) :
    (segments begun cs).flatMap Segment.text =
      (begun.elim [] fun name => ':' :: name.reverse) ++ cs := by
  have hchars (ds : List Char) : (ds.map Segment.char).flatMap Segment.text = ds := by
    simp [List.flatMap_map, Segment.text]
  fun_induction segments begun cs with
  | case1 => rfl
  | case2 name => simpa using hchars (':' :: name.reverse)
  | case3 rest ih => simpa using ih
  | case4 c rest hcolon ih => simpa [Segment.text] using ih
  | case5 name rest ih => simpa [Segment.text] using ih
  | case6 name c rest hcolon hblank ih =>
    rw [List.flatMap_append, hchars, List.flatMap_cons, ih]
    rfl
  | case7 name c rest hcolon hblank ih => simpa using ih

/-- No name that stands between colons holds a blank. -/
theorem not_isBlank_of_named {begun : Option (List Char)} {cs name : List Char}
    (hbegun : ∀ ds ∈ begun, ∀ c ∈ ds, Text.isBlank c = false)
    (h : .named name ∈ segments begun cs) : ∀ c ∈ name, Text.isBlank c = false := by
  fun_induction segments begun cs with
  | case1 => cases h
  | case2 ds => simp at h
  | case3 rest ih => exact ih (by simp) h
  | case4 c rest hcolon ih => exact ih (by simp) (by simpa using h)
  | case5 ds rest ih =>
    obtain heq | hrest := List.mem_cons.mp h
    · obtain rfl := Segment.named.inj heq
      simpa using hbegun
    · exact ih (by simp) hrest
  | case6 ds c rest hcolon hblank ih =>
    have hrest : .named name ∈ segments none rest := by simpa using h
    exact ih (by simp) hrest
  | case7 ds c rest hcolon hblank ih =>
    refine ih ?_ h
    simpa [hblank] using hbegun

/-- The names between colons in a text. -/
def namesIn (cs : List Char) : List (List Char) :=
  (segments none cs).filterMap fun
    | .char _ => none
    | .named name => some name

theorem mem_namesIn_iff {name cs : List Char} : name ∈ namesIn cs ↔ .named name ∈ segments none cs := by
  rw [namesIn, List.mem_filterMap]
  constructor
  · rintro ⟨p, hp, hname⟩
    cases p with
    | char c => cases hname
    | named other =>
      obtain rfl := Option.some.inj hname
      exact hp
  · exact fun h => ⟨_, h, rfl⟩

/-- The second of three numbers in a row is behind a colon that belongs to the first. -/
example : namesIn "demo.c:3:100: error".toList = ["3".toList] := by decide

theorem splitVariant_plain (name : List Char) :
    ':' ∉ (splitVariant name).2 ∧ '\n' ∉ (splitVariant name).2 := by
  have hchosen : ∀ variant ∈ [['\ufe0f'], ['\ufe0e'], []], ':' ∉ variant ∧ '\n' ∉ variant := by decide
  refine hchosen _ ?_
  unfold splitVariant
  split
  · simp
  · split <;> simp

namespace Pictographs

variable {ps : Pictographs}

theorem picture?_plain {name picture : List Char} (h : ps.picture? name = some picture) :
    ':' ∉ picture ∧ '\n' ∉ picture := by
  unfold picture? at h
  dsimp only at h
  obtain ⟨base, hbase, rfl⟩ := Option.map_eq_some_iff.mp h
  have hbase := ps.plain hbase
  have hvariant := splitVariant_plain name
  simp only [List.mem_append, not_or]
  exact ⟨⟨hbase.1, hvariant.1⟩, hbase.2, hvariant.2⟩

/-- No name between colons in a text stands for a pictograph. -/
def Absent (ps : Pictographs) (cs : List Char) : Prop :=
  ∀ name ∈ namesIn cs, ps.picture? name = none

instance (cs : List Char) : Decidable (ps.Absent cs) :=
  inferInstanceAs (Decidable (∀ name ∈ namesIn cs, ps.picture? name = none))

theorem Absent.replace_eq {cs : List Char} (h : ps.Absent cs) : ps.replace cs = cs := by
  have hshown : ∀ p ∈ segments none cs, ps.shown p = p.text := by
    intro p hp
    cases p with
    | char c => rfl
    | named name => simp [shown, h name (mem_namesIn_iff.mpr hp)]
  calc ps.replace cs
    _ = (segments none cs).flatMap Segment.text := List.flatMap_congr hshown
    _ = cs := flatMap_text_segments none cs

/-- Line feeds stay where they are. -/
theorem count_newline_replace (cs : List Char) :
    (ps.replace cs).count '\n' = cs.count '\n' := by
  have hshown : ∀ p ∈ segments none cs, (ps.shown p).count '\n' = p.text.count '\n' := by
    intro p hp
    cases p with
    | char c => rfl
    | named name =>
      have hname : '\n' ∉ name := fun hmem =>
        absurd (not_isBlank_of_named (by simp) hp _ hmem) (by decide)
      cases hpicture : ps.picture? name with
      | none => simp [shown, hpicture]
      | some picture =>
        have hcount : picture.count '\n' = 0 := List.count_eq_zero.mpr (picture?_plain hpicture).2
        simp [shown, hpicture, hcount, Segment.text, List.count_eq_zero.mpr hname]
  have hsum : ((segments none cs).map fun p => (ps.shown p).count '\n') =
      (segments none cs).map fun p => p.text.count '\n' := List.map_congr_left hshown
  calc (ps.replace cs).count '\n'
    _ = ((segments none cs).map fun p => (ps.shown p).count '\n').sum := List.count_flatMap ..
    _ = ((segments none cs).flatMap Segment.text).count '\n' := by rw [hsum, List.count_flatMap]; rfl
    _ = cs.count '\n' := by rw [flatMap_text_segments]; rfl

/-- A part that is shown as a pictograph loses its colons. -/
theorem count_colon_shown_le (p : Segment) : (ps.shown p).count ':' ≤ p.text.count ':' := by
  cases p with
  | char c => exact Nat.le_refl _
  | named name =>
    cases hpicture : ps.picture? name with
    | none => simp [shown, hpicture]
    | some picture =>
      have hcount : picture.count ':' = 0 := List.count_eq_zero.mpr (picture?_plain hpicture).1
      simp [shown, hpicture, hcount]

theorem picture?_eq_none_of_count_le {name : List Char}
    (h : (Segment.named name).text.count ':' ≤ (ps.shown (.named name)).count ':') :
    ps.picture? name = none := by
  cases hpicture : ps.picture? name with
  | none => rfl
  | some picture =>
    have hcount : picture.count ':' = 0 := List.count_eq_zero.mpr (picture?_plain hpicture).1
    simp [shown, hpicture, hcount, Segment.text] at h

theorem count_colon_flatMap_shown_le (parts : List Segment) :
    (parts.flatMap ps.shown).count ':' ≤ (parts.flatMap Segment.text).count ':' := by
  induction parts with
  | nil => exact Nat.le_refl _
  | cons p parts ih =>
    have hp := ps.count_colon_shown_le p
    simp only [List.flatMap_cons, List.count_append]
    omega

/-- A text in which all colons are left holds no name that stands for a pictograph. -/
theorem absent_of_count_le {cs : List Char} (h : cs.count ':' ≤ (ps.replace cs).count ':') :
    ps.Absent cs := by
  have hparts : ∀ parts : List Segment,
      (parts.flatMap Segment.text).count ':' ≤ (parts.flatMap ps.shown).count ':' →
        ∀ name, .named name ∈ parts → ps.picture? name = none := by
    intro parts
    induction parts with
    | nil => simp
    | cons p parts ih =>
      intro hle name hmem
      have hp := ps.count_colon_shown_le p
      have hrest := ps.count_colon_flatMap_shown_le parts
      simp only [List.flatMap_cons, List.count_append] at hle
      obtain rfl | hmem := List.mem_cons.mp hmem
      · exact picture?_eq_none_of_count_le (by omega)
      · exact ih (by omega) name hmem
  intro name hmem
  refine hparts _ ?_ name (mem_namesIn_iff.mp hmem)
  rw [flatMap_text_segments]
  exact h

end Pictographs

end NativeExtension.CommandLine.Display

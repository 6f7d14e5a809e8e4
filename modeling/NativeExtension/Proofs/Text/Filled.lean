import Mathlib.Data.List.TakeWhile
import NativeExtension.Proofs.Text.Seam
import NativeExtension.Proofs.Text.Trim

namespace NativeExtension.Text

/-- What ends a line is white space. -/
theorem isBlank_of_isLineBoundary {c : Char} (h : isLineBoundary c = true) : isBlank c = true := by
  simp only [isLineBoundary, Bool.or_eq_true, Bool.and_eq_true, decide_eq_true_eq, beq_iff_eq] at h
  simp only [isBlank, Bool.or_eq_true, Bool.and_eq_true, decide_eq_true_eq, beq_iff_eq]
  omega

theorem trim_eq_nil_iff {cs : List Char} : trim cs = [] ↔ ∀ c ∈ cs, isBlank c = true := by
  rw [← List.head?_eq_none_iff, head?_trim]
  simp

theorem trim_append_of_isBlank_right {trail : List Char} (h : ∀ c ∈ trail, isBlank c = true)
    (cs : List Char) : trim (cs ++ trail) = trim cs := by
  have hreverse : ∀ c ∈ trail.reverse, isBlank c = true := fun c hc => h c (List.mem_reverse.mp hc)
  by_cases hcs : cs.dropWhile isBlank = []
  · have hall : ∀ c ∈ cs, isBlank c = true := List.dropWhile_eq_nil_iff.mp hcs
    rw [trim_append_of_isBlank hall, trim_eq_nil_iff.mpr h, trim_eq_nil_iff.mpr hall]
  · simp [trim, trimWhere, List.dropWhile_append, hcs, List.dropWhile_append_of_pos hreverse]

/-- A trimmed text has no white space at its end. -/
theorem isBlank_getLast?_trim (cs : List Char) : ∀ c ∈ (trim cs).getLast?, isBlank c = false := by
  intro c hc
  have hnot := List.head?_dropWhile_not isBlank (cs.dropWhile isBlank).reverse
  rw [trim, trimWhere, List.getLast?_reverse] at hc
  rw [Option.mem_def.mp hc] at hnot
  exact hnot

theorem isBlank_head?_trim (cs : List Char) : ∀ c ∈ (trim cs).head?, isBlank c = false := by
  intro c hc
  rw [head?_trim] at hc
  simpa using List.find?_some hc

theorem unbroken_or_exists_boundary (cs : List Char) :
    Unbroken cs ∨ ∃ front c back, Unbroken front ∧ isLineBoundary c = true ∧
      cs = front ++ c :: back := by
  induction cs with
  | nil => exact .inl unbroken_nil
  | cons c rest ih =>
    by_cases hc : isLineBoundary c = true
    · exact .inr ⟨[], c, rest, unbroken_nil, hc, rfl⟩
    simp only [Bool.not_eq_true] at hc
    obtain hrest | ⟨front, d, back, hfront, hd, rfl⟩ := ih
    · exact .inl (unbroken_cons.mpr ⟨hc, hrest⟩)
    · exact .inr ⟨c :: front, d, back, unbroken_cons.mpr ⟨hc, hfront⟩, hd, rfl⟩

/-- A text is either without a boundary, or a part without one, a boundary and a shorter text. -/
@[elab_as_elim]
theorem boundary_induction {motive : List Char → Prop} (cs : List Char)
    (unbroken : ∀ cs, Unbroken cs → motive cs)
    (boundary : ∀ front c back, Unbroken front → isLineBoundary c = true → motive back →
      motive (front ++ c :: back)) : motive cs := by
  induction hlength : cs.length using Nat.strong_induction_on generalizing cs with
  | h n ih =>
    obtain hcs | ⟨front, c, back, hfront, hc, rfl⟩ := unbroken_or_exists_boundary cs
    · exact unbroken cs hcs
    · have hshorter : back.length < n := by
        simp only [List.length_append, List.length_cons] at hlength
        omega
      exact boundary front c back hfront hc (ih _ hshorter back rfl)

/-- What a line holds between the white space around it, if anything. -/
def content? (line : List Char) : Option (List Char) :=
  if trim line = [] then none else some (trim line)

theorem content?_eq_none_iff {line : List Char} :
    content? line = none ↔ ∀ c ∈ line, isBlank c = true := by
  rw [← trim_eq_nil_iff]
  simp [content?]

theorem content?_eq_of_trim_eq {line other : List Char} (h : trim line = trim other) :
    content? line = content? other := by
  rw [content?, content?, h]

/-- What the lines of a text hold, without those that hold nothing. -/
def filled (cs : List Char) : List (List Char) := (lines cs).filterMap content?

theorem filled_of_unbroken {cs : List Char} (h : Unbroken cs) :
    filled cs = (content? cs).toList := by
  by_cases hne : cs = []
  · subst hne
    rfl
  · rw [filled, lines_of_unbroken hne h]
    cases hcontent : content? cs <;> simp [hcontent]

/-- A boundary parts what is filled before it from what is filled behind it. A line feed that belongs
    to a carriage return makes no difference: the line it would end is empty. -/
theorem filled_append_boundary {front : List Char} {c : Char} (back : List Char)
    (hfront : Unbroken front) (hc : isLineBoundary c = true) :
    filled (front ++ c :: back) = (content? front).toList ++ filled back := by
  have hending : LineEnding [c] := .inr ⟨c, hc, rfl⟩
  have hempty : content? [] = none := rfl
  rw [← List.singleton_append, ← List.append_assoc, filled,
    filterMap_lines_append hempty (endsLine_append_singleton front hc),
    hending.lines_append hfront]
  cases hcontent : content? front <;> simp [hcontent, filled]

theorem filled_eq_nil_iff {cs : List Char} : filled cs = [] ↔ ∀ c ∈ cs, isBlank c = true := by
  induction cs using boundary_induction with
  | unbroken cs hcs =>
    rw [filled_of_unbroken hcs, Option.toList_eq_nil_iff, content?_eq_none_iff]
  | boundary front c back hfront hc ih =>
    rw [filled_append_boundary back hfront hc, List.append_eq_nil_iff, Option.toList_eq_nil_iff,
      content?_eq_none_iff, ih]
    simp [or_imp, forall_and, isBlank_of_isLineBoundary hc]

theorem filled_cons_of_isBlank {c : Char} (hc : isBlank c = true) (cs : List Char) :
    filled (c :: cs) = filled cs := by
  by_cases hboundary : isLineBoundary c = true
  · exact filled_append_boundary cs unbroken_nil hboundary
  simp only [Bool.not_eq_true] at hboundary
  have hsame (line : List Char) : content? (c :: line) = content? line :=
    content?_eq_of_trim_eq (trim_cons_of_isBlank line hc)
  obtain hcs | ⟨front, d, back, hfront, hd, rfl⟩ := unbroken_or_exists_boundary cs
  · rw [filled_of_unbroken (unbroken_cons.mpr ⟨hboundary, hcs⟩), filled_of_unbroken hcs, hsame]
  · rw [← List.cons_append, filled_append_boundary back (unbroken_cons.mpr ⟨hboundary, hfront⟩) hd,
      filled_append_boundary back hfront hd, hsame]

theorem filled_append_singleton_of_isBlank {c : Char} (hc : isBlank c = true) (cs : List Char) :
    filled (cs ++ [c]) = filled cs := by
  induction cs using boundary_induction with
  | unbroken cs hcs =>
    by_cases hboundary : isLineBoundary c = true
    · rw [filled_append_boundary [] hcs hboundary, filled_of_unbroken hcs]
      simp [filled, lines]
    · simp only [Bool.not_eq_true] at hboundary
      have hone : ∀ d ∈ [c], isBlank d = true := by simpa using hc
      rw [filled_of_unbroken (unbroken_append.mpr ⟨hcs, by simpa using hboundary⟩),
        filled_of_unbroken hcs, content?_eq_of_trim_eq (trim_append_of_isBlank_right hone cs)]
  | boundary front d back hfront hd ih =>
    rw [List.append_assoc, List.cons_append, filled_append_boundary _ hfront hd, ih,
      filled_append_boundary _ hfront hd]

/-- White space around a text, whether it ends lines or not, adds nothing to what its lines hold. -/
theorem filled_trim (cs : List Char) : filled (trim cs) = filled cs := by
  have hfront {lead : List Char} (h : ∀ c ∈ lead, isBlank c = true) (ds : List Char) :
      filled (lead ++ ds) = filled ds := by
    induction lead with
    | nil => rfl
    | cons c rest ih =>
      rw [List.cons_append, filled_cons_of_isBlank (h c List.mem_cons_self)]
      exact ih fun d hd => h d (List.mem_cons_of_mem c hd)
  have hback {trail : List Char} (h : ∀ c ∈ trail, isBlank c = true) (ds : List Char) :
      filled (ds ++ trail) = filled ds := by
    induction trail generalizing ds with
    | nil => rw [List.append_nil]
    | cons c rest ih =>
      have hrest := ih (fun d hd => h d (List.mem_cons_of_mem c hd)) (ds ++ [c])
      rw [List.append_assoc, List.singleton_append] at hrest
      rw [hrest, filled_append_singleton_of_isBlank (h c List.mem_cons_self)]
  obtain ⟨lead, trail, hlead, htrail, hcs⟩ := exists_trim cs
  calc filled (trim cs) = filled (trim cs ++ trail) := (hback htrail _).symm
    _ = filled (lead ++ (trim cs ++ trail)) := (hfront hlead _).symm
    _ = filled cs := by rw [← hcs]

/-- A trimmed text with a boundary in it has a filled line on both sides of that. -/
theorem two_le_length_filled {cs : List Char} (h : ¬ Unbroken (trim cs)) :
    2 ≤ (filled cs).length := by
  obtain hunbroken | ⟨front, c, back, hfront, hc, htrim⟩ := unbroken_or_exists_boundary (trim cs)
  · exact absurd hunbroken h
  have hblank := isBlank_of_isLineBoundary hc
  have hhead := isBlank_head?_trim cs
  have hlast := isBlank_getLast?_trim cs
  rw [htrim] at hhead hlast
  obtain ⟨line, hline⟩ : ∃ line, content? front = some line := by
    cases front with
    | nil => simp [hblank] at hhead
    | cons d rest =>
      refine Option.ne_none_iff_exists'.mp fun hnone => ?_
      have hd := content?_eq_none_iff.mp hnone d List.mem_cons_self
      simp [hhead d rfl] at hd
  have hbehind : filled back ≠ [] := by
    intro hnil
    cases hback : back.getLast? with
    | none => simp_all
    | some d =>
      have hd := filled_eq_nil_iff.mp hnil d (List.mem_of_getLast? hback)
      have hend : (front ++ c :: back).getLast? = some d := by
        simp [List.getLast?_append, List.getLast?_cons, hback]
      simp [hlast d hend] at hd
  have hlength := List.length_pos_iff.mpr hbehind
  rw [← filled_trim, htrim, filled_append_boundary back hfront hc, hline]
  simp only [Option.toList_some, List.length_append, List.length_singleton]
  omega

/-- The lines of a text have exactly one that holds something where the whole text, trimmed at once,
    is not empty and on one line; and it holds that. -/
theorem filled_eq_singleton_iff {cs line : List Char} :
    filled cs = [line] ↔ trim cs ≠ [] ∧ Unbroken (trim cs) ∧ line = trim cs := by
  have htwice : trim (trim cs) = trim cs :=
    trim_eq_self (isBlank_head?_trim cs) (isBlank_getLast?_trim cs)
  by_cases hunbroken : Unbroken (trim cs)
  · rw [← filled_trim, filled_of_unbroken hunbroken, content?, htwice]
    by_cases hempty : trim cs = [] <;> simp [hempty, hunbroken, eq_comm]
  · have htwo := two_le_length_filled hunbroken
    constructor
    · intro hone
      simp [hone] at htwo
    · rintro ⟨-, hline, -⟩
      exact absurd hline hunbroken

end NativeExtension.Text

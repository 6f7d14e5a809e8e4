import NativeExtension.Proofs.Text.Lines

namespace NativeExtension.Text

theorem trim_cons_of_not_isBlank {c : Char} (cs : List Char) (h : isBlank c = false) :
    trim (c :: cs) = c :: (cs.reverse.dropWhile isBlank).reverse := by
  have hend : (cs.reverse ++ [c]).dropWhile isBlank = cs.reverse.dropWhile isBlank ++ [c] := by
    rw [List.dropWhile_append]
    split
    next hempty => simp [List.isEmpty_iff.mp hempty, h]
    next => rfl
  rw [trim, trimWhere, List.dropWhile_cons_of_neg (by simp [h]), List.reverse_cons, hend]
  simp

/-- A trimmed text begins with the first character that is no white space. -/
theorem head?_trim (cs : List Char) : (trim cs).head? = cs.find? (!isBlank ·) := by
  induction cs with
  | nil => rfl
  | cons c rest ih =>
    by_cases hc : isBlank c = true
    · rw [trim_cons_of_isBlank _ hc, ih, List.find?_cons_of_neg (by simp [hc])]
    · simp only [Bool.not_eq_true] at hc
      rw [trim_cons_of_not_isBlank _ hc, List.find?_cons_of_pos (by simp [hc])]
      rfl

theorem trim_append_of_isBlank {lead : List Char} (h : ∀ c ∈ lead, isBlank c = true)
    (cs : List Char) : trim (lead ++ cs) = trim cs := by
  induction lead with
  | nil => rfl
  | cons c rest ih =>
    rw [List.cons_append, trim_cons_of_isBlank _ (h c List.mem_cons_self)]
    exact ih fun d hd => h d (List.mem_cons_of_mem c hd)

/-- What is trimmed off a text is white space. -/
theorem exists_trim (cs : List Char) : ∃ lead trail, (∀ c ∈ lead, isBlank c = true) ∧
    (∀ c ∈ trail, isBlank c = true) ∧ cs = lead ++ (trim cs ++ trail) := by
  let behind := cs.dropWhile isBlank
  refine ⟨cs.takeWhile isBlank, (behind.reverse.takeWhile isBlank).reverse,
    fun c hc => List.all_eq_true.mp List.all_takeWhile c hc, fun c hc => ?_, ?_⟩
  · exact List.all_eq_true.mp List.all_takeWhile c (List.mem_reverse.mp hc)
  · have hbehind : trim cs ++ (behind.reverse.takeWhile isBlank).reverse = behind := by
      rw [trim, trimWhere, ← List.reverse_append, List.takeWhile_append_dropWhile,
        List.reverse_reverse]
    rw [hbehind, List.takeWhile_append_dropWhile]

theorem mem_trim_iff {c : Char} (hc : isBlank c = false) {cs : List Char} :
    c ∈ trim cs ↔ c ∈ cs := by
  obtain ⟨lead, trail, hlead, htrail, hcs⟩ := exists_trim cs
  refine ⟨fun h => trim_subset cs h, fun h => ?_⟩
  rw [hcs] at h
  obtain h | h := List.mem_append.mp h
  · simp [hlead c h] at hc
  · obtain h | h := List.mem_append.mp h
    · exact h
    · simp [htrail c h] at hc

end NativeExtension.Text

import NativeExtension.Proofs.Text.Lines

namespace NativeExtension.Text

/-- A text behind which a new line begins: it is empty, or its last character ends a line. -/
def EndsLine (cs : List Char) : Prop := ∀ c ∈ cs.getLast?, isLineBoundary c = true

/-- What ends one line: one of the characters that do, or a carriage return and a line feed. -/
def LineEnding (cs : List Char) : Prop :=
  cs = ['\r', '\n'] ∨ ∃ c, isLineBoundary c = true ∧ cs = [c]

theorem EndsLine.of_cons {c : Char} {cs : List Char} (h : EndsLine (c :: cs)) : EndsLine cs := by
  cases cs with
  | nil => simp [EndsLine]
  | cons d rest => exact h

theorem endsLine_append_singleton {c : Char} (cs : List Char) (h : isLineBoundary c = true) :
    EndsLine (cs ++ [c]) := by
  simpa [EndsLine] using h

theorem LineEnding.endsLine_append {ending : List Char} (h : LineEnding ending) (cs : List Char) :
    EndsLine (cs ++ ending) := by
  obtain rfl | ⟨c, hc, rfl⟩ := h
  · have hends := endsLine_append_singleton (cs ++ ['\r']) (show isLineBoundary '\n' = true by decide)
    simpa using hends
  · exact endsLine_append_singleton cs hc

theorem LineEnding.lines_eq {ending : List Char} (h : LineEnding ending) : lines ending = [[]] := by
  obtain rfl | ⟨c, hc, rfl⟩ := h
  · rfl
  · exact lines_cons_of_boundary hc (by simp)

/-- A line and what ends it are one line. -/
theorem LineEnding.lines_append {ending line : List Char} (h : LineEnding ending)
    (hline : Unbroken line) : lines (line ++ ending) = [line] := by
  by_cases hne : line = []
  · rw [hne, List.nil_append, h.lines_eq]
  · rw [lines_append_of_unbroken ending hne hline, h.lines_eq]
    simp

/-- The lines of two texts, of which the first ends its last line, are those of the first and those
    of the second. Only where a carriage return and a line feed meet, the second loses the empty line
    that it would begin with. -/
theorem exists_lines_append_of_endsLine {front : List Char} (h : EndsLine front)
    (back : List Char) :
    ∃ others, lines (front ++ back) = lines front ++ others ∧
      (lines back = others ∨ lines back = [] :: others) := by
  fun_induction lines front with
  | case1 => exact ⟨lines back, rfl, .inl rfl⟩
  | case2 rest ih =>
    obtain ⟨others, hlines, hback⟩ := ih h.of_cons.of_cons
    exact ⟨others, by simp [lines, hlines], hback⟩
  | case3 c rest hpair hboundary ih =>
    by_cases hmeet : c = '\r' ∧ (rest ++ back).head? = some '\n'
    · obtain ⟨rfl, hhead⟩ := hmeet
      cases rest with
      | cons d tail =>
        obtain rfl : d = '\n' := by simpa using hhead
        exact absurd rfl (hpair tail rfl)
      | nil =>
        obtain ⟨tail, rfl⟩ := List.head?_eq_some_iff.mp hhead
        exact ⟨lines tail, by simp [lines], .inr (lines_append_newline tail unbroken_nil)⟩
    · obtain ⟨others, hlines, hback⟩ := ih h.of_cons
      have hnext : c = '\r' → (rest ++ back).head? ≠ some '\n' := fun hc hhead => hmeet ⟨hc, hhead⟩
      refine ⟨others, ?_, hback⟩
      rw [List.cons_append, lines_cons_of_boundary hboundary hnext, hlines]
      rfl
  | case4 c rest hpair hboundary hrest ih =>
    obtain rfl := lines_eq_nil_iff.mp hrest
    exact absurd (h c rfl) hboundary
  | case5 c rest hpair hboundary first others hrest ih =>
    simp only [Bool.not_eq_true] at hboundary
    obtain ⟨behind, hlines, hback⟩ := ih h.of_cons
    refine ⟨behind, ?_, hback⟩
    rw [List.cons_append, lines_cons_of_unbroken _ hboundary, hlines, hrest]
    rfl

section

variable {α : Type} {f : List Char → Option α} (hempty : f [] = none)

include hempty

/-- What is read line by line, where nothing is read from an empty line, can be read from two parts
    of a text if the first ends its last line. -/
theorem filterMap_lines_append {front : List Char} (h : EndsLine front) (back : List Char) :
    (lines (front ++ back)).filterMap f = (lines front).filterMap f ++ (lines back).filterMap f := by
  obtain ⟨others, hlines, hback | hback⟩ := exists_lines_append_of_endsLine h back
  · rw [hlines, hback, List.filterMap_append]
  · rw [hlines, hback, List.filterMap_append, List.filterMap_cons_none hempty]

/-- A line feed at the end of a text, whether it ends a line or makes an empty one, or stands behind
    a carriage return, adds nothing to what is read line by line. -/
theorem filterMap_lines_append_newline (cs : List Char) :
    (lines (cs ++ ['\n'])).filterMap f = (lines cs).filterMap f := by
  by_cases h : EndsLine cs
  · rw [filterMap_lines_append hempty h]
    simp [lines, isLineBoundary, hempty]
  · obtain ⟨c, hlast, hc⟩ : ∃ c, cs.getLast? = some c ∧ isLineBoundary c = false := by
      simpa [EndsLine] using h
    rw [lines_append_newline_append [] hlast hc]
    simp [lines]

end

end NativeExtension.Text

import NativeExtension.Text.Blank
import NativeExtension.Text.Lines

namespace NativeExtension.Text

/-- Characters none of which ends a line. -/
def Unbroken (cs : List Char) : Prop := ∀ c ∈ cs, isLineBoundary c = false

instance (cs : List Char) : Decidable (Unbroken cs) :=
  List.decidableBAll (isLineBoundary · = false) cs

@[simp] theorem unbroken_nil : Unbroken [] := by simp [Unbroken]

@[simp] theorem unbroken_cons {c : Char} {cs : List Char} :
    Unbroken (c :: cs) ↔ isLineBoundary c = false ∧ Unbroken cs := by simp [Unbroken]

@[simp] theorem unbroken_append {cs ds : List Char} :
    Unbroken (cs ++ ds) ↔ Unbroken cs ∧ Unbroken ds := by
  simp [Unbroken, or_imp, forall_and]

theorem Unbroken.of_subset {cs ds : List Char} (h : Unbroken ds) (hsubset : cs ⊆ ds) :
    Unbroken cs :=
  fun c hc => h c (hsubset hc)

theorem unbroken_of_mem_lines {cs line : List Char} (h : line ∈ lines cs) : Unbroken line := by
  fun_induction lines cs generalizing line with
  | case1 => simp at h
  | case2 rest ih =>
    obtain rfl | hrest := List.mem_cons.mp h
    · exact unbroken_nil
    · exact ih hrest
  | case3 c rest _ hboundary ih =>
    obtain rfl | hrest := List.mem_cons.mp h
    · exact unbroken_nil
    · exact ih hrest
  | case4 c rest _ hboundary hrest ih =>
    obtain rfl := List.mem_singleton.mp h
    simpa using hboundary
  | case5 c rest _ hboundary first others hrest ih =>
    rw [hrest] at ih
    obtain rfl | hothers := List.mem_cons.mp h
    · have hfirst := ih List.mem_cons_self
      exact unbroken_cons.mpr ⟨by simpa using hboundary, hfirst⟩
    · exact ih (List.mem_cons_of_mem _ hothers)

/-- A carriage return and a line feed behind it are one boundary, which ends one line. -/
example : lines "a\r\nb\x0b".toList = ["a".toList, "b".toList] := by cbv

theorem lines_append_newline {line : List Char} (rest : List Char) (h : Unbroken line) :
    lines (line ++ '\n' :: rest) = line :: lines rest := by
  induction line with
  | nil => simp [lines, isLineBoundary]
  | cons c cs ih =>
    obtain ⟨hc, hcs⟩ := unbroken_cons.mp h
    have hreturn : c ≠ '\r' := by
      rintro rfl
      exact absurd hc (by decide)
    rw [List.cons_append, lines]
    · simp [hc, ih hcs]
    · intro _ heq
      exact absurd heq hreturn

/-- Lines that are written one after the other, each with a line feed behind it, are read as they
    are. -/
theorem lines_flatMap_newline {ls : List (List Char)} (h : ∀ line ∈ ls, Unbroken line) :
    lines (ls.flatMap (· ++ ['\n'])) = ls := by
  induction ls with
  | nil => rfl
  | cons line rest ih =>
    have hrest := ih fun other hother => h other (List.mem_cons_of_mem _ hother)
    rw [List.flatMap_cons, List.append_assoc, List.singleton_append,
      lines_append_newline _ (h line List.mem_cons_self), hrest]

theorem lines_cons_of_boundary {c : Char} {cs : List Char} (h : isLineBoundary c = true)
    (hpair : c = '\r' → cs.head? ≠ some '\n') : lines (c :: cs) = [] :: lines cs := by
  rw [lines]
  · simp [h]
  · rintro rest rfl rfl
    exact hpair rfl rfl

/-- A character that ends no line stands in front of the first line behind it. -/
theorem lines_cons_of_unbroken {c : Char} (cs : List Char) (h : isLineBoundary c = false) :
    lines (c :: cs) = (c :: (lines cs).headD []) :: (lines cs).tail := by
  rw [lines]
  · cases lines cs <;> simp [h]
  · rintro rest rfl -
    exact absurd h (by decide)

/-- Characters that end no line stand in front of the first line behind them. -/
theorem lines_append_of_unbroken {front : List Char} (cs : List Char) (hne : front ≠ [])
    (h : Unbroken front) :
    lines (front ++ cs) = (front ++ (lines cs).headD []) :: (lines cs).tail := by
  induction front with
  | nil => exact absurd rfl hne
  | cons c rest ih =>
    obtain ⟨hc, hrest⟩ := unbroken_cons.mp h
    rw [List.cons_append, lines_cons_of_unbroken _ hc]
    cases rest with
    | nil => rfl
    | cons d others =>
      rw [ih (by simp) hrest]
      rfl

theorem lines_of_unbroken {line : List Char} (hne : line ≠ []) (h : Unbroken line) :
    lines line = [line] := by
  simpa [lines] using lines_append_of_unbroken [] hne h

@[simp] theorem lines_eq_nil_iff {cs : List Char} : lines cs = [] ↔ cs = [] := by
  fun_cases lines cs with
  | case1 => simp
  | _ => simp [*]

/-- Lines that come from a text whose last line is still open: the last line is among them, unless
    it has no characters yet. -/
def LeaveOpen (ls before : List (List Char)) (last : List Char) : Prop :=
  ls = before ++ [last] ∨ ls = before ∧ last = []

theorem LeaveOpen.cons {ls before : List (List Char)} {last : List Char}
    (h : LeaveOpen ls before last) (line : List Char) :
    LeaveOpen (line :: ls) (line :: before) last := by
  obtain rfl | ⟨rfl, hlast⟩ := h
  · exact .inl rfl
  · exact .inr ⟨rfl, hlast⟩

/-- The first line of what follows a text stands behind the line that the text leaves open. What
    follows must not begin with a line feed, which may be the second half of a boundary. -/
theorem exists_lines_append (cs : List Char) {back : List Char} (hne : back ≠ [])
    (hback : back.head? ≠ some '\n') :
    ∃ before last, LeaveOpen (lines cs) before last ∧
      lines (cs ++ back) = before ++ (last ++ (lines back).headD []) :: (lines back).tail := by
  fun_induction lines cs with
  | case1 =>
    refine ⟨[], [], .inr ⟨rfl, rfl⟩, ?_⟩
    cases hlines : lines back with
    | nil => exact absurd (lines_eq_nil_iff.mp hlines) hne
    | cons first others => simp [hlines]
  | case2 rest ih =>
    obtain ⟨before, last, hopen, hlines⟩ := ih
    exact ⟨[] :: before, last, hopen.cons [], by simpa [lines] using hlines⟩
  | case3 c rest hpair hboundary ih =>
    obtain ⟨before, last, hopen, hlines⟩ := ih
    refine ⟨[] :: before, last, hopen.cons [], ?_⟩
    rw [List.cons_append, lines_cons_of_boundary hboundary, hlines]
    · rfl
    · rintro rfl hhead
      cases rest with
      | nil => exact hback hhead
      | cons d tail =>
        obtain rfl : d = '\n' := by simpa using hhead
        exact hpair tail rfl rfl
  | case4 c rest hpair hboundary hrest ih =>
    obtain ⟨before, last, hopen, hlines⟩ := ih
    simp only [Bool.not_eq_true] at hboundary
    obtain ⟨rfl, rfl⟩ : before = [] ∧ last = [] := by simpa [LeaveOpen, hrest] using hopen
    refine ⟨[], [c], .inl rfl, ?_⟩
    rw [List.cons_append, lines_cons_of_unbroken _ hboundary, hlines]
    rfl
  | case5 c rest hpair hboundary first others hrest ih =>
    obtain ⟨before, last, hopen, hlines⟩ := ih
    simp only [Bool.not_eq_true] at hboundary
    rw [List.cons_append, lines_cons_of_unbroken _ hboundary, hlines]
    rw [hrest] at hopen
    cases before with
    | nil =>
      obtain ⟨rfl, rfl⟩ : first = last ∧ others = [] := by simpa [LeaveOpen] using hopen
      exact ⟨[], c :: first, .inl rfl, rfl⟩
    | cons head tail =>
      obtain ⟨rfl, hothers⟩ : first = head ∧ LeaveOpen others tail last := by
        simpa [LeaveOpen, and_assoc, ← and_or_left] using hopen
      exact ⟨(c :: first) :: tail, last, LeaveOpen.cons hothers _, rfl⟩

/-- A line feed behind a text that ends within a line ends that line. -/
theorem lines_append_newline_append {cs : List Char} (rest : List Char) {c : Char}
    (hlast : cs.getLast? = some c) (h : isLineBoundary c = false) :
    lines (cs ++ '\n' :: rest) = lines cs ++ lines rest := by
  have hbehind {d : Char} {tail : List Char} (hlast : (d :: tail).getLast? = some c)
      (hd : isLineBoundary d = true) : tail.getLast? = some c := by
    cases tail with
    | nil =>
      obtain rfl : d = c := by simpa using hlast
      simp [hd] at h
    | cons e others => exact hlast
  fun_induction lines cs with
  | case1 => simp at hlast
  | case2 tail ih =>
    have htail := hbehind (hbehind hlast (by decide)) (by decide)
    simp [lines, ih htail]
  | case3 d tail hpair hboundary ih =>
    have htail := hbehind hlast hboundary
    rw [List.cons_append, lines_cons_of_boundary hboundary, ih htail]
    · rfl
    · rintro rfl hhead
      obtain ⟨first, others, rfl⟩ : ∃ first others, tail = first :: others :=
        List.exists_cons_of_ne_nil (by rintro rfl; simp at htail)
      obtain rfl : first = '\n' := by simpa using hhead
      exact hpair others rfl rfl
  | case4 d tail hpair hboundary hrest ih =>
    simp only [Bool.not_eq_true] at hboundary
    obtain rfl := lines_eq_nil_iff.mp hrest
    have hd : Unbroken [d] := by simp [hboundary]
    exact lines_append_newline rest hd
  | case5 d tail hpair hboundary first others hrest ih =>
    simp only [Bool.not_eq_true] at hboundary
    have htail : tail.getLast? = some c := by
      cases tail with
      | nil => simp [lines] at hrest
      | cons => exact hlast
    rw [List.cons_append, lines_cons_of_unbroken _ hboundary, ih htail, hrest]
    rfl

theorem trim_subset (cs : List Char) : trim cs ⊆ cs := by
  intro c hc
  simp only [trim, trimWhere, List.mem_reverse] at hc
  have hreversed := (List.dropWhile_sublist isBlank).subset hc
  exact (List.dropWhile_sublist isBlank).subset (List.mem_reverse.mp hreversed)

/-- Characters with no blank at either end are trimmed already. -/
theorem trim_eq_self {cs : List Char} (hhead : ∀ c ∈ cs.head?, isBlank c = false)
    (hlast : ∀ c ∈ cs.getLast?, isBlank c = false) : trim cs = cs := by
  have hstart : cs.dropWhile isBlank = cs := by
    cases cs with
    | nil => rfl
    | cons c rest => simp [hhead c rfl]
  have hend : cs.reverse.dropWhile isBlank = cs.reverse := by
    cases hreverse : cs.reverse with
    | nil => rfl
    | cons c rest =>
      have hc : cs.getLast? = some c := by
        rw [← List.head?_reverse, hreverse]
        rfl
      simp [hlast c hc]
  rw [trim, trimWhere, hstart, hend, List.reverse_reverse]

theorem trim_cons_of_isBlank {c : Char} (cs : List Char) (h : isBlank c = true) :
    trim (c :: cs) = trim cs := by
  simp [trim, trimWhere, h]

/-- Two line feeds behind a text that ends within a line end that line and make an empty one. -/
theorem lines_append_blank_append {cs : List Char} (rest : List Char) {c : Char}
    (hlast : cs.getLast? = some c) (h : isLineBoundary c = false) :
    lines (cs ++ '\n' :: '\n' :: rest) = lines cs ++ [] :: lines rest := by
  have hempty : lines ('\n' :: rest) = [] :: lines rest := lines_append_newline rest unbroken_nil
  rw [lines_append_newline_append _ hlast h, hempty]

end NativeExtension.Text

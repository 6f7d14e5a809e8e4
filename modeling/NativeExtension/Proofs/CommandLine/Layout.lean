import Mathlib.Data.List.Basic
import NativeExtension.CommandLine.Display

namespace NativeExtension.CommandLine.Display

theorem not_mem_of_mem_splitOn {separator : Char} {cs part : List Char}
    (h : part ∈ cs.splitOn separator) : separator ∉ part := by
  induction cs generalizing part with
  | nil =>
    obtain rfl : part = [] := by simpa using h
    simp
  | cons c cs ih =>
    rw [List.splitOn_cons_eq_if_modifyHead] at h
    split at h
    next hc =>
      obtain rfl | hmem := List.mem_cons.mp h
      · simp
      · exact ih hmem
    next hc =>
      cases hsplit : cs.splitOn separator with
      | nil => simp [hsplit] at h
      | cons first others =>
        rw [hsplit] at h ih
        obtain rfl | hmem := List.mem_cons.mp h
        · have hfirst : separator ∉ first := ih List.mem_cons_self
          have hne : separator ≠ c := fun heq => hc (by simp [heq])
          simp [hne, hfirst]
        · exact ih (List.mem_cons_of_mem _ hmem)

/-- Other characters occur in the parts as often as with the separators between them. -/
theorem count_intercalate {separator c : Char} (h : c ≠ separator) (parts : List (List Char)) :
    ([separator].intercalate parts).count c = parts.flatten.count c := by
  induction parts with
  | nil => rfl
  | cons part parts ih =>
    cases parts with
    | nil => simp
    | cons next others =>
      simp [List.intercalate_cons_cons, List.count_append, ih, Ne.symm h]

/-- Changing parts in which a character keeps its number keeps it in the whole. -/
theorem count_intercalate_map {separator c : Char} {f : List Char → List Char}
    (hf : ∀ part, (f part).count c = part.count c) (parts : List (List Char)) :
    ([separator].intercalate (parts.map f)).count c = ([separator].intercalate parts).count c := by
  induction parts with
  | nil => rfl
  | cons part parts ih =>
    cases parts with
    | nil => simpa using hf part
    | cons next others =>
      simp only [List.map_cons] at ih ⊢
      rw [List.intercalate_cons_cons, List.intercalate_cons_cons]
      simp only [List.count_append, ih, hf]

/-- Laying out adds spaces only. -/
theorem count_layOut {c : Char} (h : c ≠ ' ') (column : Nat) (parts : List (List Char)) :
    (layOut column parts).count c = parts.flatten.count c := by
  fun_induction layOut column parts with
  | case1 => rfl
  | case2 => simp
  | case3 column part rest _ spaced _ more ih =>
    have hspaces : (List.replicate more ' ').count c = 0 :=
      List.count_eq_zero.mpr fun hmem => h (List.eq_of_mem_replicate hmem)
    simp [spaced, List.count_append, ih, hspaces, Ne.symm h]

/-- Expanding tabs keeps every character but tabs and spaces. -/
theorem count_expandTabs {c : Char} (htab : c ≠ '\t') (hspace : c ≠ ' ') (cs : List Char) :
    (expandTabs cs).count c = cs.count c := by
  have hline (line : List Char) : (layOut 0 (line.splitOn '\t')).count c = line.count c := calc
    (layOut 0 (line.splitOn '\t')).count c = (line.splitOn '\t').flatten.count c :=
      count_layOut hspace 0 _
    _ = (['\t'].intercalate (line.splitOn '\t')).count c := (count_intercalate htab _).symm
    _ = line.count c := by rw [List.intercalate_splitOn]
  rw [expandTabs, count_intercalate_map hline, List.intercalate_splitOn]

theorem tab_not_mem_expandTabs (cs : List Char) : '\t' ∉ expandTabs cs := by
  have hline (line : List Char) : '\t' ∉ layOut 0 (line.splitOn '\t') := by
    rw [← List.count_eq_zero, count_layOut (by decide), List.count_eq_zero, List.mem_flatten]
    rintro ⟨part, hpart, htab⟩
    exact not_mem_of_mem_splitOn hpart htab
  rw [← List.count_eq_zero, expandTabs, count_intercalate (by decide), List.count_eq_zero,
    List.mem_flatten]
  rintro ⟨laid, hlaid, htab⟩
  obtain ⟨line, -, rfl⟩ := List.mem_map.mp hlaid
  exact hline line htab

theorem expandTabs_eq_self {cs : List Char} (h : '\t' ∉ cs) : expandTabs cs = cs := by
  have hline : ∀ line ∈ cs.splitOn '\n', layOut 0 (line.splitOn '\t') = line := by
    intro line hmem
    have htab : '\t' ∉ line := by
      intro htab
      have hjoined : ['\n'].intercalate (cs.splitOn '\n') = cs := List.intercalate_splitOn _
      refine h ?_
      rw [← List.count_pos_iff] at htab ⊢
      rw [← hjoined, count_intercalate (by decide)]
      exact List.count_pos_iff.mpr (List.mem_flatten.mpr ⟨line, hmem, List.count_pos_iff.mp htab⟩)
    rw [List.splitOn_eq_singleton htab]
    rfl
  have hlines : (cs.splitOn '\n').map (fun line => layOut 0 (line.splitOn '\t')) = cs.splitOn '\n' :=
    (List.map_congr_left hline).trans (List.map_id _)
  rw [expandTabs, hlines, List.intercalate_splitOn]

/-- A character that neither moves the cursor nor stands for or in place of a tab appears as often
    as it is there. -/
theorem count_shown {c : Char} (htab : c ≠ '\t') (hspace : c ≠ ' ') (hmove : movesCursor c = false)
    (cs : List Char) : (shown cs).toList.count c = cs.count c := by
  rw [shown, String.toList_ofList, count_expandTabs htab hspace, List.count_filter (by simp [hmove])]

theorem tab_not_mem_shown (cs : List Char) : '\t' ∉ (shown cs).toList := by
  rw [shown, String.toList_ofList]
  exact tab_not_mem_expandTabs _

theorem not_mem_shown_of_movesCursor {c : Char} (h : movesCursor c = true) (cs : List Char) :
    c ∉ (shown cs).toList := by
  have htab : c ≠ '\t' := by
    rintro rfl
    exact absurd h (by decide)
  have hspace : c ≠ ' ' := by
    rintro rfl
    exact absurd h (by decide)
  rw [shown, String.toList_ofList, ← List.count_eq_zero, count_expandTabs htab hspace,
    List.count_eq_zero, List.mem_filter]
  simp [h]

theorem shown_eq_self {cs : List Char} (htab : '\t' ∉ cs)
    (hmove : ∀ c ∈ cs, movesCursor c = false) : (shown cs).toList = cs := by
  have hfilter : cs.filter (!movesCursor ·) = cs :=
    List.filter_eq_self.mpr fun c hc => by simp [hmove c hc]
  rw [shown, String.toList_ofList, hfilter, expandTabs_eq_self htab]

end NativeExtension.CommandLine.Display

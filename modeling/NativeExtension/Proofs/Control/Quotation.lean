import NativeExtension.Control
import NativeExtension.Proofs.Text.Lines

namespace NativeExtension.Control

open Text

/-- Doubling is undone pair by pair, whatever run of quotes stands in the value. -/
theorem halveQuotes_doubleQuotes (cs : List Char) : halveQuotes (doubleQuotes cs) = cs := by
  induction cs with
  | nil => rfl
  | cons c rest ih =>
    by_cases hc : c = '\x27'
    · subst hc
      simp [doubleQuotes, halveQuotes, ih]
    · rw [doubleQuotes, if_neg hc, halveQuotes, ih]
      intro _ heq
      exact absurd heq hc

theorem halveQuotes_subset (cs : List Char) : halveQuotes cs ⊆ cs := by
  fun_induction halveQuotes cs with
  | case1 rest ih =>
    refine List.cons_subset.mpr ⟨List.mem_cons_self, ?_⟩
    exact fun c hc => List.mem_cons_of_mem _ (List.mem_cons_of_mem _ (ih hc))
  | case2 c rest _ ih => exact List.cons_subset_cons c ih
  | case3 => exact List.Subset.refl _

theorem doubleQuotes_subset (cs : List Char) : doubleQuotes cs ⊆ cs := by
  induction cs with
  | nil => exact List.Subset.refl _
  | cons c rest ih =>
    have hrest : doubleQuotes rest ⊆ c :: rest := fun d hd => List.mem_cons_of_mem c (ih hd)
    unfold doubleQuotes
    split
    · simpa [List.cons_subset] using hrest
    · simpa [List.cons_subset] using hrest

theorem subset_doubleQuotes (cs : List Char) : cs ⊆ doubleQuotes cs := by
  have hhalved := halveQuotes_subset (doubleQuotes cs)
  rwa [halveQuotes_doubleQuotes] at hhalved

theorem doubleQuotes_append (cs ds : List Char) :
    doubleQuotes (cs ++ ds) = doubleQuotes cs ++ doubleQuotes ds := by
  induction cs with
  | nil => rfl
  | cons c rest ih =>
    rw [List.cons_append, doubleQuotes, doubleQuotes, ih]
    split <;> rfl

theorem find?_doubleQuotes (cs : List Char) :
    (doubleQuotes cs).find? (!isBlank ·) = cs.find? (!isBlank ·) := by
  have hquote : isBlank '\x27' = false := by decide
  induction cs with
  | nil => rfl
  | cons c rest ih =>
    unfold doubleQuotes
    split
    next hc => simp [hc, hquote]
    next => rw [List.find?_cons, List.find?_cons, ih]

theorem head?_doubleQuotes (cs : List Char) : (doubleQuotes cs).head? = cs.head? := by
  cases cs with
  | nil => rfl
  | cons c rest =>
    unfold doubleQuotes
    split <;> rfl

/-- Doubling leaves the lines where they are. -/
theorem lines_doubleQuotes (cs : List Char) :
    lines (doubleQuotes cs) = (lines cs).map doubleQuotes := by
  have hquote : isLineBoundary '\x27' = false := by decide
  have hfront {c : Char} {rest : List Char} (hc : ¬ isLineBoundary c = true) :
      lines (doubleQuotes (c :: rest)) =
        (doubleQuotes [c] ++ (lines (doubleQuotes rest)).headD []) ::
          (lines (doubleQuotes rest)).tail := by
    have hne : doubleQuotes [c] ≠ [] := by
      intro hnil
      have hhead := head?_doubleQuotes [c]
      simp [hnil] at hhead
    have hunbroken : Unbroken [c] := by simpa using hc
    have happend : doubleQuotes (c :: rest) = doubleQuotes [c] ++ doubleQuotes rest :=
      doubleQuotes_append [c] rest
    rw [happend, lines_append_of_unbroken _ hne (hunbroken.of_subset (doubleQuotes_subset [c]))]
  fun_induction lines cs with
  | case1 => rfl
  | case2 rest ih => simp [doubleQuotes, lines, ih]
  | case3 c rest hpair hboundary ih =>
    have hc : c ≠ '\x27' := by
      rintro rfl
      simp [hquote] at hboundary
    rw [doubleQuotes, if_neg hc, lines_cons_of_boundary hboundary, ih]
    · rfl
    · rintro rfl hhead
      rw [head?_doubleQuotes] at hhead
      obtain ⟨tail, rfl⟩ := List.head?_eq_some_iff.mp hhead
      exact hpair tail rfl rfl
  | case4 c rest hpair hboundary hrest ih =>
    rw [hfront hboundary, ih, hrest]
    simp
  | case5 c rest hpair hboundary first others hrest ih =>
    rw [hfront hboundary, ih, hrest, List.map_cons, List.headD_cons, List.tail_cons,
      ← doubleQuotes_append]
    rfl

theorem unquote_subset (cs : List Char) : unquote cs ⊆ cs := by
  have htrim := trim_subset cs
  unfold unquote
  split
  next rest heq =>
    rw [heq] at htrim
    split
    · intro c hc
      have hrest : c ∈ rest := rest.dropLast_subset (halveQuotes_subset _ hc)
      exact htrim (List.mem_cons_of_mem _ hrest)
    · exact htrim
  next => exact htrim

theorem quote_unbroken {cs : List Char} (h : Unbroken cs) : Unbroken (quote cs) := by
  have hquote : isLineBoundary '\x27' = false := by decide
  simp [quote, hquote, h.of_subset (doubleQuotes_subset cs)]

theorem getLast?_quote (cs : List Char) : (quote cs).getLast? = some '\x27' :=
  List.getLast?_concat

/-- A value between quotes is read back as it was, behind any single space. No white space of the
    value is lost, since the quotes keep it from the ends. -/
theorem unquote_space_quote (cs : List Char) : unquote (' ' :: quote cs) = cs := by
  have htrim : trim (' ' :: quote cs) = quote cs := by
    rw [trim_cons_of_isBlank _ (by decide)]
    refine trim_eq_self ?_ ?_
    · intro c hc
      obtain rfl : '\x27' = c := by simpa [quote] using hc
      decide
    · intro c hc
      obtain rfl : '\x27' = c := by simpa [getLast?_quote] using hc
      decide
  have hquote : quote cs = '\x27' :: (doubleQuotes cs ++ ['\x27']) := rfl
  rw [unquote, htrim, hquote]
  simp [halveQuotes_doubleQuotes]

end NativeExtension.Control

import NativeExtension.Declaration
import NativeExtension.Proofs.Text.Lines

namespace NativeExtension.Sql.Token

open Text

theorem isLineBoundary_of_isNameRest {c : Char} (h : isNameRest c = true) :
    isLineBoundary c = false := by
  delta isNameRest Char.isAlphanum Char.isAlpha Char.isUpper Char.isLower Char.isDigit at h
  simp only [Bool.or_eq_true, Bool.and_eq_true, decide_eq_true_eq, beq_iff_eq,
    UInt32.le_iff_toNat_le, or_assoc] at h
  change (65 ≤ c.toNat ∧ c.toNat ≤ 90) ∨ (97 ≤ c.toNat ∧ c.toNat ≤ 122) ∨
    (48 ≤ c.toNat ∧ c.toNat ≤ 57) ∨ c = '_' ∨ c = '$' at h
  have hnot : ¬ isLineBoundary c = true := by
    simp only [isLineBoundary, Bool.or_eq_true, Bool.and_eq_true, decide_eq_true_eq, beq_iff_eq]
    obtain hcode | hcode | hcode | rfl | rfl := h
    · omega
    · omega
    · omega
    · decide
    · decide
  simpa using hnot

theorem unbroken_takeWhile_isNameRest (cs : List Char) : Unbroken (cs.takeWhile isNameRest) :=
  fun c hc => isLineBoundary_of_isNameRest (List.all_eq_true.mp List.all_takeWhile c hc)

/-- What is spelled as a name without quotes holds no line boundary, but for the line feed that may
    follow it. -/
theorem unbroken_of_spellsName {cs : List Char} (h : spellsName cs = true) :
    ∃ front, Unbroken front ∧ (cs = front ∨ cs = front ++ ['\n']) := by
  cases cs with
  | nil => cases h
  | cons c rest =>
    simp only [spellsName, Bool.and_eq_true, Bool.or_eq_true, beq_iff_eq] at h
    obtain ⟨hstart, hend⟩ := h
    have hc : isNameRest c = true := by
      simp only [isNameStart, isNameRest, Char.isAlphanum, Bool.or_eq_true] at hstart ⊢
      obtain hstart | hstart := hstart
      · exact .inl (.inl (.inl hstart))
      · exact .inl (.inr hstart)
    have hfront : Unbroken (c :: rest.takeWhile isNameRest) :=
      unbroken_cons.mpr ⟨isLineBoundary_of_isNameRest hc, unbroken_takeWhile_isNameRest rest⟩
    have hrest := List.takeWhile_append_dropWhile (p := isNameRest) (l := rest)
    refine ⟨_, hfront, ?_⟩
    obtain hend | hend := hend
    · rw [hend, List.append_nil] at hrest
      exact .inl (by rw [hrest])
    · rw [hend] at hrest
      exact .inr (by rw [List.cons_append, hrest])

end NativeExtension.Sql.Token

namespace NativeExtension.Declaration

open Sql

/-- The token that names the function, once the walk has come to it. -/
def Awaiting.name? : Awaiting → Option Token
  | .create | .function | .name => none
  | .language t | .languageName t => some t

/-- Following a qualified name leads to another of the tokens that can name a function. -/
theorem qualified_names {t : Token} (rest : List Token) (ht : t.isName = true) :
    (qualified t rest).1 ∈ t :: rest ∧ (qualified t rest).1.isName = true ∧
      (qualified t rest).2 ⊆ rest := by
  fun_induction qualified t rest with
  | case1 t dot next rest hnext ih =>
    simp only [Bool.and_eq_true] at hnext
    obtain ⟨hmem, hname, hsubset⟩ := ih hnext.2
    exact ⟨List.mem_cons_of_mem _ (List.mem_cons_of_mem _ hmem), hname,
      fun _ hu => List.mem_cons_of_mem _ (List.mem_cons_of_mem _ (hsubset hu))⟩
  | case2 t dot next rest => exact ⟨List.mem_cons_self, ht, fun _ hu => hu⟩
  | case3 t rest => exact ⟨List.mem_cons_self, ht, fun _ hu => hu⟩

/-- A declaration of the function that one of the given tokens names. -/
def NamedAmong (tokens : List Token) (d : Declaration) : Prop :=
  ∃ t ∈ tokens, t.isName = true ∧ d = ofName t

theorem NamedAmong.mono {xs ys : List Token} {d : Declaration} (h : NamedAmong xs d)
    (hsubset : xs ⊆ ys) : NamedAmong ys d := by
  obtain ⟨t, ht, hname⟩ := h
  exact ⟨t, hsubset ht, hname⟩

/-- A function that is found is named by the token that the walk carries, or by one still to come.
    A state that carries none asks for nothing, so that all steps but two drop what they read. -/
theorem namedAmong_of_mem_walk (state : Awaiting) {rest : List Token} {d : Declaration}
    (hstate : ∀ t ∈ state.name?.toList, t.isName = true) (hd : d ∈ walk state rest) :
    NamedAmong (state.name?.toList ++ rest) d := by
  have hnone : ∀ t ∈ (none : Option Token).toList, t.isName = true := by simp
  have hread (carried : List Token) (u : Token) (rest : List Token) :
      carried ++ rest ⊆ carried ++ u :: rest :=
    ((List.sublist_cons_self u rest).append_left carried).subset
  have hdrop (carried : List Token) (u : Token) (rest : List Token) :
      rest ⊆ carried ++ u :: rest :=
    fun _ ht => hread carried u rest (List.mem_append_right carried ht)
  fun_induction walk state rest with
  | case1 => cases hd
  | case2 u rest ih =>
    split at ih
    · exact (ih hnone (by simpa [*] using hd)).mono (hdrop [] u rest)
    · exact (ih hnone (by simpa [*] using hd)).mono (hdrop [] u rest)
  | case3 u rest _ ih => exact (ih hnone hd).mono (hdrop [] u rest)
  | case4 u rest _ _ ih => exact (ih hnone hd).mono (hdrop [] u rest)
  | case5 u rest _ _ ih => exact (ih hnone hd).mono (hdrop [] u rest)
  | case6 u rest hname ih =>
    obtain ⟨hmem, hnamed, hsubset⟩ := qualified_names rest hname
    refine (ih (by simpa [Awaiting.name?] using hnamed) hd).mono fun t ht => ?_
    obtain rfl | ht := List.mem_cons.mp ht
    · exact hmem
    · exact List.mem_cons_of_mem u (hsubset ht)
  | case7 u rest _ ih => exact (ih hnone hd).mono (hdrop [] u rest)
  | case8 name u rest _ ih => exact (ih hnone hd).mono (hdrop [name] u rest)
  | case9 name u rest _ _ ih => exact (ih hstate hd).mono (hread [name] u rest)
  | case10 name u rest _ _ ih => exact (ih hstate hd).mono (hread [name] u rest)
  | case11 name u rest _ ih =>
    obtain rfl | hd := List.mem_cons.mp hd
    · exact ⟨name, List.mem_cons_self, hstate name List.mem_cons_self, rfl⟩
    · exact (ih hnone hd).mono (hdrop [name] u rest)
  | case12 name u rest _ ih => exact (ih hnone hd).mono (hdrop [name] u rest)

theorem namedAmong_of_mem {tokens : List Token} {d : Declaration} (hd : d ∈ ofTokens tokens) :
    NamedAmong tokens d :=
  namedAmong_of_mem_walk .create (by simp [Awaiting.name?]) hd

end NativeExtension.Declaration

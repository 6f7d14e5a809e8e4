import NativeExtension.Proofs.Declaration.Located
import NativeExtension.Proofs.Declaration.Semicolon

namespace NativeExtension.Declaration

open Sql

/-- Following a qualified name takes as many parts as there are, and leaves the tokens behind the
    last of them. -/
theorem qualified_named {tokens : List Token} {m : Nat} {t : Token} {rest : List Token}
    (ht : tokens[m]? = some t) (hrest : tokens.drop (m + 1) = rest) :
    ∃ count, tokens[m + 2 * count]? = some (qualified t rest).1 ∧
      tokens.drop (m + 2 * count + 1) = (qualified t rest).2 ∧
      (∀ j < count, Stands tokens Token.isDot (m + 2 * j + 1) ∧
        Stands tokens Token.isName (m + 2 * j + 2)) ∧
      ¬ (Stands tokens Token.isDot (m + 2 * count + 1) ∧
        Stands tokens Token.isName (m + 2 * count + 2)) := by
  fun_induction qualified t rest generalizing m with
  | case1 t dot next rest hnext ih =>
    have hdrop := drop_succ_of_drop hrest
    simp only [Bool.and_eq_true] at hnext
    have hdot := (stands_iff_of_drop hrest Token.isDot).mpr hnext.1
    have hname := (stands_iff_of_drop hdrop Token.isName).mpr hnext.2
    have hget := getElem?_of_drop hdrop
    obtain ⟨count, hlast, hleft, hparts, hmaximal⟩ := ih hget (drop_succ_of_drop hdrop)
    have hshift : ∀ j, m + 2 * (j + 1) = m + 2 + 2 * j := by omega
    refine ⟨count + 1, by rwa [hshift], by rwa [hshift], ?_, by rwa [hshift]⟩
    intro j hj
    cases j with
    | zero => exact ⟨hdot, hname⟩
    | succ j =>
      rw [hshift]
      exact hparts j (by omega)
  | case2 t dot next rest hnext =>
    refine ⟨0, ht, hrest, by simp, ?_⟩
    rintro ⟨hdot, hname⟩
    have hdot := (stands_iff_of_drop hrest Token.isDot).mp hdot
    have hname := (stands_iff_of_drop (drop_succ_of_drop hrest) Token.isName).mp hname
    exact hnext (by simp [hdot, hname])
  | case3 t rest hshort =>
    refine ⟨0, ht, hrest, by simp, ?_⟩
    rintro ⟨hdot, hname⟩
    cases rest with
    | nil => exact not_stands_of_drop_nil hrest (by omega) _ hdot
    | cons dot rest =>
      cases rest with
      | nil => exact not_stands_of_drop_nil (drop_succ_of_drop hrest) (by omega) _ hname
      | cons next rest => exact hshort dot next rest rfl

/-- Whatever the walk has underway, what it still finds stands at the occurrences that are still to
    come. The induction follows the walk; each step reads on, has nothing more underway, or
    completes an occurrence. -/
theorem exists_located {tokens : List Token} (hplain : PlainSemicolons tokens) (state : Awaiting)
    (rest : List Token) {start n : Nat} (hrest : tokens.drop n = rest)
    (hunderway : Underway tokens start n state) :
    ∃ occs, Located tokens start n (walk state rest) occs := by
  fun_induction walk state rest generalizing start n with
  | case1 state => exact ⟨[], hunderway.located_nil hrest⟩
  | case2 t rest ih =>
    obtain rfl : start = n := hunderway
    have hdrop := drop_succ_of_drop hrest
    by_cases hcreate : t.isKeyword "CREATE" = true
    · have hstands := (stands_iff_of_drop hrest (·.isKeyword "CREATE")).mpr hcreate
      simp only [hcreate, ↓reduceIte] at ih ⊢
      obtain ⟨occs, h⟩ := ih hdrop ⟨Nat.lt_succ_self start, hstands, fun j _ _ => by omega⟩
      exact ⟨occs, h.read_one
        (hplain.not_stands hstands fun _ _ ht => isKeyword_of_semicolon ht (by decide))⟩
    · simp only [hcreate] at ih ⊢
      obtain ⟨occs, h⟩ := ih hdrop rfl
      have hnothing : Underway tokens start start .create := rfl
      exact ⟨occs, hnothing.located_resume ((stands_iff_of_drop hrest _).not.mpr hcreate) h⟩
  | case3 t rest hfunction ih =>
    have hstands := (stands_iff_of_drop hrest (·.isKeyword "FUNCTION")).mpr hfunction
    obtain ⟨occs, h⟩ := ih (drop_succ_of_drop hrest) ⟨n, rfl, hunderway, hstands⟩
    exact ⟨occs, h.read_one
      (hplain.not_stands hstands fun _ _ ht => isKeyword_of_semicolon ht (by decide))⟩
  | case4 t rest _ hmodifier ih =>
    have hstands := (stands_iff_of_drop hrest isModifier).mpr hmodifier
    obtain ⟨occs, h⟩ := ih (drop_succ_of_drop hrest) (hunderway.snoc hstands)
    exact ⟨occs, h.read_one (hplain.not_stands hstands fun _ _ => isModifier_of_semicolon)⟩
  | case5 t rest hfunction hmodifier ih =>
    obtain ⟨occs, h⟩ := ih (drop_succ_of_drop hrest) rfl
    refine ⟨occs, hunderway.located_resume ((stands_iff_of_drop hrest _).not.mpr ?_) h⟩
    simp_all [carriesOn, isModifier]
  | case6 t rest hname ih =>
    obtain ⟨f, rfl, hopened, hfunction⟩ := hunderway
    have hget := getElem?_of_drop hrest
    obtain ⟨count, hlast, hleft, hparts, hmaximal⟩ :=
      qualified_named hget (drop_succ_of_drop hrest)
    have hnamed : Named tokens (f + 1) (f + 1 + 2 * count) :=
      ⟨⟨t, hget, hname⟩, ⟨count, rfl, hparts⟩, hmaximal⟩
    obtain ⟨occs, h⟩ := ih hleft ⟨f, f + 1 + 2 * count, hopened, hfunction, hnamed, hlast,
      Nat.lt_succ_self _, fun j _ _ => by omega⟩
    exact ⟨occs, h.read fun k hk hlt => hnamed.not_isSeparator hplain hk (by omega)⟩
  | case7 t rest hname ih =>
    obtain ⟨occs, h⟩ := ih (drop_succ_of_drop hrest) rfl
    exact ⟨occs, hunderway.located_resume ((stands_iff_of_drop hrest _).not.mpr hname) h⟩
  | case8 name t rest hseparator ih =>
    obtain ⟨occs, h⟩ := ih (drop_succ_of_drop hrest) rfl
    refine ⟨occs, hunderway.located_resume ((stands_iff_of_drop hrest _).not.mpr ?_) h⟩
    have htext := hplain t (List.mem_of_getElem? (getElem?_of_drop hrest)) hseparator
    simp [carriesOn, isFiller, hseparator, isKeyword_of_semicolon htext]
  | case9 name t rest _ hlanguage ih =>
    obtain ⟨f, m, hopened, hfunction, hnamed, hget, hfilled⟩ := hunderway
    have hstands := (stands_iff_of_drop hrest (·.isKeyword "LANGUAGE")).mpr hlanguage
    obtain ⟨occs, h⟩ := ih (drop_succ_of_drop hrest)
      ⟨f, m, n, rfl, hopened, hfunction, hnamed, hget, hfilled, hstands⟩
    exact ⟨occs, h.read_one
      (hplain.not_stands hstands fun _ _ ht => isKeyword_of_semicolon ht (by decide))⟩
  | case10 name t rest hseparator hlanguage ih =>
    obtain ⟨f, m, hopened, hfunction, hnamed, hget, hfilled⟩ := hunderway
    have hstands : Stands tokens isFiller n :=
      (stands_iff_of_drop hrest isFiller).mpr (by simp [isFiller, hseparator, hlanguage])
    obtain ⟨occs, h⟩ := ih (drop_succ_of_drop hrest)
      ⟨f, m, hopened, hfunction, hnamed, hget, hfilled.snoc hstands⟩
    exact ⟨occs, h.read_one ((stands_iff_of_drop hrest _).not.mpr hseparator)⟩
  | case11 name t rest hnative ih =>
    obtain ⟨f, m, l, rfl, hopened, hfunction, hnamed, hget, hfilled, hlanguage⟩ := hunderway
    obtain ⟨occs, h⟩ := ih (drop_succ_of_drop hrest) rfl
    have hstands := (stands_iff_of_drop hrest Token.namesNativeLanguage).mpr hnative
    have ho : Occurs tokens ⟨start, f, m, l⟩ :=
      ⟨hopened, hfunction, hnamed, hfilled, hlanguage, hstands⟩
    exact ⟨_, h.cons ho ⟨name, hget, rfl⟩ rfl⟩
  | case12 name t rest hnative ih =>
    obtain ⟨occs, h⟩ := ih (drop_succ_of_drop hrest) rfl
    exact ⟨occs, hunderway.located_resume ((stands_iff_of_drop hrest _).not.mpr hnative) h⟩

end NativeExtension.Declaration

import Mathlib.Data.Nat.Find
import NativeExtension.Proofs.Declaration.Walk

namespace NativeExtension.Declaration

open Sql

/-- Every keyword `CREATE` before a position is cut off from it, by a semicolon or by the end of an
    occurrence among the given ones. -/
def CutOff (tokens : List Token) (occs : List Occurrence) (i : Nat) : Prop :=
  ∀ k < i, Stands tokens (·.isKeyword "CREATE") k →
    (∃ s, k < s ∧ s < i ∧ Stands tokens Token.isSeparator s) ∨
      ∃ o ∈ occs, k ≤ o.language + 1 ∧ o.language + 1 < i

/-- Behind the last place before a position where nothing is underway, no keyword `CREATE` stands
    that is not cut off. -/
theorem CutOff.exists_fresh {tokens : List Token} {occs : List Occurrence} {i : Nat}
    (h : CutOff tokens occs i) : ∃ j, Resumes tokens occs 0 0 j ∧ Fresh tokens j i := by
  classical
  let P := fun j => Resumes tokens occs 0 0 j
  have hlast := Nat.findGreatest_spec (P := P) (Nat.zero_le i) (.inl rfl)
  have hle := Nat.findGreatest_le (P := P) i
  refine ⟨Nat.findGreatest P i, hlast, hle, fun k hk hlt hcreate => ?_⟩
  rcases h k hlt hcreate with ⟨s, hks, hsi, hseparator⟩ | ⟨o, ho, hko, hoi⟩
  · have hgreatest := Nat.le_findGreatest (P := P) (show s + 1 ≤ i by omega)
      (.inr (.inl ⟨Nat.succ_pos s, hseparator⟩))
    omega
  · have hgreatest := Nat.le_findGreatest (P := P) (show o.language + 2 ≤ i by omega)
      (.inr (.inr ⟨o, ho, rfl⟩))
    omega

/-- The declarations found in tokens are those of occurrences that are apart and in order, and every
    occurrence is among them whose statement has no earlier keyword `CREATE`. An earlier `CREATE`
    is harmless also where the end of a found occurrence lies between. Semicolons must have the
    text of one, or a semicolon could be read as a keyword. -/
theorem ofTokens_occurrences (tokens : List Token)
    (hplain : ∀ t ∈ tokens, t.isSeparator = true → t.text = ";") :
    ∃ occs : List Occurrence,
      List.Forall₂ (fun d o => Occurs tokens o ∧ o.Declares tokens d) (ofTokens tokens) occs ∧
      occs.Pairwise (fun o p => o.language + 1 < p.create) ∧
      ∀ o, Occurs tokens o → CutOff tokens occs o.create → o ∈ occs := by
  have hnothing : Underway tokens 0 0 .create := rfl
  obtain ⟨occs, h⟩ := exists_located hplain .create tokens rfl hnothing
  refine ⟨occs, h.declares, h.apart, fun o ho hcut => ?_⟩
  obtain ⟨j, hresumes, hfresh⟩ := hcut.exists_fresh
  exact h.complete o j ho hresumes hfresh

/-- Two statements in one text: in the first the search for a declaration fails at its end, and the
    second declares a function with a qualified name. -/
theorem ofTokens_occurrences_two_statements :
    let tokens : List Token :=
      [⟨.word, "create", 1⟩, ⟨.word, "function", 1⟩, ⟨.word, "f", 1⟩, ⟨.semicolon, ";", 1⟩,
       ⟨.word, "CREATE", 2⟩, ⟨.word, "OR", 2⟩, ⟨.word, "REPLACE", 2⟩, ⟨.word, "FUNCTION", 2⟩,
       ⟨.word, "s", 2⟩, ⟨.dot, ".", 2⟩, ⟨.quotedName, "g", 3⟩, ⟨.word, "LANGUAGE", 4⟩,
       ⟨.string, "C", 4⟩]
    (∀ t ∈ tokens, t.isSeparator = true → t.text = ";") ∧
    ∃ occs : List Occurrence,
      List.Forall₂ (fun d o => Occurs tokens o ∧ o.Declares tokens d) (ofTokens tokens) occs ∧
      occs.Pairwise (fun o p => o.language + 1 < p.create) ∧
      ∀ o, Occurs tokens o → CutOff tokens occs o.create → o ∈ occs := by
  intro tokens
  have hplain : ∀ t ∈ tokens, t.isSeparator = true → t.text = ";" := by decide
  exact ⟨hplain, ofTokens_occurrences tokens hplain⟩

end NativeExtension.Declaration

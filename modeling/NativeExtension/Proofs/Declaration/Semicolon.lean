import NativeExtension.Proofs.Declaration.Occurrence

namespace NativeExtension.Declaration

open Sql

/-- Tokens whose semicolons have the text of a semicolon. -/
def PlainSemicolons (tokens : List Token) : Prop :=
  ∀ t ∈ tokens, t.isSeparator = true → t.text = ";"

theorem isKeyword_of_semicolon {t : Token} (ht : t.text = ";") {word : String}
    (hword : word ≠ ";") : t.isKeyword word = false := by
  have hcapitals : Text.capitals ";" = ";" := by decide
  simp [Token.isKeyword, ht, hcapitals, hword.symm]

theorem isModifier_of_semicolon {t : Token} (ht : t.text = ";") : isModifier t = false := by
  simp [isModifier, isKeyword_of_semicolon ht]

theorem isName_of_semicolon {t : Token} (hseparator : t.isSeparator = true) (ht : t.text = ";") :
    t.isName = false := by
  have hspells : Token.spellsName [';'] = false := by decide
  have hkind : t.kind = .semicolon := by simpa [Token.isSeparator] using hseparator
  simp [Token.isName, ht, hspells, hkind]

theorem isDot_of_separator {t : Token} (hseparator : t.isSeparator = true) : t.isDot = false := by
  have hkind : t.kind = .semicolon := by simpa [Token.isSeparator] using hseparator
  simp [Token.isDot, hkind]

/-- Where a token stands that semicolons are told apart from, there is no semicolon. -/
theorem PlainSemicolons.not_stands {tokens : List Token} (hplain : PlainSemicolons tokens)
    {p : Token → Bool} {i : Nat} (h : Stands tokens p i)
    (hp : ∀ t, t.isSeparator = true → t.text = ";" → p t = false) :
    ¬ Stands tokens Token.isSeparator i := by
  rintro ⟨t, ht, hseparator⟩
  obtain ⟨u, hu, hpu⟩ := h
  obtain rfl : t = u := by simpa [ht] using hu
  have htext := hplain t (List.mem_of_getElem? ht) hseparator
  simp [hp t hseparator htext] at hpu

/-- No semicolon stands in a qualified name. -/
theorem Named.not_isSeparator {tokens : List Token} {first last : Nat}
    (h : Named tokens first last) (hplain : PlainSemicolons tokens) {k : Nat} (hk : first ≤ k)
    (hle : k ≤ last) : ¬ Stands tokens Token.isSeparator k := by
  obtain ⟨count, rfl, hparts⟩ := h.parts
  obtain ⟨j, hj | hj⟩ : ∃ j, k = first + 2 * j ∨ k = first + 2 * j + 1 :=
    ⟨(k - first) / 2, by omega⟩
  · cases j with
    | zero =>
      obtain rfl : k = first := by omega
      exact hplain.not_stands h.isName fun _ => isName_of_semicolon
    | succ j =>
      obtain rfl : k = first + 2 * j + 2 := by omega
      exact hplain.not_stands (hparts j (by omega)).2 fun _ => isName_of_semicolon
  · obtain rfl : k = first + 2 * j + 1 := by omega
    exact hplain.not_stands (hparts j (by omega)).1 fun _ hs _ => isDot_of_separator hs

end NativeExtension.Declaration

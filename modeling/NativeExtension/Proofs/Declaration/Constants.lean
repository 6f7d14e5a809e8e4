import NativeExtension.Proofs.Declaration.InStep

namespace NativeExtension.Declaration

open Sql

/-- Whether a token is a constant: a string of any sort or a number, but no quoted name. -/
def isConstant (t : Token) : Bool := t.isLiteral && t.kind != .quotedName

/-- Whether the keyword `LANGUAGE` stands right in front of a position; of the first position
    `behind` tells. -/
def followsLanguage (behind : Bool) (tokens : List Token) : Nat → Bool
  | 0 => behind
  | i + 1 => tokens[i]?.any (·.isKeyword "LANGUAGE")

/-- Two tokens that differ at most in what stands inside a constant. A string that follows the
    keyword `LANGUAGE` counts as the name that it gives. -/
def AgreeOutsideConstants (follows : Bool) (x y : Token) : Prop :=
  x.kind = y.kind ∧ x.line = y.line ∧
    (x.text = y.text ∨ isConstant x = true ∧ ¬ (x.kind = .string ∧ follows = true))

instance (follows : Bool) (x y : Token) : Decidable (AgreeOutsideConstants follows x y) :=
  inferInstanceAs (Decidable (_ ∧ _ ∧ (_ ∨ _ ∧ ¬ (_ ∧ _))))

/-- Token lists that differ at most in what stands inside constants. -/
structure SameOutsideConstants (behind : Bool) (xs ys : List Token) : Prop where
  length_eq : xs.length = ys.length
  agree : ∀ i (hx : i < xs.length) (hy : i < ys.length),
    AgreeOutsideConstants (followsLanguage behind xs i) xs[i] ys[i]

theorem isKeyword_of_isConstant {t : Token} (h : isConstant t = true) (word : String) :
    t.isKeyword word = false := by
  simp only [isConstant, Bool.and_eq_true] at h
  simp [Token.isKeyword, h.1]

theorem isName_of_isConstant {t : Token} (h : isConstant t = true) : t.isName = false := by
  simp only [isConstant, Bool.and_eq_true, bne_iff_ne] at h
  simp [Token.isName, h]

theorem namesNativeLanguage_of_isConstant {t : Token} (h : isConstant t = true)
    (hstring : t.kind ≠ .string) : t.namesNativeLanguage = false := by
  simp [Token.namesNativeLanguage, Token.isLanguageName, isName_of_isConstant h, hstring]

variable {follows : Bool} {x y : Token}

theorem AgreeOutsideConstants.eq_or_isConstant (h : AgreeOutsideConstants follows x y) :
    x = y ∨ isConstant x = true ∧ isConstant y = true := by
  obtain ⟨hkind, hline, htext | ⟨hconstant, -⟩⟩ := h
  · exact .inl (by cases x; cases y; simp_all)
  · have hy : isConstant y = true := by
      simpa [isConstant, Token.isLiteral, hkind] using hconstant
    exact .inr ⟨hconstant, hy⟩

/-- What stands inside a constant is read neither as a keyword nor as a name. -/
theorem AgreeOutsideConstants.readsAlike (h : AgreeOutsideConstants follows x y) :
    ReadsAlike x y := by
  obtain rfl | ⟨hx, hy⟩ := h.eq_or_isConstant
  · exact ⟨fun _ => rfl, rfl, rfl, rfl⟩
  · exact {
      keyword word := by rw [isKeyword_of_isConstant hx, isKeyword_of_isConstant hy]
      isName := by rw [isName_of_isConstant hx, isName_of_isConstant hy]
      separator := by rw [Token.isSeparator, Token.isSeparator, h.1]
      dot := by rw [Token.isDot, Token.isDot, h.1] }

theorem AgreeOutsideConstants.eq_of_isName (h : AgreeOutsideConstants follows x y)
    (hname : x.isName = true) : x = y := by
  obtain heq | ⟨hx, -⟩ := h.eq_or_isConstant
  · exact heq
  · simp [isName_of_isConstant hx] at hname

/-- Behind the keyword `LANGUAGE` the two tokens name the native language both or neither: a string
    there is the same in both lists, and no other constant names a language. -/
theorem AgreeOutsideConstants.namesNativeLanguage_eq (h : AgreeOutsideConstants true x y) :
    x.namesNativeLanguage = y.namesNativeLanguage := by
  obtain rfl | ⟨hx, hy⟩ := h.eq_or_isConstant
  · rfl
  obtain ⟨hkind, hline, htext | ⟨-, hstring⟩⟩ := h
  · rw [show x = y by cases x; cases y; simp_all]
  · have hxs : x.kind ≠ .string := fun hs => hstring ⟨hs, rfl⟩
    have hys : y.kind ≠ .string := hkind ▸ hxs
    rw [namesNativeLanguage_of_isConstant hx hxs, namesNativeLanguage_of_isConstant hy hys]

/-- Token lists that differ inside constants only are walked over in step, and tokens that can name
    a function are the same in both. -/
theorem SameOutsideConstants.inStep {behind : Bool} {xs ys : List Token}
    (h : SameOutsideConstants behind xs ys) : InStep Eq behind xs ys := by
  induction xs generalizing behind ys with
  | nil =>
    obtain rfl : ys = [] := List.length_eq_zero_iff.mp h.length_eq.symm
    exact .nil
  | cons x xs ih =>
    obtain ⟨hlength, hagree⟩ := h
    obtain ⟨y, ys, rfl⟩ : ∃ y rest, ys = y :: rest :=
      List.exists_cons_of_length_pos (by simp [← hlength])
    have hfirst : AgreeOutsideConstants behind x y := hagree 0 (by simp) (by simp)
    have hrest : SameOutsideConstants (x.isKeyword "LANGUAGE") xs ys := by
      refine ⟨by simpa using hlength, fun i hx hy => ?_⟩
      have hnext := hagree (i + 1) (by simpa using hx) (by simpa using hy)
      -- the position in front of the first of the rest is that of `x`
      cases i with
      | zero => simpa [followsLanguage] using hnext
      | succ i => simpa [followsLanguage] using hnext
    refine .cons hfirst.readsAlike hfirst.eq_of_isName ?_ (ih hrest)
    rintro rfl
    exact hfirst.namesNativeLanguage_eq

theorem eq_of_namedAlike_eq {ds es : List Declaration} (h : List.Forall₂ (NamedAlike Eq) ds es) :
    ds = es := by
  induction h with
  | nil => rfl
  | cons hfirst _ ih =>
    obtain ⟨t, -, rfl, rfl, rfl⟩ := hfirst
    rw [ih]

/-- What stands inside constants can neither make nor hide nor rename a declaration. Lists of tokens
    that differ there only declare the same functions on the same lines; a string right behind
    the keyword `LANGUAGE`, which may name the native language, is to be the same in both. -/
theorem ofTokens_eq_of_sameOutsideConstants {xs ys : List Token}
    (h : SameOutsideConstants false xs ys) : ofTokens xs = ofTokens ys :=
  eq_of_namedAlike_eq (ofTokens_inStep h.inStep)

/-- A default value, a number and a body become other ones, and the body one that reads like the
    end of the statement and a further one. -/
theorem ofTokens_eq_of_sameOutsideConstants_sample :
    let statement (default cost body : String) : List Token :=
      [⟨.word, "CREATE", 1⟩, ⟨.word, "FUNCTION", 1⟩, ⟨.word, "f", 1⟩, ⟨.word, "DEFAULT", 1⟩,
       ⟨.string, default, 1⟩, ⟨.word, "COST", 2⟩, ⟨.literal, cost, 2⟩, ⟨.word, "AS", 2⟩,
       ⟨.literal, body, 3⟩, ⟨.word, "LANGUAGE", 3⟩, ⟨.string, "C", 3⟩, ⟨.semicolon, ";", 3⟩]
    let plain := statement "x" "1" "f"
    let misleading := statement "language" "100" "; create function g language c"
    SameOutsideConstants false plain misleading ∧ ofTokens plain = ofTokens misleading ∧
      ofTokens misleading = [⟨"f", 1⟩] := by
  intro statement plain misleading
  have hsame : SameOutsideConstants false plain misleading := ⟨rfl, by decide⟩
  exact ⟨hsame, ofTokens_eq_of_sameOutsideConstants hsame, by decide +kernel⟩

/-- A string right behind `LANGUAGE` is another matter. -/
example :
    let statement (language : String) : List Token :=
      [⟨.word, "CREATE", 1⟩, ⟨.word, "FUNCTION", 1⟩, ⟨.word, "f", 1⟩, ⟨.word, "LANGUAGE", 1⟩,
       ⟨.string, language, 1⟩]
    ofTokens (statement "c") = [⟨"f", 1⟩] ∧ ofTokens (statement "sql") = [] := by
  decide +kernel

end NativeExtension.Declaration

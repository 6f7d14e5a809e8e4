import Mathlib
import NativeExtension.Proofs.Declaration.InStep

namespace NativeExtension

namespace Text

/-- Two texts that differ at most in the case of ASCII letters. -/
def SameLetters (s t : String) : Prop :=
  s.toList.map Char.caseFoldAsciiOnly = t.toList.map Char.caseFoldAsciiOnly

instance (s t : String) : Decidable (SameLetters s t) := inferInstanceAs (Decidable (_ = _))

theorem capital_eq_of_lt {c : Char} (h : c.toNat < 0xdf) : capital c = [c.toUpper] := by
  unfold capital
  split <;> first | rfl | omega

theorem capital_toLower (c : Char) : capital c.toLower = capital c := by
  by_cases hupper : c.isUpper
  · have hlower : c.toLower.isLower = true := by simp [Char.isAlpha, hupper]
    simp only [Char.isUpper, Char.isLower, Bool.and_eq_true, decide_eq_true_eq, ge_iff_le,
      UInt32.le_iff_toNat_le] at hupper hlower
    have hc : c.toNat ≤ 90 := hupper.2
    have hsmall : c.toLower.toNat ≤ 122 := hlower.2
    rw [capital_eq_of_lt (by omega), capital_eq_of_lt (by omega), Char.toUpper_toLower_eq_toUpper]
  · rw [Char.toLower_eq_of_not_isUpper hupper]

theorem SameLetters.capitals_eq {s t : String} (h : SameLetters s t) : capitals s = capitals t := by
  have hfold (cs : List Char) : (cs.map Char.toLower).flatMap capital = cs.flatMap capital := by
    simp [List.flatMap_map, capital_toLower]
  have hcapitals := congrArg (List.flatMap capital) h
  rw [hfold, hfold] at hcapitals
  rw [capitals, capitals, hcapitals]

theorem toLower_eq_iff_of_not_isAlpha {c d : Char} (h : d.isAlpha = false) :
    c.toLower = d ↔ c = d := by
  by_cases hupper : c.isUpper
  · have hc : c.isAlpha = true := by simp [Char.isAlpha, hupper]
    have hne : c ≠ d := fun heq => by simp [← heq, hc] at h
    have hsmall : c.toLower ≠ d := fun heq => by simp [← heq, hc] at h
    exact iff_of_false hsmall hne
  · rw [Char.toLower_eq_of_not_isUpper hupper]

/-- Two characters only become the same small letter. -/
theorem toLower_eq_iff_of_isLower {c d : Char} (h : d.isLower = true) :
    c.toLower = d ↔ c = d ∨ c = d.toUpper := by
  have hd : d.toLower = d := Char.toLower_eq_of_not_isUpper (Char.not_isUpper_of_isLower h)
  constructor
  · rintro rfl
    by_cases hupper : c.isUpper
    · rw [Char.toUpper_toLower_eq_toUpper]
      exact .inr (Char.toUpper_eq_of_not_isLower (Char.not_isLower_of_isUpper hupper)).symm
    · exact .inl (Char.toLower_eq_of_not_isUpper hupper).symm
  · rintro (rfl | rfl)
    · exact hd
    · rw [Char.toLower_toUpper_eq_toLower, hd]

end Text

namespace Sql.Token

open Text

theorem isNameStart_toLower (c : Char) : isNameStart c.toLower = isNameStart c := by
  have hmark : (c.toLower == '_') = (c == '_') := by
    rw [Bool.eq_iff_iff, beq_iff_eq, beq_iff_eq, toLower_eq_iff_of_not_isAlpha (by decide)]
  simp [isNameStart, hmark]

theorem isNameRest_toLower (c : Char) : isNameRest c.toLower = isNameRest c := by
  by_cases hupper : c.isUpper
  · have hc : c.isAlpha = true := by simp [Char.isAlpha, hupper]
    simp [isNameRest, Char.isAlphanum, hc]
  · rw [Char.toLower_eq_of_not_isUpper hupper]

theorem spellsName_map_toLower (cs : List Char) :
    spellsName (cs.map Char.toLower) = spellsName cs := by
  cases cs with
  | nil => rfl
  | cons c rest =>
    have hrest : isNameRest ∘ Char.toLower = isNameRest := funext isNameRest_toLower
    have hfeed (ds : List Char) : ds.map Char.toLower = ['\n'] ↔ ds = ['\n'] := by
      simp [List.map_eq_cons_iff, toLower_eq_iff_of_not_isAlpha]
    rw [Bool.eq_iff_iff]
    simp only [spellsName, List.map_cons, isNameStart_toLower, List.dropWhile_map, hrest,
      Bool.and_eq_true, Bool.or_eq_true, beq_iff_eq, List.map_eq_nil_iff, hfeed]

theorem map_toLower_eq_language_iff {s : String} :
    s.toList.map Char.toLower = ['c'] ↔ s = "c" ∨ s = "C" := by
  have hlist (cs : List Char) : cs.map Char.toLower = ['c'] ↔ cs = ['c'] ∨ cs = ['C'] := by
    rcases cs with _ | ⟨c, _ | ⟨d, rest⟩⟩ <;> simp [toLower_eq_iff_of_isLower]
  rw [← String.toList_inj, ← String.toList_inj]
  exact hlist s.toList

/-- Two tokens that differ at most in the case of ASCII letters. -/
@[mk_iff]
structure SameLetters (x y : Token) : Prop where
  kind : x.kind = y.kind
  line : x.line = y.line
  text : Text.SameLetters x.text y.text

instance (x y : Token) : Decidable (SameLetters x y) :=
  decidable_of_iff _ (sameLetters_iff x y).symm

namespace SameLetters

variable {x y : Token}

theorem isLiteral_eq (h : SameLetters x y) : x.isLiteral = y.isLiteral := by
  rw [isLiteral, isLiteral, h.kind]

theorem isName_eq (h : SameLetters x y) : x.isName = y.isName := by
  have hspells : spellsName x.text.toList = spellsName y.text.toList := by
    have hfold := congrArg spellsName h.text
    rwa [spellsName_map_toLower, spellsName_map_toLower] at hfold
  rw [isName, isName, h.kind, h.isLiteral_eq, hspells]

theorem readsAlike (h : SameLetters x y) : Declaration.ReadsAlike x y where
  keyword word := by rw [isKeyword, isKeyword, h.isLiteral_eq, h.text.capitals_eq]
  isName := h.isName_eq
  separator := by rw [isSeparator, isSeparator, h.kind]
  dot := by rw [isDot, isDot, h.kind]

theorem namesNativeLanguage_eq (h : SameLetters x y) :
    x.namesNativeLanguage = y.namesNativeLanguage := by
  have hlanguage : (x.text == "c" || x.text == "C") = (y.text == "c" || y.text == "C") := by
    have hiff : x.text = "c" ∨ x.text = "C" ↔ y.text = "c" ∨ y.text = "C" := by
      rw [← map_toLower_eq_language_iff, ← map_toLower_eq_language_iff, h.text]
    rw [Bool.eq_iff_iff]
    simpa using hiff
  rw [namesNativeLanguage, namesNativeLanguage, isLanguageName, isLanguageName, h.kind, h.isName_eq,
    hlanguage]

end SameLetters

end Sql.Token

namespace Declaration

open Sql

/-- Two declarations that differ at most in the case of ASCII letters, and that tokens at the same
    position of two lists name. -/
structure SameLetters (xs ys : List Token) (d e : Declaration) : Prop where
  line : d.line = e.line
  functionName : Text.SameLetters d.functionName e.functionName
  named : ∃ p ∈ xs.zip ys, d = ofName p.1 ∧ e = ofName p.2

/-- Token lists that differ in the case of letters only are walked over in step. A name corresponds
    to the one at its position in the other list. -/
theorem inStep_of_sameLetters {named : Token → Token → Prop} {behind : Bool} {xs ys : List Token}
    (h : List.Forall₂ Token.SameLetters xs ys) (hnamed : ∀ p ∈ xs.zip ys, named p.1 p.2) :
    InStep named behind xs ys := by
  induction h generalizing behind with
  | nil => exact .nil
  | @cons x y xs ys hfirst _ ih =>
    obtain ⟨hname, hnames⟩ : named x y ∧ ∀ p ∈ xs.zip ys, named p.1 p.2 := by
      simpa using hnamed
    exact .cons hfirst.readsAlike (fun _ => hname) (fun _ => hfirst.namesNativeLanguage_eq)
      (ih hnames)

/-- The case of letters decides on no declaration. Lists of tokens that differ in it only declare as
    many functions, in the same order and on the same lines, and each list spells their names as its
    own tokens do. -/
theorem ofTokens_sameLetters {xs ys : List Token} (h : List.Forall₂ Token.SameLetters xs ys) :
    List.Forall₂ (SameLetters xs ys) (ofTokens xs) (ofTokens ys) := by
  have hstep : InStep (fun x y => (x, y) ∈ xs.zip ys) false xs ys :=
    inStep_of_sameLetters h fun _ hp => hp
  refine (ofTokens_inStep hstep).imp ?_
  rintro _ _ ⟨x, y, hmem, rfl, rfl⟩
  have hsame : x.SameLetters y := List.forall₂_zip h hmem
  exact ⟨hsame.line, hsame.text, (x, y), hmem, rfl, rfl⟩

/-- Keywords, a qualified name and the language in mixed case. A name that stands between quotes
    keeps its own letters, and a token beyond ASCII is compared as it is. -/
theorem ofTokens_sameLetters_sample :
    let statement (create function name language c : String) : List Token :=
      [⟨.word, create, 1⟩, ⟨.word, "OR", 1⟩, ⟨.word, "REPLACE", 1⟩, ⟨.word, function, 1⟩,
       ⟨.word, "s", 1⟩, ⟨.dot, ".", 1⟩, ⟨.quotedName, name, 2⟩, ⟨.word, "ſtable", 2⟩,
       ⟨.word, language, 3⟩, ⟨.string, c, 3⟩, ⟨.semicolon, ";", 3⟩]
    let small := statement "create" "function" "größe_1" "language" "c"
    let mixed := statement "Create" "FUNCTION" "GRößE_1" "lAnguage" "C"
    List.Forall₂ Token.SameLetters small mixed ∧
      List.Forall₂ (SameLetters small mixed) (ofTokens small) (ofTokens mixed) ∧
      ofTokens small = [⟨"größe_1", 2⟩] ∧ ofTokens mixed = [⟨"GRößE_1", 2⟩] := by
  intro statement small mixed
  have hsame : List.Forall₂ Token.SameLetters small mixed := by decide +kernel
  exact ⟨hsame, ofTokens_sameLetters hsame, by decide +kernel, by decide +kernel⟩

end Declaration

end NativeExtension

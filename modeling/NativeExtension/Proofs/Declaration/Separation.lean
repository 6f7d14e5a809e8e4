import NativeExtension.Proofs.Declaration.Semicolon

namespace NativeExtension.Declaration

open Sql

section Separator

variable {s : Token} (hseparator : s.isSeparator = true) (htext : s.text = ";")

include hseparator htext

/-- A semicolon leaves nothing underway, whatever the walk waits for. -/
theorem walk_separator (state : Awaiting) (rest : List Token) :
    walk state (s :: rest) = walk .create rest := by
  have hkeyword {word : String} (hword : word ≠ ";") : s.isKeyword word = false :=
    isKeyword_of_semicolon htext hword
  have hname : s.isName = false := isName_of_semicolon hseparator htext
  cases state with
  | create => simp [walk, hkeyword]
  | function => simp [walk, hkeyword]
  | name => simp [walk, hname]
  | language name => simp [walk, hseparator]
  | languageName name =>
    have hkind : s.kind = .semicolon := by simpa [Token.isSeparator] using hseparator
    have hnative : s.namesNativeLanguage = false := by
      simp [Token.namesNativeLanguage, Token.isLanguageName, hkind, hname]
    simp [walk, hnative]

/-- A qualified name is followed to the same part where a semicolon comes instead of the end. The
    look-ahead is of two tokens, so that the end can come before either of them. -/
theorem qualified_append (name : Token) (rest after : List Token) :
    qualified name (rest ++ s :: after) =
      ((qualified name rest).1, (qualified name rest).2 ++ s :: after) := by
  have hdot : s.isDot = false := isDot_of_separator hseparator
  have hname : s.isName = false := isName_of_semicolon hseparator htext
  fun_induction qualified name rest with
  | case1 name dot next rest hnext ih => simpa [qualified, hnext] using ih
  | case2 name dot next rest hnext => simp [qualified, hnext]
  | case3 name rest hshort =>
    match rest with
    | [] => cases after <;> simp [qualified, hdot]
    | [dot] => simp [qualified, hname]
    | dot :: next :: rest => exact absurd rfl (hshort dot next rest)

/-- What the walk finds in front of a semicolon and behind it. The induction follows the walk over
    the first part, so that each state in which that part can end is one of its cases. -/
theorem walk_append_separator (state : Awaiting) (xs ys : List Token) :
    walk state (xs ++ s :: ys) = walk state xs ++ walk .create ys := by
  fun_induction walk state xs with
  | case1 state => simp [walk_separator hseparator htext]
  | case2 t rest ih => simpa [walk] using ih
  | case3 t rest hfunction ih => simpa [walk, hfunction] using ih
  | case4 t rest hfunction hmodifier ih => simpa [walk, hfunction, hmodifier] using ih
  | case5 t rest hfunction hmodifier ih => simpa [walk, hfunction, hmodifier] using ih
  | case6 t rest hname ih =>
    simpa [walk, hname, qualified_append hseparator htext] using ih
  | case7 t rest hname ih => simpa [walk, hname] using ih
  | case8 name t rest hend ih => simpa [walk, hend] using ih
  | case9 name t rest hend hlanguage ih => simpa [walk, hend, hlanguage] using ih
  | case10 name t rest hend hlanguage ih => simpa [walk, hend, hlanguage] using ih
  | case11 name t rest hnative ih => simpa [walk, hnative] using ih
  | case12 name t rest hnative ih => simpa [walk, hnative] using ih

/-- Statements are walked over independently: the declarations in tokens with a semicolon between
    them are those in front of it and those behind it. Nothing is asked of the tokens on either
    side, so the first part may end anywhere in a declaration. -/
theorem ofTokens_append_separator (xs ys : List Token) :
    ofTokens (xs ++ [s] ++ ys) = ofTokens xs ++ ofTokens ys := by
  rw [List.append_assoc, List.singleton_append]
  exact walk_append_separator hseparator htext .create xs ys

end Separator

/-- A statement that breaks off within a qualified name behind `LANGUAGE`, and one that begins with
    what the first still lacked. -/
theorem ofTokens_append_separator_broken_off :
    let xs : List Token :=
      [⟨.word, "CREATE", 1⟩, ⟨.word, "FUNCTION", 1⟩, ⟨.word, "f", 1⟩, ⟨.word, "LANGUAGE", 1⟩,
       ⟨.string, "c", 1⟩, ⟨.word, "create", 2⟩, ⟨.word, "function", 2⟩, ⟨.word, "s", 2⟩,
       ⟨.dot, ".", 2⟩]
    let s : Token := ⟨.semicolon, ";", 2⟩
    let ys : List Token :=
      [⟨.quotedName, "g", 3⟩, ⟨.word, "LANGUAGE", 3⟩, ⟨.word, "c", 3⟩, ⟨.word, "CREATE", 4⟩,
       ⟨.word, "FUNCTION", 4⟩, ⟨.word, "h", 4⟩, ⟨.word, "language", 4⟩, ⟨.word, "C", 4⟩]
    s.isSeparator = true ∧ s.text = ";" ∧
      ofTokens (xs ++ [s] ++ ys) = ofTokens xs ++ ofTokens ys ∧
      ofTokens xs ++ ofTokens ys = [⟨"f", 1⟩, ⟨"h", 4⟩] := by
  intro xs s ys
  have hseparator : s.isSeparator = true := by decide
  have htext : s.text = ";" := rfl
  exact ⟨hseparator, htext, ofTokens_append_separator hseparator htext xs ys, by decide +kernel⟩

end NativeExtension.Declaration

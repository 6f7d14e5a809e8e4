import NativeExtension.Proofs.Declaration.Occurrence

namespace NativeExtension.Declaration

open Sql

/-- How a declaration begins: `CREATE`, modifiers, `FUNCTION`, and a name with any number of further
    parts, each behind a dot. -/
structure Heading where
  create : Token
  modifiers : List Token
  function : Token
  first : Token
  parts : List (Token × Token)
  isCreate : create.isKeyword "CREATE" = true
  areModifiers : ∀ t ∈ modifiers, isModifier t = true
  isFunction : function.isKeyword "FUNCTION" = true
  isName : first.isName = true
  areParts : ∀ p ∈ parts, p.1.isDot = true ∧ p.2.isName = true

/-- The tokens of further parts. -/
def partTokens (parts : List (Token × Token)) : List Token :=
  parts.flatMap fun p => [p.1, p.2]

/-- The last part of a name. -/
def lastPart : Token → List (Token × Token) → Token
  | first, [] => first
  | _, (_, next) :: parts => lastPart next parts

/-- Whether tokens begin with a further part of a name. -/
def startsWithPart : List Token → Bool
  | dot :: next :: _ => dot.isDot && next.isName
  | _ => false

namespace Heading

def tokens (h : Heading) : List Token :=
  h.create :: h.modifiers ++ h.function :: h.first :: partTokens h.parts

/-- The token that names the function. -/
def name (h : Heading) : Token := lastPart h.first h.parts

end Heading

/-- What follows the first keyword `LANGUAGE`. -/
def behindLanguage : List Token → List Token
  | [] => []
  | t :: rest => if t.isKeyword "LANGUAGE" then rest else behindLanguage rest

theorem qualified_of_not_startsWithPart {tail : List Token} (name : Token)
    (htail : startsWithPart tail = false) : qualified name tail = (name, tail) := by
  match tail, htail with
  | [], _ => rfl
  | [t], _ => rfl
  | dot :: next :: rest, htail =>
    have hnext : (dot.isDot && next.isName) = false := htail
    simp [qualified, hnext]

/-- Following a name takes its parts, and nothing behind them. -/
theorem qualified_partTokens {parts : List (Token × Token)}
    (hparts : ∀ p ∈ parts, p.1.isDot = true ∧ p.2.isName = true) {tail : List Token}
    (htail : startsWithPart tail = false) (first : Token) :
    qualified first (partTokens parts ++ tail) = (lastPart first parts, tail) := by
  induction parts generalizing first with
  | nil => exact qualified_of_not_startsWithPart first htail
  | cons p parts ih =>
    obtain ⟨hdot, hname⟩ := hparts p List.mem_cons_self
    have hrest := ih (fun q hq => hparts q (List.mem_cons_of_mem p hq)) p.2
    have htokens : partTokens (p :: parts) = p.1 :: p.2 :: partTokens parts := rfl
    have hlast : lastPart first (p :: parts) = lastPart p.2 parts := rfl
    rw [htokens, hlast, ← hrest]
    simp [qualified, hdot, hname]

theorem walk_modifiers {modifiers : List Token} (hmodifiers : ∀ t ∈ modifiers, isModifier t = true)
    (tail : List Token) : walk .function (modifiers ++ tail) = walk .function tail := by
  induction modifiers with
  | nil => rfl
  | cons t modifiers ih =>
    have hmodifier := hmodifiers t List.mem_cons_self
    have hfunction : t.isKeyword "FUNCTION" = false := by
      by_contra h
      simp [isModifier_of_isFunction (by simpa using h)] at hmodifier
    have hrest := ih fun u hu => hmodifiers u (List.mem_cons_of_mem t hu)
    simp only [isModifier] at hmodifier
    simp [walk, hfunction, hmodifier, hrest]

/-- Behind a heading the walk has a name and waits for its language. -/
theorem ofTokens_heading_append (h : Heading) {tail : List Token}
    (htail : startsWithPart tail = false) :
    ofTokens (h.tokens ++ tail) = walk (.language h.name) tail := by
  have hqualified := qualified_partTokens h.areParts htail h.first
  simp [ofTokens, Heading.tokens, Heading.name, walk, h.isCreate, h.isFunction, h.isName,
    walk_modifiers h.areModifiers, hqualified]

/-- Within a statement the walk waits for the first `LANGUAGE` and for no later one. -/
theorem walk_language_eq (name : Token) {tail : List Token}
    (hopen : ∀ t ∈ tail, t.isSeparator = false) :
    walk (.language name) tail = walk (.languageName name) (behindLanguage tail) := by
  induction tail with
  | nil => simp [walk, behindLanguage]
  | cons t tail ih =>
    have hseparator := hopen t List.mem_cons_self
    have hrest := ih fun u hu => hopen u (List.mem_cons_of_mem t hu)
    by_cases hlanguage : t.isKeyword "LANGUAGE" = true
    · simp [walk, behindLanguage, hseparator, hlanguage]
    · simp [walk, behindLanguage, hseparator, hlanguage, hrest]

/-- What is found in a statement that begins with a heading. The function is declared if the
    native language stands behind the first keyword `LANGUAGE`, whatever stands before that; the
    search goes on behind what stands there. A parameter with the name `language` is read as the
    keyword. -/
theorem ofTokens_heading (h : Heading) {tail : List Token}
    (hopen : ∀ t ∈ tail, t.isSeparator = false) (htail : startsWithPart tail = false) :
    ofTokens (h.tokens ++ tail) =
      match behindLanguage tail with
      | [] => []
      | next :: rest =>
        (if next.namesNativeLanguage then [ofName h.name] else []) ++ ofTokens rest := by
  rw [ofTokens_heading_append h htail, walk_language_eq h.name hopen]
  cases behindLanguage tail with
  | nil => simp [walk]
  | cons next rest =>
    by_cases hnative : next.namesNativeLanguage = true
    · simp [walk, hnative, ofTokens]
    · simp [walk, hnative, ofTokens]

/-- `CREATE OR REPLACE FUNCTION s.f`. -/
def sampleHeading : Heading where
  create := ⟨.word, "CREATE", 1⟩
  modifiers := [⟨.word, "OR", 1⟩, ⟨.word, "REPLACE", 1⟩]
  function := ⟨.word, "FUNCTION", 1⟩
  first := ⟨.word, "s", 1⟩
  parts := [(⟨.dot, ".", 1⟩, ⟨.quotedName, "f", 2⟩)]
  isCreate := by decide
  areModifiers := by decide
  isFunction := by decide
  isName := by decide
  areParts := by decide

/-- A column, a setting and a body stand between the name and the language. -/
theorem ofTokens_heading_sample :
    let tail : List Token :=
      [⟨.word, "(", 2⟩, ⟨.word, "function", 2⟩, ⟨.word, "text", 2⟩, ⟨.word, ")", 2⟩,
       ⟨.word, "SET", 3⟩, ⟨.word, "c", 3⟩, ⟨.word, "=", 3⟩, ⟨.quotedName, "language", 3⟩,
       ⟨.word, "AS", 4⟩, ⟨.string, "language c", 4⟩, ⟨.word, "LANGUAGE", 4⟩, ⟨.string, "C", 4⟩]
    (∀ t ∈ tail, t.isSeparator = false) ∧ startsWithPart tail = false ∧
      ofTokens (sampleHeading.tokens ++ tail) = [⟨"f", 2⟩] := by
  intro tail
  have hopen : ∀ t ∈ tail, t.isSeparator = false := by decide
  have htail : startsWithPart tail = false := by decide
  refine ⟨hopen, htail, (ofTokens_heading sampleHeading hopen htail).trans ?_⟩
  have hbehind : behindLanguage tail = [⟨.string, "C", 4⟩] := by decide
  have hnative : (⟨.string, "C", 4⟩ : Token).namesNativeLanguage = true := by decide
  simp [hbehind, hnative, ofTokens, walk, ofName, sampleHeading, Heading.name, lastPart]

/-- A statement that declares a native function, of which nothing is found: the first `LANGUAGE` is
    the name of a parameter. -/
theorem ofTokens_heading_misses :
    ∃ (h : Heading) (before : List Token) (language native : Token),
      (∀ t ∈ h.tokens ++ before ++ [language, native], t.isSeparator = false) ∧
      startsWithPart (before ++ [language, native]) = false ∧
      language.isKeyword "LANGUAGE" = true ∧ native.namesNativeLanguage = true ∧
      ofTokens (h.tokens ++ before ++ [language, native]) = [] := by
  refine ⟨sampleHeading,
    [⟨.word, "(", 2⟩, ⟨.word, "language", 2⟩, ⟨.word, "text", 2⟩, ⟨.word, ")", 2⟩],
    ⟨.word, "LANGUAGE", 3⟩, ⟨.word, "c", 3⟩, by decide, by decide, by decide, by decide, ?_⟩
  decide +kernel

end NativeExtension.Declaration

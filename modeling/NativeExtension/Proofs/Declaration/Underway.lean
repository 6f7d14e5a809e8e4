import NativeExtension.Proofs.Declaration.Occurrence

namespace NativeExtension.Declaration

open Sql

/-- No keyword `CREATE` stands from one position up to another. -/
def Fresh (tokens : List Token) (j i : Nat) : Prop :=
  j ≤ i ∧ ∀ k, j ≤ k → k < i → ¬ Stands tokens (·.isKeyword "CREATE") k

/-- What the walk has read when it comes to position `n` of the tokens. -/
def Underway (tokens : List Token) (start n : Nat) : Awaiting → Prop
  | .create => start = n
  | .function => Opened tokens start n
  | .name => ∃ f, n = f + 1 ∧ Opened tokens start f ∧ Stands tokens (·.isKeyword "FUNCTION") f
  | .language t => ∃ f m, Opened tokens start f ∧ Stands tokens (·.isKeyword "FUNCTION") f ∧
      Named tokens (f + 1) m ∧ tokens[m]? = some t ∧ Filled tokens m n
  | .languageName t => ∃ f m l, n = l + 1 ∧ Opened tokens start f ∧
      Stands tokens (·.isKeyword "FUNCTION") f ∧ Named tokens (f + 1) m ∧ tokens[m]? = some t ∧
      Filled tokens m l ∧ Stands tokens (·.isKeyword "LANGUAGE") l

theorem Opened.eq_of_fresh {tokens : List Token} {start n i : Nat} (h : Opened tokens start n)
    (hfresh : Fresh tokens start i) : i = start := by
  by_contra hne
  exact hfresh.2 start (Nat.le_refl _) (Nat.lt_of_le_of_ne hfresh.1 (Ne.symm hne)) h.keyword

/-- A word that is neither a modifier nor `FUNCTION` ends the hope for a declaration. -/
theorem Opened.create_ne {tokens : List Token} {start n : Nat} (hopened : Opened tokens start n)
    (hmodifier : ¬ Stands tokens isModifier n)
    (hfunction : ¬ Stands tokens (·.isKeyword "FUNCTION") n) {o : Occurrence}
    (ho : Occurs tokens o) : o.create ≠ start := by
  rintro rfl
  have hle := hopened.function_le ho.opened.lt ho.function
  rcases Nat.eq_or_lt_of_le hle with rfl | hlt
  · exact hfunction ho.function
  · exact hmodifier (ho.opened.modifiers n hopened.lt hlt)

/-- Without a name behind `FUNCTION` there is no declaration. -/
theorem Opened.create_ne_of_not_isName {tokens : List Token} {start f : Nat}
    (hopened : Opened tokens start f) (hfunction : Stands tokens (·.isKeyword "FUNCTION") f)
    (hname : ¬ Stands tokens Token.isName (f + 1)) {o : Occurrence} (ho : Occurs tokens o) :
    o.create ≠ start := by
  rintro rfl
  obtain rfl := hopened.function_unique hfunction ho.opened ho.function
  exact hname ho.named.isName

/-- The end of the statement before a language leaves no declaration. -/
theorem Filled.create_ne {tokens : List Token} {start f m n : Nat}
    (hfilled : Filled tokens m n) (hopened : Opened tokens start f)
    (hfunction : Stands tokens (·.isKeyword "FUNCTION") f) (hnamed : Named tokens (f + 1) m)
    (hfiller : ¬ Stands tokens isFiller n) (hlanguage : ¬ Stands tokens (·.isKeyword "LANGUAGE") n)
    {o : Occurrence} (ho : Occurs tokens o) : o.create ≠ start := by
  rintro rfl
  obtain rfl := hopened.function_unique hfunction ho.opened ho.function
  obtain rfl := hnamed.last_unique ho.named
  have hle := hfilled.language_le ho.filled.1 ho.language
  rcases Nat.eq_or_lt_of_le hle with rfl | hlt
  · exact hlanguage ho.language
  · exact hfiller (ho.filled.2 n hfilled.1 hlt)

/-- Another language leaves no declaration either. -/
theorem Filled.create_ne_of_not_native {tokens : List Token} {start f m l : Nat}
    (hfilled : Filled tokens m l) (hopened : Opened tokens start f)
    (hfunction : Stands tokens (·.isKeyword "FUNCTION") f) (hnamed : Named tokens (f + 1) m)
    (hlanguage : Stands tokens (·.isKeyword "LANGUAGE") l)
    (hnative : ¬ Stands tokens Token.namesNativeLanguage (l + 1)) {o : Occurrence}
    (ho : Occurs tokens o) : o.create ≠ start := by
  rintro rfl
  obtain rfl := hopened.function_unique hfunction ho.opened ho.function
  obtain rfl := hnamed.last_unique ho.named
  obtain rfl := hfilled.language_unique hlanguage ho.filled ho.language
  exact hnative ho.native

/-- The tokens with which the walk goes on with what it has underway. -/
def carriesOn : Awaiting → Token → Bool
  | .create, t => t.isKeyword "CREATE"
  | .function, t => isModifier t || t.isKeyword "FUNCTION"
  | .name, t => t.isName
  | .language _, t => isFiller t || t.isKeyword "LANGUAGE"
  | .languageName _, t => t.namesNativeLanguage

theorem Underway.start_le {tokens : List Token} {start n : Nat} {state : Awaiting}
    (h : Underway tokens start n state) : start ≤ n := by
  cases state with
  | create => exact Nat.le_of_eq h
  | function => exact Nat.le_of_lt h.lt
  | name =>
    obtain ⟨f, rfl, hopened, _⟩ := h
    exact Nat.le_of_lt (Nat.lt_succ_of_lt hopened.lt)
  | language t =>
    obtain ⟨f, m, hopened, _, hnamed, _, hfilled⟩ := h
    have := hopened.lt
    have := hnamed.first_le
    have := hfilled.1
    omega
  | languageName t =>
    obtain ⟨f, m, l, rfl, hopened, _, hnamed, _, hfilled, _⟩ := h
    have := hopened.lt
    have := hnamed.first_le
    have := hfilled.1
    omega

/-- Where no token carries on what the walk has underway, no occurrence begins with it. -/
theorem Underway.lt_of_fresh {tokens : List Token} {start n : Nat} {state : Awaiting}
    (h : Underway tokens start n state) (hnot : ¬ Stands tokens (carriesOn state) n)
    {o : Occurrence} (ho : Occurs tokens o) (hfresh : Fresh tokens start o.create) :
    n < o.create := by
  cases state with
  | create =>
    obtain rfl : start = n := h
    refine Nat.lt_of_le_of_ne hfresh.1 fun heq => hnot ?_
    rw [heq]
    exact ho.opened.keyword
  | function =>
    refine absurd (h.eq_of_fresh hfresh) (h.create_ne (fun hs => hnot ?_) (fun hs => hnot ?_) ho)
    · exact hs.imp fun t ht => by simp [carriesOn, ht]
    · exact hs.imp fun t ht => by simp [carriesOn, ht]
  | name =>
    obtain ⟨f, rfl, hopened, hfunction⟩ := h
    exact absurd (hopened.eq_of_fresh hfresh) (hopened.create_ne_of_not_isName hfunction hnot ho)
  | language t =>
    obtain ⟨f, m, hopened, hfunction, hnamed, _, hfilled⟩ := h
    refine absurd (hopened.eq_of_fresh hfresh) (hfilled.create_ne hopened hfunction hnamed
      (fun hs => hnot ?_) (fun hs => hnot ?_) ho)
    · exact hs.imp fun t ht => by simp [carriesOn, ht]
    · exact hs.imp fun t ht => by simp [carriesOn, ht]
  | languageName t =>
    obtain ⟨f, m, l, rfl, hopened, hfunction, hnamed, _, hfilled, hlanguage⟩ := h
    exact absurd (hopened.eq_of_fresh hfresh)
      (hfilled.create_ne_of_not_native hopened hfunction hnamed hlanguage hnot ho)

end NativeExtension.Declaration

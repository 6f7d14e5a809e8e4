import Mathlib.Data.List.Basic
import NativeExtension.Declaration

namespace NativeExtension.Declaration

open Sql

/-- A token with the given property stands at a position. -/
def Stands (tokens : List Token) (p : Token → Bool) (i : Nat) : Prop :=
  ∃ t, tokens[i]? = some t ∧ p t = true

/-- The words that may stand between `CREATE` and `FUNCTION`. -/
def isModifier (t : Token) : Bool := t.isKeyword "OR" || t.isKeyword "REPLACE"

/-- What may stand between the name of a function and its language. -/
def isFiller (t : Token) : Bool := !t.isSeparator && !t.isKeyword "LANGUAGE"

theorem getElem?_of_drop {tokens rest : List Token} {n : Nat} {t : Token}
    (h : tokens.drop n = t :: rest) : tokens[n]? = some t := by
  have hhead := congrArg (·[0]?) h
  simpa using hhead

theorem stands_iff_of_drop {tokens rest : List Token} {n : Nat} {t : Token}
    (h : tokens.drop n = t :: rest) (p : Token → Bool) : Stands tokens p n ↔ p t = true := by
  simp [Stands, getElem?_of_drop h]

theorem not_stands_of_drop_nil {tokens : List Token} {n i : Nat} (h : tokens.drop n = [])
    (hle : n ≤ i) (p : Token → Bool) : ¬ Stands tokens p i := by
  rintro ⟨t, hget, _⟩
  have hlength : tokens.length ≤ n := by simpa using h
  rw [List.getElem?_eq_none (by omega)] at hget
  cases hget

theorem drop_succ_of_drop {tokens rest : List Token} {n : Nat} {t : Token}
    (h : tokens.drop n = t :: rest) : tokens.drop (n + 1) = rest := by
  rw [← List.tail_drop, h, List.tail_cons]

/-- Two properties that no token has together do not meet at a position. -/
theorem Stands.not_both {tokens : List Token} {p q : Token → Bool} {i : Nat}
    (hp : Stands tokens p i) (hq : Stands tokens q i) (hpq : ∀ t, p t = true → q t = false) :
    False := by
  obtain ⟨t, ht, hpt⟩ := hp
  obtain ⟨u, hu, hqu⟩ := hq
  obtain rfl : t = u := by simpa [ht] using hu
  simp [hpq t hpt] at hqu

theorem isKeyword_unique {t : Token} {a b : String} (ha : t.isKeyword a = true)
    (hb : t.isKeyword b = true) : a = b := by
  simp only [Token.isKeyword, Bool.and_eq_true, beq_iff_eq] at ha hb
  exact ha.2.symm.trans hb.2

theorem isModifier_of_isFunction {t : Token} (h : t.isKeyword "FUNCTION" = true) :
    isModifier t = false := by
  simp only [isModifier, Bool.or_eq_false_iff]
  constructor
  · by_contra hor
    exact absurd (isKeyword_unique h (by simpa using hor)) (by decide)
  · by_contra hreplace
    exact absurd (isKeyword_unique h (by simpa using hreplace)) (by decide)

theorem isFiller_of_isLanguage {t : Token} (h : t.isKeyword "LANGUAGE" = true) :
    isFiller t = false := by
  simp [isFiller, h]

/-- A keyword `CREATE` followed up to a position by modifiers only. -/
structure Opened (tokens : List Token) (create n : Nat) : Prop where
  lt : create < n
  keyword : Stands tokens (·.isKeyword "CREATE") create
  modifiers : ∀ j, create < j → j < n → Stands tokens isModifier j

/-- A name and as many further parts behind dots as there are. -/
structure Named (tokens : List Token) (first last : Nat) : Prop where
  isName : Stands tokens Token.isName first
  parts : ∃ count, last = first + 2 * count ∧ ∀ j < count,
    Stands tokens Token.isDot (first + 2 * j + 1) ∧ Stands tokens Token.isName (first + 2 * j + 2)
  maximal : ¬ (Stands tokens Token.isDot (last + 1) ∧ Stands tokens Token.isName (last + 2))

theorem Named.first_le {tokens : List Token} {first last : Nat} (h : Named tokens first last) :
    first ≤ last := by
  obtain ⟨count, rfl, _⟩ := h.parts
  omega

/-- Only fillers stand between two positions. -/
def Filled (tokens : List Token) (name n : Nat) : Prop :=
  name < n ∧ ∀ j, name < j → j < n → Stands tokens isFiller j

/-- Where a declaration stands: the positions of its keyword `CREATE`, of its keyword `FUNCTION`, of
    the last part of its name, and of its keyword `LANGUAGE`, which the language follows. -/
structure Occurrence where
  create : Nat
  function : Nat
  name : Nat
  language : Nat
  deriving DecidableEq, Repr

/-- A native function is declared at the given positions. -/
structure Occurs (tokens : List Token) (o : Occurrence) : Prop where
  opened : Opened tokens o.create o.function
  function : Stands tokens (·.isKeyword "FUNCTION") o.function
  named : Named tokens (o.function + 1) o.name
  filled : Filled tokens o.name o.language
  language : Stands tokens (·.isKeyword "LANGUAGE") o.language
  native : Stands tokens Token.namesNativeLanguage (o.language + 1)

theorem Occurs.create_le {tokens : List Token} {o : Occurrence} (h : Occurs tokens o) :
    o.create ≤ o.language := by
  have := h.opened.lt
  have := h.named.first_le
  have := h.filled.1
  omega

/-- The declaration that an occurrence makes: the text and the line of the last part of its name. -/
def Occurrence.Declares (tokens : List Token) (o : Occurrence) (d : Declaration) : Prop :=
  ∃ t, tokens[o.name]? = some t ∧ d = ofName t

theorem Opened.snoc {tokens : List Token} {create n : Nat} (h : Opened tokens create n)
    (hmodifier : Stands tokens isModifier n) : Opened tokens create (n + 1) := by
  refine ⟨Nat.lt_succ_of_lt h.lt, h.keyword, fun j hj hlt => ?_⟩
  rcases Nat.eq_or_lt_of_le (Nat.le_of_lt_succ hlt) with rfl | hlt
  · exact hmodifier
  · exact h.modifiers j hj hlt

theorem Filled.snoc {tokens : List Token} {name n : Nat} (h : Filled tokens name n)
    (hfiller : Stands tokens isFiller n) : Filled tokens name (n + 1) := by
  refine ⟨Nat.lt_succ_of_lt h.1, fun j hj hlt => ?_⟩
  rcases Nat.eq_or_lt_of_le (Nat.le_of_lt_succ hlt) with rfl | hlt
  · exact hfiller
  · exact h.2 j hj hlt

theorem Opened.function_le {tokens : List Token} {create n function : Nat}
    (hopened : Opened tokens create n) (hafter : create < function)
    (hfunction : Stands tokens (·.isKeyword "FUNCTION") function) : n ≤ function := by
  by_contra hlt
  exact hfunction.not_both (hopened.modifiers function hafter (by omega))
    fun _ => isModifier_of_isFunction

theorem Opened.function_unique {tokens : List Token} {create f g : Nat}
    (hf : Opened tokens create f) (hfFunction : Stands tokens (·.isKeyword "FUNCTION") f)
    (hg : Opened tokens create g) (hgFunction : Stands tokens (·.isKeyword "FUNCTION") g) :
    f = g := by
  have := hf.function_le hg.lt hgFunction
  have := hg.function_le hf.lt hfFunction
  omega

/-- A name ends in one place only, since it takes every part that follows. -/
theorem Named.last_unique {tokens : List Token} {first m n : Nat} (hm : Named tokens first m)
    (hn : Named tokens first n) : m = n := by
  obtain ⟨a, rfl, ha⟩ := hm.parts
  obtain ⟨b, rfl, hb⟩ := hn.parts
  rcases Nat.lt_trichotomy a b with hlt | rfl | hlt
  · exact absurd (hb a hlt) hm.maximal
  · rfl
  · exact absurd (ha b hlt) hn.maximal

theorem Filled.language_le {tokens : List Token} {name n language : Nat}
    (hfilled : Filled tokens name n) (hafter : name < language)
    (hlanguage : Stands tokens (·.isKeyword "LANGUAGE") language) : n ≤ language := by
  by_contra hlt
  exact hlanguage.not_both (hfilled.2 language hafter (by omega)) fun _ => isFiller_of_isLanguage

theorem Filled.language_unique {tokens : List Token} {name l k : Nat}
    (hl : Filled tokens name l) (hlLanguage : Stands tokens (·.isKeyword "LANGUAGE") l)
    (hk : Filled tokens name k) (hkLanguage : Stands tokens (·.isKeyword "LANGUAGE") k) :
    l = k := by
  have := hl.language_le hk.1 hkLanguage
  have := hk.language_le hl.1 hlLanguage
  omega

/-- The keyword that opens an occurrence determines all of it. -/
theorem Occurs.eq_of_create_eq {tokens : List Token} {o p : Occurrence} (ho : Occurs tokens o)
    (hp : Occurs tokens p) (hcreate : o.create = p.create) : o = p := by
  obtain ⟨create, function, name, language⟩ := o
  obtain ⟨create', function', name', language'⟩ := p
  obtain rfl : create = create' := hcreate
  obtain rfl : function = function' :=
    ho.opened.function_unique ho.function hp.opened hp.function
  obtain rfl : name = name' := ho.named.last_unique hp.named
  obtain rfl : language = language' := ho.filled.language_unique ho.language hp.filled hp.language
  rfl

end NativeExtension.Declaration

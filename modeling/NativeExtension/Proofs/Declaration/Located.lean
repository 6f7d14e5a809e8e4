import NativeExtension.Proofs.Declaration.Underway

namespace NativeExtension.Declaration

open Sql

/-- A position at which the walk has nothing underway, from a position `n` on where it has read from
    `start`: `start` itself, what follows a semicolon, and what follows an occurrence. -/
def Resumes (tokens : List Token) (occs : List Occurrence) (start n j : Nat) : Prop :=
  j = start ∨ (n < j ∧ Stands tokens Token.isSeparator (j - 1)) ∨
    ∃ o ∈ occs, j = o.language + 2

/-- The declarations found from position `n` on stand at the given occurrences, which are in order,
    apart, and all that begin where the walk has nothing underway. -/
structure Located (tokens : List Token) (start n : Nat) (found : List Declaration)
    (occs : List Occurrence) : Prop where
  declares : List.Forall₂ (fun d o => Occurs tokens o ∧ o.Declares tokens d) found occs
  apart : occs.Pairwise fun o p => o.language + 1 < p.create
  after : ∀ o ∈ occs, start ≤ o.create
  complete : ∀ o j, Occurs tokens o → Resumes tokens occs start n j → Fresh tokens j o.create →
    o ∈ occs

/-- At the end of the tokens nothing more is found, and nothing more is there. -/
theorem Underway.located_nil {tokens : List Token} {start n : Nat} {state : Awaiting}
    (h : Underway tokens start n state) (hend : tokens.drop n = []) :
    Located tokens start n [] [] := by
  refine ⟨.nil, .nil, by simp, ?_⟩
  rintro o j ho (rfl | ⟨hlt, hseparator⟩ | ⟨p, hp, _⟩) hfresh
  · have hlt := h.lt_of_fresh (not_stands_of_drop_nil hend (Nat.le_refl n) _) ho hfresh
    exact absurd ho.opened.keyword (not_stands_of_drop_nil hend (by omega) _)
  · exact absurd hseparator (not_stands_of_drop_nil hend (by omega) _)
  · simp at hp

/-- Reading on over tokens that are no semicolons, with the same declaration underway. -/
theorem Located.read {tokens : List Token} {start n next : Nat} {found : List Declaration}
    {occs : List Occurrence} (h : Located tokens start next found occs)
    (hno : ∀ k, n ≤ k → k < next → ¬ Stands tokens Token.isSeparator k) :
    Located tokens start n found occs := by
  refine ⟨h.declares, h.apart, h.after, fun o j ho hj => h.complete o j ho ?_⟩
  rcases hj with hj | ⟨hlt, hseparator⟩ | hj
  · exact .inl hj
  · refine .inr (.inl ⟨?_, hseparator⟩)
    by_contra hle
    exact hno (j - 1) (by omega) (by omega) hseparator
  · exact .inr (.inr hj)

theorem Located.read_one {tokens : List Token} {start n : Nat} {found : List Declaration}
    {occs : List Occurrence} (h : Located tokens start (n + 1) found occs)
    (hno : ¬ Stands tokens Token.isSeparator n) : Located tokens start n found occs := by
  refine h.read fun k hk hlt => ?_
  obtain rfl : k = n := by omega
  exact hno

/-- Reading a token that does not carry on what was underway, so that nothing is from then on. -/
theorem Underway.located_resume {tokens : List Token} {start n : Nat} {state : Awaiting}
    {found : List Declaration} {occs : List Occurrence} (h : Underway tokens start n state)
    (hnot : ¬ Stands tokens (carriesOn state) n)
    (hlocated : Located tokens (n + 1) (n + 1) found occs) : Located tokens start n found occs := by
  have hle := h.start_le
  refine ⟨hlocated.declares, hlocated.apart,
    fun o ho => Nat.le_trans (by omega) (hlocated.after o ho), ?_⟩
  intro o j ho hj hfresh
  rcases hj with rfl | ⟨hlt, hseparator⟩ | hj
  · have hfresh' : Fresh tokens (n + 1) o.create :=
      ⟨h.lt_of_fresh hnot ho hfresh, fun k hk => hfresh.2 k (by omega)⟩
    exact hlocated.complete o (n + 1) ho (.inl rfl) hfresh'
  · rcases Nat.eq_or_lt_of_le (show n + 1 ≤ j by omega) with rfl | hlt
    · exact hlocated.complete o (n + 1) ho (.inl rfl) hfresh
    · exact hlocated.complete o j ho (.inr (.inl ⟨hlt, hseparator⟩)) hfresh
  · exact hlocated.complete o j ho (.inr (.inr hj)) hfresh

/-- Reading the language of an occurrence, which is found in front of the others. -/
theorem Located.cons {tokens : List Token} {n : Nat} {d : Declaration} {o : Occurrence}
    {found : List Declaration} {occs : List Occurrence}
    (h : Located tokens (n + 1) (n + 1) found occs) (ho : Occurs tokens o)
    (hd : o.Declares tokens d) (hn : n = o.language + 1) :
    Located tokens o.create n (d :: found) (o :: occs) := by
  have hle := ho.create_le
  refine ⟨.cons ⟨ho, hd⟩ h.declares, ?_, ?_, ?_⟩
  · refine List.pairwise_cons.mpr ⟨fun p hp => ?_, h.apart⟩
    have := h.after p hp
    omega
  · intro p hp
    rcases List.mem_cons.mp hp with rfl | hp
    · exact Nat.le_refl _
    · exact Nat.le_trans (by omega) (h.after p hp)
  · intro p j hp hj hfresh
    rcases hj with rfl | ⟨hlt, hseparator⟩ | ⟨q, hq, rfl⟩
    · have heq := hp.eq_of_create_eq ho (ho.opened.eq_of_fresh hfresh)
      simp [heq]
    · rcases Nat.eq_or_lt_of_le (show n + 1 ≤ j by omega) with rfl | hlt
      · exact List.mem_cons_of_mem _ (h.complete p (n + 1) hp (.inl rfl) hfresh)
      · exact List.mem_cons_of_mem _
          (h.complete p j hp (.inr (.inl ⟨hlt, hseparator⟩)) hfresh)
    · rcases List.mem_cons.mp hq with rfl | hq
      · exact List.mem_cons_of_mem _ (h.complete p _ hp (.inl (by omega)) hfresh)
      · exact List.mem_cons_of_mem _ (h.complete p _ hp (.inr (.inr ⟨q, hq, rfl⟩)) hfresh)

end NativeExtension.Declaration

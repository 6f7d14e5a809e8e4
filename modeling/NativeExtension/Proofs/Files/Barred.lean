import NativeExtension.Proofs.Files.Ways

namespace NativeExtension.FileTree

/-- The walks that a missing entry, or one that is no directory, keeps from going on: from a
    directory over names to the location of that entry. -/
inductive Barred (t : FileTree) (aim : Aim) : Nat → Location → List String → Location → Prop where
  | same {links : Nat} {here m : Location} {name : String} {rest : List String}
      (hname : name = "" ∨ name = "." ∧ t.isClosed here = false)
      (tail : Barred t aim links here rest m) : Barred t aim links here (name :: rest) m
  | up {links : Nat} {here m : Location} {rest : List String} (hclosed : t.isClosed here = false)
      (tail : Barred t aim links here.dropLast rest m) : Barred t aim links here (".." :: rest) m
  | onward {links rights : Nat} {here m : Location} {name : String} {rest : List String}
      (hname : t.Takes here name) (hrest : ¬ (aim = .newFile ∧ rest = [""]))
      (hway : wayOf (t.get? (here ++ [name])) = .onward rights)
      (tail : Barred t aim links (here ++ [name]) rest m) : Barred t aim links here (name :: rest) m
  | stop {links : Nat} {here : Location} {name : String} {rest : List String}
      (hname : t.Takes here name) (hrest : ¬ (aim = .newFile ∧ rest = [""])) (hmore : rest ≠ [])
      (hway : wayOf (t.get? (here ++ [name])) = .stop) :
      Barred t aim links here (name :: rest) (here ++ [name])
  | follow {links : Nat} {here m : Location} {name text : String} {rest : List String}
      (hname : t.Takes here name) (hrest : ¬ (aim = .newFile ∧ rest = [""]))
      (hway : wayOf (t.get? (here ++ [name])) = .link text) (hend : ¬ (rest = [] ∧ aim = .link))
      (tail : Barred t aim links (origin here text) (pathNames text ++ rest) m) :
      Barred t aim (links + 1) here (name :: rest) m

namespace Barred

variable {t u : FileTree} {aim : Aim} {links : Nat} {here m : Location} {names : List String}

theorem way (h : Barred t aim links here names m) : wayOf (t.get? m) = .stop := by
  induction h with
  | same _ _ ih => exact ih
  | up _ _ ih => exact ih
  | onward _ _ _ _ ih => exact ih
  | stop _ _ _ hway => exact hway
  | follow _ _ _ _ _ ih => exact ih

theorem walk (h : Barred t aim links here names m) :
    t.walk aim links here names = .error (barError (t.get? m)) := by
  induction h with
  | same hname _ ih => rw [walk_same hname, ih]
  | up hclosed _ ih => rw [walk_up hclosed, ih]
  | onward hname hrest hway _ ih => rw [walk_onward hname hrest hway, ih]
  | stop hname hrest hmore hway =>
    rw [walk_entry hname hrest, hway]
    simp [hmore]
  | follow hname hrest hway hend _ ih => rw [walk_follow hname hrest hway hend, ih]

/-- A walk is barred by the same entry where more ways are open, unless one is open there. -/
theorem keepsWays (h : Barred t aim links here names m) (hways : KeepsWays t u)
    (hm : wayOf (u.get? m) = .stop) : Barred u aim links here names m := by
  induction h with
  | same hname _ ih => exact .same (hname.imp_right (.imp_right hways.isClosed)) (ih hm)
  | up hclosed _ ih => exact .up (hways.isClosed hclosed) (ih hm)
  | onward hname hrest hway _ ih =>
    exact .onward (hways.takes hname) hrest ((hways.ways _ (by simp [hway])).trans hway) (ih hm)
  | stop hname hrest hmore _ => exact .stop (hways.takes hname) hrest hmore hm
  | follow hname hrest hway hend _ ih =>
    exact .follow (hways.takes hname) hrest ((hways.ways _ (by simp [hway])).trans hway) hend (ih hm)

end Barred

/-- A name that a walk does not get past, for a reason that all trees with the same ways share. -/
theorem walk_refused {t : FileTree} {aim : Aim} {here : Location} {name : String}
    {rest : List String} (hempty : name ≠ "") (hself : t.isClosed here = false → name ≠ ".")
    (hup : t.isClosed here = false → name ≠ "..")
    (htakes : ¬ (t.Takes here name ∧ ¬ (aim = .newFile ∧ rest = [""]))) (links : Nat) :
    ∀ u, SameWays t u →
      u.walk aim links here (name :: rest) = t.walk aim links here (name :: rest) := by
  intro u hu
  rw [walk_cons, walk_cons, if_neg hempty, if_neg hempty, hu.isClosed, hu.hasDirectory]
  cases hclosed : t.isClosed here with
  | true => simp
  | false =>
    simp only [hself hclosed, hup hclosed, if_false, Bool.false_eq_true]
    by_cases hnew : aim = .newFile ∧ rest = [""]
    · simp [hnew]
    cases hdirectory : t.hasDirectory here with
    | false => simp
    | true =>
      have hlong : name.utf8ByteSize > nameLimit := Nat.lt_of_not_le fun hshort =>
        htakes ⟨⟨⟨hempty, hself hclosed, hup hclosed, hshort⟩, hdirectory, hclosed⟩, hnew⟩
      simp [hlong]

/-- Where no entry bars a walk over names that can be looked up, trees with the same ways agree on
    it if they do on what is left of it, in the directory it comes to or behind the link. -/
theorem barred_or_walk_eq_of_takes {t : FileTree} {aim : Aim} {links : Nat} {here : Location}
    {name : String} {rest : List String} (hname : t.Takes here name)
    (hnew : ¬ (aim = .newFile ∧ rest = [""]))
    (htail : (∃ m, Barred t aim links (here ++ [name]) rest m) ∨ ∀ u, SameWays t u →
      u.walk aim links (here ++ [name]) rest = t.walk aim links (here ++ [name]) rest)
    (hfollow : ∀ fewer, links = fewer + 1 → ∀ here names, (∃ m, Barred t aim fewer here names m) ∨
      ∀ u, SameWays t u → u.walk aim fewer here names = t.walk aim fewer here names) :
    (∃ m, Barred t aim links here (name :: rest) m) ∨ ∀ u, SameWays t u →
      u.walk aim links here (name :: rest) = t.walk aim links here (name :: rest) := by
  cases hway : wayOf (t.get? (here ++ [name])) with
  | onward rights =>
    obtain ⟨m, hm⟩ | hsame := htail
    · exact .inl ⟨m, .onward hname hnew hway hm⟩
    · refine .inr fun u hu => ?_
      rw [walk_onward hname hnew hway, walk_onward (hu.takes hname) hnew ((hu.ways _).trans hway)]
      exact hsame u hu
  | stop =>
    by_cases hrest : rest = []
    · refine .inr fun u hu => ?_
      rw [walk_entry (hu.takes hname) hnew, walk_entry hname hnew, hu.ways, hway]
      simp [hrest]
    · exact .inl ⟨_, .stop hname hnew hrest hway⟩
  | link text =>
    by_cases hend : rest = [] ∧ aim = .link
    · refine .inr fun u hu => ?_
      rw [walk_entry (hu.takes hname) hnew, walk_entry hname hnew, hu.ways, hway]
      simp [hend]
    cases links with
    | zero =>
      refine .inr fun u hu => ?_
      rw [walk_entry (hu.takes hname) hnew, walk_entry hname hnew, hu.ways, hway]
    | succ links =>
      obtain ⟨m, hm⟩ | hsame := hfollow links rfl (origin here text) (pathNames text ++ rest)
      · exact .inl ⟨m, .follow hname hnew hway hend hm⟩
      · refine .inr fun u hu => ?_
        rw [walk_follow hname hnew hway hend,
          walk_follow (hu.takes hname) hnew ((hu.ways _).trans hway) hend]
        exact hsame u hu

/-- Where no entry bars a walk, trees with the same ways agree on it. The induction is on the names;
    what is known of walks behind a link is given. -/
theorem barred_or_walk_eq_of_follow {t : FileTree} {aim : Aim} {links : Nat}
    (hfollow : ∀ fewer, links = fewer + 1 → ∀ here names, (∃ m, Barred t aim fewer here names m) ∨
      ∀ u, SameWays t u → u.walk aim fewer here names = t.walk aim fewer here names)
    (here : Location) (names : List String) :
    (∃ m, Barred t aim links here names m) ∨
      ∀ u, SameWays t u → u.walk aim links here names = t.walk aim links here names := by
  induction names generalizing here with
  | nil => exact .inr fun u _ => by rw [walk_nil, walk_nil]
  | cons name rest ih =>
    by_cases hself : name = "" ∨ name = "." ∧ t.isClosed here = false
    · obtain ⟨m, hm⟩ | hsame := ih here
      · exact .inl ⟨m, .same hself hm⟩
      · refine .inr fun u hu => ?_
        have hself' : name = "" ∨ name = "." ∧ u.isClosed here = false :=
          hself.imp_right (.imp_right (hu.isClosed here).trans)
        rw [walk_same hself, walk_same hself']
        exact hsame u hu
    by_cases hup : name = ".." ∧ t.isClosed here = false
    · obtain ⟨rfl, hclosed⟩ := hup
      obtain ⟨m, hm⟩ | hsame := ih here.dropLast
      · exact .inl ⟨m, .up hclosed hm⟩
      · refine .inr fun u hu => ?_
        rw [walk_up hclosed, walk_up ((hu.isClosed here).trans hclosed)]
        exact hsame u hu
    by_cases htakes : t.Takes here name ∧ ¬ (aim = .newFile ∧ rest = [""])
    · exact barred_or_walk_eq_of_takes htakes.1 htakes.2 (ih (here ++ [name])) hfollow
    · exact .inr (walk_refused (fun h => hself (.inl h)) (fun hclosed h => hself (.inr ⟨h, hclosed⟩))
        (fun hclosed h => hup ⟨h, hclosed⟩) htakes links)

theorem barred_or_walk_eq (t : FileTree) (aim : Aim) (links : Nat) (here : Location)
    (names : List String) :
    (∃ m, Barred t aim links here names m) ∨
      ∀ u, SameWays t u → u.walk aim links here names = t.walk aim links here names := by
  induction links generalizing here names with
  | zero => exact barred_or_walk_eq_of_follow (by simp) here names
  | succ links ih =>
    refine barred_or_walk_eq_of_follow (fun fewer hfewer => ?_) here names
    obtain rfl : links = fewer := by simpa using hfewer
    exact ih

/-- A text whose way is barred by the entry at a location, or the lack of one there. -/
structure Bars (t : FileTree) (aim : Aim) (text : String) (m : Location) : Prop where
  ne_empty : text ≠ ""
  short : text.utf8ByteSize ≤ pathLimit
  barred : Barred t aim linkLimit (origin t.current text) (pathNames text) m

namespace Bars

variable {t u : FileTree} {aim : Aim} {text : String} {m : Location}

theorem resolve (h : t.Bars aim text m) : t.resolve aim text = .error (barError (t.get? m)) := by
  unfold FileTree.resolve
  rw [if_neg h.ne_empty, if_neg (Nat.not_lt.mpr h.short)]
  exact h.barred.walk

theorem keepsWays (h : t.Bars aim text m) (hways : KeepsWays t u)
    (hm : wayOf (u.get? m) = .stop) : u.Bars aim text m := by
  refine ⟨h.ne_empty, h.short, ?_⟩
  rw [hways.current]
  exact h.barred.keepsWays hways hm

theorem sameWays (h : t.Bars aim text m) (hways : SameWays t u) : u.Bars aim text m :=
  h.keepsWays hways.keepsWays ((hways.ways m).trans h.barred.way)

end Bars

/-- Trees with the same ways agree on where a text leads, unless an entry bars its way. -/
theorem bars_or_resolve_eq (t : FileTree) (aim : Aim) (text : String) :
    (∃ m, t.Bars aim text m) ∨ ∀ u, SameWays t u → u.resolve aim text = t.resolve aim text := by
  by_cases hempty : text = ""
  · exact .inr fun u _ => by simp [FileTree.resolve, hempty]
  by_cases hlong : text.utf8ByteSize > pathLimit
  · exact .inr fun u _ => by simp [FileTree.resolve, hempty, hlong]
  obtain ⟨m, hm⟩ | hsame :=
    barred_or_walk_eq t aim linkLimit (origin t.current text) (pathNames text)
  · exact .inl ⟨m, hempty, Nat.le_of_not_gt hlong, hm⟩
  · refine .inr fun u hu => ?_
    unfold FileTree.resolve
    rw [if_neg hempty, if_neg hempty, if_neg hlong, if_neg hlong, hu.current]
    exact hsame u hu

end NativeExtension.FileTree

import NativeExtension.Files.Resolve

namespace NativeExtension

/-- What permission bits give the owner of a directory: the rights to list it, to change it and to
    look names up in it. -/
def directoryRights (mode : Nat) : Nat := mode &&& 0o700

namespace FileTree

theorem mayRead_directoryRights (mode : Nat) : mayRead (directoryRights mode) = mayRead mode := by
  have hbits : 0o700 &&& 0o400 = 0o400 := by decide
  rw [mayRead, mayRead, directoryRights, Nat.and_assoc, hbits]

theorem mayWrite_directoryRights (mode : Nat) : mayWrite (directoryRights mode) = mayWrite mode := by
  have hbits : 0o700 &&& 0o200 = 0o200 := by decide
  rw [mayWrite, mayWrite, directoryRights, Nat.and_assoc, hbits]

theorem mayExecute_directoryRights (mode : Nat) :
    mayExecute (directoryRights mode) = mayExecute mode := by
  have hbits : 0o700 &&& 0o100 = 0o100 := by decide
  rw [mayExecute, mayExecute, directoryRights, Nat.and_assoc, hbits]

/-- What a walk over names sees of an entry: a directory to go on in, with the rights of its owner, a
    link to follow, or anything else, at which a path can only end. -/
inductive Way where
  | onward (rights : Nat)
  | link (target : String)
  | stop
  deriving DecidableEq

/-- How an entry, or the lack of one, is seen on the way. -/
def wayOf : Option Entry → Way
  | some (.directory mode) => .onward (directoryRights mode)
  | some (.link text) => .link text
  | some (.file ..) | some (.device _) | none => .stop

theorem wayOf_eq_onward {e : Option Entry} {rights : Nat} :
    wayOf e = .onward rights ↔ ∃ mode, e = some (.directory mode) ∧ directoryRights mode = rights := by
  rcases e with _ | (_ | _ | _ | _) <;> simp [wayOf]

theorem wayOf_eq_link {e : Option Entry} {text : String} :
    wayOf e = .link text ↔ e = some (.link text) := by
  rcases e with _ | (_ | _ | _ | _) <;> simp [wayOf]

theorem hasDirectory_iff {t : FileTree} {l : Location} :
    t.hasDirectory l = true ↔ ∃ rights, wayOf (t.get? l) = .onward rights := by
  unfold hasDirectory
  rcases t.get? l with _ | (_ | _ | _ | _) <;> simp [wayOf, Entry.isDirectory]

theorem isClosed_iff {t : FileTree} {l : Location} : t.isClosed l = true ↔
    ∃ rights, wayOf (t.get? l) = .onward rights ∧ mayExecute rights = false := by
  unfold isClosed
  rcases t.get? l with _ | (_ | _ | _ | _) <;> simp [wayOf, mayExecute_directoryRights]

theorem hasDirectory_of_isClosed {t : FileTree} {l : Location} (h : t.isClosed l = true) :
    t.hasDirectory l = true := by
  obtain ⟨rights, hway, -⟩ := isClosed_iff.mp h
  exact hasDirectory_iff.mpr ⟨rights, hway⟩

theorem wayOf_eq_stop {t : FileTree} {l : Location} (hdirectory : t.hasDirectory l = false)
    (hlink : ∀ text, t.get? l ≠ some (.link text)) : wayOf (t.get? l) = .stop := by
  cases hway : wayOf (t.get? l) with
  | onward rights => exact absurd (hasDirectory_iff.mpr ⟨rights, hway⟩) (by simp [hdirectory])
  | link text => exact absurd (wayOf_eq_link.mp hway) (hlink text)
  | stop => rfl

theorem mayChange_iff {t : FileTree} {l : Location} : t.mayChange l = true ↔
    ∃ rights, wayOf (t.get? l.dropLast) = .onward rights ∧ mayWrite rights = true := by
  unfold mayChange
  rcases t.get? l.dropLast with _ | (_ | _ | _ | _) <;> simp [wayOf, mayWrite_directoryRights]

/-- A name that an entry can have: it stands for no directory by itself and is not too long. -/
structure EntryName (name : String) : Prop where
  ne_empty : name ≠ ""
  ne_here : name ≠ "."
  ne_up : name ≠ ".."
  short : name.utf8ByteSize ≤ nameLimit

/-- A name of an entry that can be looked up in the directory at a location. -/
structure Takes (t : FileTree) (here : Location) (name : String) : Prop extends EntryName name where
  directory : t.hasDirectory here = true
  unclosed : t.isClosed here = false

/-- The error of a walk that has to go on where it can only end. -/
def barError : Option Entry → Errno
  | none => .noEntry
  | some _ => .notDirectory

theorem barError_eq_iff {e e' : Option Entry} : barError e = barError e' ↔ e.isSome = e'.isSome := by
  cases e <;> cases e' <;> simp [barError]

section Steps

variable {t : FileTree} {aim : Aim} {links : Nat} {here : Location} {name : String}
  {rest : List String}

theorem walk_same (hname : name = "" ∨ name = "." ∧ t.isClosed here = false) :
    t.walk aim links here (name :: rest) = t.walk aim links here rest := by
  rw [walk_cons]
  obtain rfl | ⟨rfl, hclosed⟩ := hname
  · simp
  · simp [hclosed]

theorem walk_up (hclosed : t.isClosed here = false) :
    t.walk aim links here (".." :: rest) = t.walk aim links here.dropLast rest := by
  rw [walk_cons]
  simp [hclosed]

/-- One step of a walk, by what it sees of the entry that it comes to. -/
theorem walk_entry (hname : t.Takes here name) (hrest : ¬ (aim = .newFile ∧ rest = [""])) :
    t.walk aim links here (name :: rest) =
      match wayOf (t.get? (here ++ [name])) with
      | .onward _ => t.walk aim links (here ++ [name]) rest
      | .stop =>
        if rest = [] then .ok (here ++ [name]) else .error (barError (t.get? (here ++ [name])))
      | .link text =>
        if rest = [] && aim = .link then .ok (here ++ [name])
        else
          match links with
          | 0 => .error .linkLoop
          | links + 1 => t.walk aim links (origin here text) (pathNames text ++ rest) := by
  have hnew : ¬ (decide (aim = .newFile) && decide (rest = [""])) = true := by simpa using hrest
  rw [walk_cons, if_neg hname.ne_empty, if_neg (by simp [hname.unclosed]), if_neg hname.ne_here,
    if_neg hname.ne_up, if_neg hnew, if_neg (by simp [hname.directory]),
    if_neg (Nat.not_lt.mpr hname.short)]
  rcases t.get? (here ++ [name]) with _ | (_ | _ | _ | _) <;> rfl

theorem walk_onward {rights : Nat} (hname : t.Takes here name)
    (hrest : ¬ (aim = .newFile ∧ rest = [""]))
    (hway : wayOf (t.get? (here ++ [name])) = .onward rights) :
    t.walk aim links here (name :: rest) = t.walk aim links (here ++ [name]) rest := by
  rw [walk_entry hname hrest, hway]

theorem walk_follow {text : String} (hname : t.Takes here name)
    (hrest : ¬ (aim = .newFile ∧ rest = [""]))
    (hway : wayOf (t.get? (here ++ [name])) = .link text) (hend : ¬ (rest = [] ∧ aim = .link)) :
    t.walk aim (links + 1) here (name :: rest) =
      t.walk aim links (origin here text) (pathNames text ++ rest) := by
  rw [walk_entry hname hrest, hway]
  dsimp only
  rw [if_neg (by simpa using hend)]

end Steps

/-- The walks that arrive: from a directory over names to a location, with so many links left. A
    proof interface to `walk`; errors have no derivation. -/
inductive Leads (t : FileTree) (aim : Aim) : Nat → Location → List String → Location → Prop where
  | done {links : Nat} {here : Location} : Leads t aim links here [] here
  | same {links : Nat} {here l : Location} {name : String} {rest : List String}
      (hname : name = "" ∨ name = "." ∧ t.isClosed here = false)
      (tail : Leads t aim links here rest l) : Leads t aim links here (name :: rest) l
  | up {links : Nat} {here l : Location} {rest : List String} (hclosed : t.isClosed here = false)
      (tail : Leads t aim links here.dropLast rest l) : Leads t aim links here (".." :: rest) l
  | onward {links rights : Nat} {here l : Location} {name : String} {rest : List String}
      (hname : t.Takes here name) (hrest : ¬ (aim = .newFile ∧ rest = [""]))
      (hway : wayOf (t.get? (here ++ [name])) = .onward rights)
      (tail : Leads t aim links (here ++ [name]) rest l) : Leads t aim links here (name :: rest) l
  | stop {links : Nat} {here : Location} {name : String} (hname : t.Takes here name)
      (hway : wayOf (t.get? (here ++ [name])) = .stop) :
      Leads t aim links here [name] (here ++ [name])
  | link {links : Nat} {here : Location} {name text : String} (hname : t.Takes here name)
      (haim : aim = .link) (hway : wayOf (t.get? (here ++ [name])) = .link text) :
      Leads t aim links here [name] (here ++ [name])
  | follow {links : Nat} {here l : Location} {name text : String} {rest : List String}
      (hname : t.Takes here name) (hrest : ¬ (aim = .newFile ∧ rest = [""]))
      (hway : wayOf (t.get? (here ++ [name])) = .link text) (hend : ¬ (rest = [] ∧ aim = .link))
      (tail : Leads t aim links (origin here text) (pathNames text ++ rest) l) :
      Leads t aim (links + 1) here (name :: rest) l

theorem walk_of_leads {t : FileTree} {aim : Aim} {links : Nat} {here l : Location}
    {names : List String} (h : Leads t aim links here names l) :
    t.walk aim links here names = .ok l := by
  induction h with
  | done => exact walk_nil ..
  | same hname _ ih => rw [walk_same hname, ih]
  | up hclosed _ ih => rw [walk_up hclosed, ih]
  | onward hname hrest hway _ ih => rw [walk_onward hname hrest hway, ih]
  | stop hname hway =>
    rw [walk_entry hname (by simp), hway]
    simp
  | link hname haim hway =>
    rw [walk_entry hname (by simp), hway]
    simp [haim]
  | follow hname hrest hway hend _ ih => rw [walk_follow hname hrest hway hend, ih]

/-- A walk that arrives has a derivation once those behind links have, for which a link less may be
    followed. -/
theorem leads_of_walkNames {t : FileTree} {aim : Aim} {links : Nat}
    {follow : Location → List String → Except Errno Location} {here l : Location}
    {names : List String}
    (hfollow : ∀ here names l, follow here names = .ok l →
      ∃ fewer, links = fewer + 1 ∧ Leads t aim fewer here names l)
    (h : t.walkNames aim follow here names = .ok l) : Leads t aim links here names l := by
  have takes {here : Location} {name : String} (hempty : name ≠ "")
      (hclosed : ¬ t.isClosed here = true) (hself : name ≠ ".") (hup : name ≠ "..")
      (hdirectory : ¬ (!t.hasDirectory here) = true)
      (hshort : ¬ name.utf8ByteSize > nameLimit) : t.Takes here name :=
    ⟨⟨hempty, hself, hup, Nat.le_of_not_gt hshort⟩, by simpa using hdirectory, by simpa using hclosed⟩
  fun_induction walkNames t aim follow here names with
  | case1 here =>
    cases h
    exact .done
  | case2 here rest ih => exact .same (.inl rfl) (ih h)
  | case3 => cases h
  | case4 here rest hclosed _ ih => exact .same (.inr ⟨rfl, by simpa using hclosed⟩) (ih h)
  | case5 here rest hclosed _ _ ih => exact .up (by simpa using hclosed) (ih h)
  | case6 => cases h
  | case7 => cases h
  | case8 => cases h
  | case9 here name hempty hclosed hself hup hdirectory hshort next hget =>
    obtain rfl : here ++ [name] = l := by simpa [next] using h
    exact .stop (takes hempty hclosed hself hup hdirectory hshort) (by simp [next, hget, wayOf])
  | case10 => cases h
  | case11 here name rest hempty hclosed hself hup hnew hdirectory hshort next mode hget ih =>
    exact .onward (takes hempty hclosed hself hup hdirectory hshort) (by simpa using hnew)
      (wayOf_eq_onward.mpr ⟨mode, hget, rfl⟩) (ih h)
  | case12 here name hempty hclosed hself hup hdirectory hshort next content mode hget =>
    obtain rfl : here ++ [name] = l := by simpa [next] using h
    exact .stop (takes hempty hclosed hself hup hdirectory hshort) (by simp [next, hget, wayOf])
  | case13 => cases h
  | case14 here name hempty hclosed hself hup hdirectory hshort next endless hget =>
    obtain rfl : here ++ [name] = l := by simpa [next] using h
    exact .stop (takes hempty hclosed hself hup hdirectory hshort) (by simp [next, hget, wayOf])
  | case15 => cases h
  | case16 here name rest hempty hclosed hself hup hnew hdirectory hshort next text hget hend =>
    obtain rfl : here ++ [name] = l := by simpa [next] using h
    simp only [Bool.and_eq_true, decide_eq_true_eq] at hend
    obtain ⟨rfl, haim⟩ := hend
    exact .link (takes hempty hclosed hself hup hdirectory hshort) haim (wayOf_eq_link.mpr hget)
  | case17 here name rest hempty hclosed hself hup hnew hdirectory hshort next text hget hend =>
    obtain ⟨fewer, rfl, tail⟩ := hfollow _ _ _ h
    exact .follow (takes hempty hclosed hself hup hdirectory hshort) (by simpa using hnew)
      (wayOf_eq_link.mpr hget) (by simpa using hend) tail

theorem leads_of_walk {t : FileTree} {aim : Aim} {links : Nat} {here l : Location}
    {names : List String} (h : t.walk aim links here names = .ok l) :
    Leads t aim links here names l := by
  induction links generalizing here names l with
  | zero => exact leads_of_walkNames (by simp) h
  | succ links ih => exact leads_of_walkNames (fun _ _ _ hwalk => ⟨links, rfl, ih hwalk⟩) h

theorem walk_eq_ok_iff {t : FileTree} {aim : Aim} {links : Nat} {here l : Location}
    {names : List String} :
    t.walk aim links here names = .ok l ↔ Leads t aim links here names l :=
  ⟨leads_of_walk, walk_of_leads⟩

/-- A walk that arrives leads to one location only. -/
theorem Leads.unique {t : FileTree} {aim : Aim} {links : Nat} {here l m : Location}
    {names : List String} (hl : Leads t aim links here names l)
    (hm : Leads t aim links here names m) : l = m := by
  have heq := (walk_of_leads hl).symm.trans (walk_of_leads hm)
  simpa using heq

theorem resolve_eq_ok_iff {t : FileTree} {aim : Aim} {text : String} {l : Location} :
    t.resolve aim text = .ok l ↔ text ≠ "" ∧ text.utf8ByteSize ≤ pathLimit ∧
      Leads t aim linkLimit (origin t.current text) (pathNames text) l := by
  unfold resolve
  by_cases hempty : text = ""
  · simp [hempty]
  · by_cases hlong : text.utf8ByteSize > pathLimit
    · simp [hempty, hlong, Nat.not_le_of_gt hlong]
    · rw [if_neg hempty, if_neg hlong, walk_eq_ok_iff]
      simp [hempty, Nat.le_of_not_gt hlong]

/-- Two trees that walks over names cannot tell apart, and that give staging files the same names. -/
structure SameWays (t u : FileTree) : Prop where
  ways : ∀ l, wayOf (u.get? l) = wayOf (t.get? l)
  current : u.current = t.current
  draws : u.draws = t.draws

namespace SameWays

variable {t u v : FileTree}

theorem refl (t : FileTree) : SameWays t t := ⟨fun _ => rfl, rfl, rfl⟩

theorem symm (h : SameWays t u) : SameWays u t :=
  ⟨fun l => (h.ways l).symm, h.current.symm, h.draws.symm⟩

theorem trans (htu : SameWays t u) (huv : SameWays u v) : SameWays t v :=
  ⟨fun l => (huv.ways l).trans (htu.ways l), huv.current.trans htu.current,
    huv.draws.trans htu.draws⟩

theorem hasDirectory (h : SameWays t u) (l : Location) : u.hasDirectory l = t.hasDirectory l := by
  rw [Bool.eq_iff_iff, hasDirectory_iff, hasDirectory_iff, h.ways]

theorem isClosed (h : SameWays t u) (l : Location) : u.isClosed l = t.isClosed l := by
  rw [Bool.eq_iff_iff, isClosed_iff, isClosed_iff, h.ways]

theorem mayChange (h : SameWays t u) (l : Location) : u.mayChange l = t.mayChange l := by
  rw [Bool.eq_iff_iff, mayChange_iff, mayChange_iff, h.ways]

theorem isAdrift (h : SameWays t u) (path : Path) : u.isAdrift path = t.isAdrift path := by
  unfold FileTree.isAdrift
  rw [h.current, h.hasDirectory]

theorem takes (h : SameWays t u) {here : Location} {name : String} (hname : t.Takes here name) :
    u.Takes here name :=
  ⟨hname.toEntryName, (h.hasDirectory here).trans hname.directory,
    (h.isClosed here).trans hname.unclosed⟩

end SameWays

theorem Leads.congr {t u : FileTree} (hways : SameWays t u) {aim : Aim} {links : Nat}
    {here l : Location} {names : List String} (h : Leads t aim links here names l) :
    Leads u aim links here names l := by
  induction h with
  | done => exact .done
  | same hname _ ih => exact .same (hname.imp_right (.imp_right (hways.isClosed _).trans)) ih
  | up hclosed _ ih => exact .up ((hways.isClosed _).trans hclosed) ih
  | onward hname hrest hway _ ih =>
    exact .onward (hways.takes hname) hrest ((hways.ways _).trans hway) ih
  | stop hname hway => exact .stop (hways.takes hname) ((hways.ways _).trans hway)
  | link hname haim hway => exact .link (hways.takes hname) haim ((hways.ways _).trans hway)
  | follow hname hrest hway hend _ ih =>
    exact .follow (hways.takes hname) hrest ((hways.ways _).trans hway) hend ih

/-- Trees with the same ways resolve every path alike. Only the errors may differ: the way may be
    missing in one and barred by a file in the other. -/
theorem SameWays.resolve_eq_ok {t u : FileTree} (hways : SameWays t u) {aim : Aim} {text : String}
    {l : Location} (h : t.resolve aim text = .ok l) : u.resolve aim text = .ok l := by
  rw [resolve_eq_ok_iff] at h ⊢
  obtain ⟨hempty, hshort, hleads⟩ := h
  refine ⟨hempty, hshort, ?_⟩
  rw [hways.current]
  exact hleads.congr hways

/-- Where a walk ends at no link, the link at its end need not be told from its target. -/
theorem Leads.target_of_link {t : FileTree} {links : Nat} {here l : Location} {names : List String}
    (h : Leads t .link links here names l) (hl : ∀ text, wayOf (t.get? l) ≠ .link text) :
    Leads t .target links here names l := by
  induction h with
  | done => exact .done
  | same hname _ ih => exact .same hname (ih hl)
  | up hclosed _ ih => exact .up hclosed (ih hl)
  | onward hname _ hway _ ih => exact .onward hname (by simp) hway (ih hl)
  | stop hname hway => exact .stop hname hway
  | link _ _ hway => exact absurd hway (hl _)
  | follow hname _ hway _ _ ih => exact .follow hname (by simp) hway (by simp) (ih hl)

/-- A file that is made for writing is made where the path leads. -/
theorem Leads.target_of_newFile {t : FileTree} {links : Nat} {here l : Location}
    {names : List String} (h : Leads t .newFile links here names l) :
    Leads t .target links here names l := by
  induction h with
  | done => exact .done
  | same hname _ ih => exact .same hname ih
  | up hclosed _ ih => exact .up hclosed ih
  | onward hname _ hway _ ih => exact .onward hname (by simp) hway ih
  | stop hname hway => exact .stop hname hway
  | link _ haim _ => cases haim
  | follow hname _ hway _ _ ih => exact .follow hname (by simp) hway (by simp) ih

end FileTree

end NativeExtension

import NativeExtension.Proofs.Files.Matching

namespace NativeExtension.FileTree

/-- A location at which a directory stands, as at every location above it. -/
def Standing (t : FileTree) (l : Location) : Prop :=
  ∀ m, m <+: l → t.hasDirectory m = true

namespace Standing

variable {t u : FileTree} {l : Location}

theorem hasDirectory (h : t.Standing l) : t.hasDirectory l = true := h l List.prefix_rfl

theorem root (t : FileTree) : t.Standing [] := by
  intro m hm
  obtain rfl := List.prefix_nil.mp hm
  simp [FileTree.hasDirectory, get?, Entry.isDirectory]

theorem up (h : t.Standing l) : t.Standing l.dropLast :=
  fun m hm => h m (hm.trans (List.dropLast_prefix l))

theorem below (h : t.Standing l) {name : String} {rights : Nat}
    (hway : wayOf (t.get? (l ++ [name])) = .onward rights) : t.Standing (l ++ [name]) := by
  intro m hm
  obtain rfl | hm := List.prefix_concat_iff.mp hm
  · exact hasDirectory_iff.mpr ⟨rights, hway⟩
  · exact h m hm

theorem behindLink (h : t.Standing l) (text : String) : t.Standing (origin l text) := by
  unfold origin
  split
  · exact .root t
  · exact h

theorem keepsWays (h : t.Standing l) (hways : KeepsWays t u) : u.Standing l :=
  fun m hm => hways.hasDirectory (h m hm)

end Standing

/-- Names that, if there are any, end in the empty one, which stands for the directory itself. -/
def EndsInSlash (names : List String) : Prop := ∀ name ∈ names.getLast?, name = ""

theorem EndsInSlash.tail {name : String} {rest : List String} (h : EndsInSlash (name :: rest)) :
    EndsInSlash rest := by
  cases rest with
  | nil => simp [EndsInSlash]
  | cons => simpa [EndsInSlash] using h

theorem EndsInSlash.rest_ne_nil {name : String} {rest : List String}
    (h : EndsInSlash (name :: rest)) (hname : EntryName name) : rest ≠ [] := by
  rintro rfl
  exact hname.ne_empty (h name (by simp))

/-- A walk that starts in a standing directory over names with a slash at their end ends in one. -/
theorem Leads.standing {t : FileTree} {links : Nat} {here l : Location} {names : List String}
    (h : Leads t .target links here names l) (hhere : t.Standing here)
    (hnames : EndsInSlash names) : t.Standing l := by
  induction h with
  | done => exact hhere
  | same _ _ ih => exact ih hhere hnames.tail
  | up _ _ ih => exact ih hhere.up hnames.tail
  | onward _ _ hway _ ih => exact ih (hhere.below hway) hnames.tail
  | stop hname => exact absurd rfl (hnames.rest_ne_nil hname.toEntryName)
  | link _ haim => cases haim
  | follow hname _ _ _ _ ih =>
    refine ih (hhere.behindLink _) fun name hlast => hnames.tail name ?_
    simpa [List.getLast?_append, hnames.rest_ne_nil hname.toEntryName] using hlast

/-- Where a file cannot be made because its name could only be a directory's, but something has
    that name, it is a directory. -/
theorem Leads.standing_of_newFile {t : FileTree} {links : Nat} {here l : Location}
    {names : List String} (h : Leads t .target links here names l) (hhere : t.Standing here)
    (hnew : t.walk .newFile links here names = .error .isDirectory) : t.Standing l := by
  have slash : EndsInSlash [""] := by simp [EndsInSlash]
  -- the walk that arrives is followed to the name at which the other one is refused: from there on
  -- there is only the slash, and such a walk stays in directories
  induction h with
  | done => simp at hnew
  | same hname _ ih =>
    rw [walk_same hname] at hnew
    exact ih hhere hnew
  | up hclosed _ ih =>
    rw [walk_up hclosed] at hnew
    exact ih hhere.up hnew
  | @onward _ _ _ _ _ rest hname _ hway htail ih =>
    by_cases hrest : rest = [""]
    · exact htail.standing (hhere.below hway) (hrest ▸ slash)
    rw [walk_onward hname (by simp [hrest]) hway] at hnew
    exact ih (hhere.below hway) hnew
  | stop hname hway =>
    rw [walk_entry hname (by simp), hway] at hnew
    simp at hnew
  | link _ haim => cases haim
  | @follow _ _ _ _ text rest hname _ hway _ htail ih =>
    by_cases hrest : rest = [""]
    · subst hrest
      refine htail.standing (hhere.behindLink _) ?_
      simp [EndsInSlash]
    rw [walk_follow hname (by simp [hrest]) hway (by simp)] at hnew
    exact ih (hhere.behindLink _) hnew

theorem wayOf_of_refusal {changeable : Bool} {e : Option Entry}
    (h : refusal? changeable e = some .isDirectory) : wayOf e ≠ .stop := by
  rcases e with _ | (_ | ⟨_, mode⟩ | _ | _)
  · cases changeable <;> simp [refusal?] at h
  · simp [wayOf]
  · by_cases hwrite : mayWrite mode = true <;> simp [refusal?, hwrite] at h
  · simp [wayOf]
  · simp [refusal?] at h

/-- Where a file cannot be opened because it could only be a directory, what has its name is one, or
    is a link. -/
theorem wayOf_of_openForWriting {t : FileTree} {path : String} {l : Location}
    (hcurrent : t.Standing t.current) (hopen : t.openForWriting path = .error .isDirectory)
    (hresolve : t.resolve .target path = .ok l) : wayOf (t.get? l) ≠ .stop := by
  rw [openForWriting_eq] at hopen
  cases hnew : t.resolve .newFile path with
  | ok k =>
    obtain rfl := resolve_unique (resolve_target_of_newFile hnew) hresolve
    simp only [hnew, Bind.bind, Except.bind, opened] at hopen
    split at hopen
    · cases hopen
    · rename_i hrefusal
      obtain rfl := Except.error.inj hopen
      exact wayOf_of_refusal hrefusal
  | error e =>
    rw [hnew] at hopen
    obtain rfl : e = .isDirectory := by simpa [Bind.bind, Except.bind] using hopen
    obtain ⟨hempty, hshort, hleads⟩ := resolve_eq_ok_iff.mp hresolve
    unfold resolve at hnew
    rw [if_neg hempty, if_neg (Nat.not_lt.mpr hshort)] at hnew
    have hstanding := hleads.standing_of_newFile (hcurrent.behindLink path) hnew
    obtain ⟨rights, hway⟩ := hasDirectory_iff.mp hstanding.hasDirectory
    simp [hway]

/-- The same is reported of a file that cannot be opened where the current directory stands. -/
theorem Alike.copyFault {a : Accord} {t u : FileTree} {destination : String} {e : Errno}
    (h : Alike a t u) (hused : a.used destination) (hcurrent : t.Standing t.current)
    (hopen : t.openForWriting destination = .error e) :
    u.copyFault destination e = t.copyFault destination e := by
  unfold FileTree.copyFault FileTree.find
  rw [h.used destination hused .target]
  cases hresolve : t.resolve .target destination with
  | error e => rfl
  | ok l =>
    by_cases he : e = .isDirectory
    · subst he
      have hplain := h.ways.plain?_eq (wayOf_of_openForWriting hcurrent hopen hresolve)
      cases hget : t.get? l with
      | none => simp only [Bind.bind, Except.bind, hget, plain?_eq_none hplain hget]
      | some e =>
        obtain ⟨e', hget', -⟩ := exists_get?_of_plain?_eq hplain hget
        simp only [Bind.bind, Except.bind, hget, hget']
    · simp only [Bind.bind, Except.bind, he, if_false]
      split <;> split <;> rfl

end NativeExtension.FileTree

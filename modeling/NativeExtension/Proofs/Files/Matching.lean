import NativeExtension.Proofs.Files.Alike

namespace NativeExtension

/-- Two results that are values in a relation, or the same error. -/
inductive Matching {ε α : Type} (R : α → α → Prop) : Except ε α → Except ε α → Prop where
  | ok {a b : α} (h : R a b) : Matching R (.ok a) (.ok b)
  | error (e : ε) : Matching R (.error e) (.error e)

namespace Matching

variable {ε α β : Type} {R : α → α → Prop} {S : β → β → Prop} {x y : Except ε α}

theorem of_eq (hR : ∀ a, R a a) (h : y = x) : Matching R x y := by
  subst h
  cases y with
  | ok a => exact .ok (hR a)
  | error e => exact .error e

theorem refl (x : Except ε α) : Matching Eq x x := .of_eq (fun _ => rfl) rfl

theorem ok_or_error (h : Matching R x y) :
    (∃ a b, x = .ok a ∧ y = .ok b ∧ R a b) ∨ ∃ e, x = .error e ∧ y = .error e := by
  cases h with
  | ok hab => exact .inl ⟨_, _, rfl, rfl, hab⟩
  | error e => exact .inr ⟨e, rfl, rfl⟩

theorem mono {S : α → α → Prop} (h : Matching R x y) (hRS : ∀ a b, R a b → S a b) :
    Matching S x y := by
  cases h with
  | ok hab => exact .ok (hRS _ _ hab)
  | error e => exact .error e

theorem bind {f g : α → Except ε β} (h : Matching R x y)
    (hfg : ∀ a b, x = .ok a → y = .ok b → R a b → Matching S (f a) (g b)) :
    Matching S (x >>= f) (y >>= g) := by
  cases h with
  | ok hab => exact hfg _ _ rfl rfl hab
  | error e => exact .error e

theorem faultAbout {x y : Except Errno α} (h : Matching R x y) (path : String) :
    Matching R (FileTree.faultAbout path x) (FileTree.faultAbout path y) := by
  cases h with
  | ok hab => exact .ok hab
  | error e => exact .error _

end Matching

namespace FileTree

/-- Two things found at one place that are the same but for permission bits of others than the
    owner. -/
def FoundAlike (x y : Location × Entry) : Prop := y.1 = x.1 ∧ y.2.plain = x.2.plain

/-- Two files that were read with the same octets and rights of the owner. -/
def ReadAlike (x y : ByteArray × Nat) : Prop := y.1 = x.1 ∧ ownerRights y.2 = ownerRights x.2

theorem mayRead_eq {mode mode' : Nat} (h : ownerRights mode' = ownerRights mode) :
    mayRead mode' = mayRead mode := by
  rw [← mayRead_ownerRights mode', h, mayRead_ownerRights]

theorem mayWrite_eq {mode mode' : Nat} (h : ownerRights mode' = ownerRights mode) :
    mayWrite mode' = mayWrite mode := by
  rw [← mayWrite_ownerRights mode', h, mayWrite_ownerRights]

section Reading

variable {t u : FileTree} {text : String}

theorem readUpTo_matching (h : Matching FoundAlike (t.find text) (u.find text)) (endless : Nat) :
    Matching ReadAlike (t.readUpTo text endless) (u.readUpTo text endless) := by
  refine h.bind fun x y _ _ hxy => ?_
  obtain ⟨l, e⟩ := x
  obtain ⟨m, e'⟩ := y
  obtain rfl | ⟨content, mode, mode', rfl, rfl, hrights⟩ | ⟨mode, mode', rfl, rfl, hrights⟩ :=
    Entry.plain_eq_iff.mp hxy.2
  · exact .of_eq (fun _ => ⟨rfl, rfl⟩) (by cases e' <;> rfl)
  · dsimp only
    rw [mayRead_eq hrights]
    split
    · exact .ok ⟨rfl, hrights⟩
    · exact .error _
  · have hread : mayRead mode' = mayRead mode := by
      rw [← mayRead_directoryRights mode', hrights, mayRead_directoryRights]
    exact .of_eq (fun _ => ⟨rfl, rfl⟩) (by simp only [hread])

theorem readsEndlessly_eq (h : Matching FoundAlike (t.find text) (u.find text)) :
    u.readsEndlessly text = t.readsEndlessly text := by
  unfold readsEndlessly
  obtain ⟨⟨l, e⟩, ⟨m, e'⟩, ht, hu, -, hplain⟩ | ⟨error, ht, hu⟩ := h.ok_or_error
  · rw [ht, hu]
    obtain rfl | ⟨_, _, _, rfl, rfl, -⟩ | ⟨_, _, rfl, rfl, -⟩ := Entry.plain_eq_iff.mp hplain
    · cases e' <;> rfl
    · rfl
    · rfl
  · rw [ht, hu]

theorem readFile_matching (h : Matching FoundAlike (t.find text) (u.find text)) :
    Matching ReadAlike (t.readFile text) (u.readFile text) := by
  refine (Matching.refl (checkNul text)).bind fun _ _ _ _ _ => ?_
  dsimp only
  rw [readsEndlessly_eq h]
  split
  · exact .error _
  · exact (readUpTo_matching h 0).faultAbout text

end Reading

/-- Why a file cannot be opened for writing where an entry stands, or nothing. -/
def refusal? (changeable : Bool) : Option Entry → Option Errno
  | none => if changeable then none else some .accessDenied
  | some (.file _ mode) => if mayWrite mode then none else some .accessDenied
  | some (.device _) => none
  | some (.directory _) | some (.link _) => some .isDirectory

/-- What comes of opening a file at a location. -/
def opened (t : FileTree) (l : Location) : Except Errno (Location × Option Entry) :=
  match refusal? (t.mayChange l) (t.get? l) with
  | none => .ok (l, t.get? l)
  | some e => .error e

theorem openForWriting_eq (t : FileTree) (path : String) :
    t.openForWriting path = (t.resolve .newFile path >>= t.opened) := by
  unfold openForWriting
  congr 1
  funext l
  unfold opened
  rcases t.get? l with _ | (_ | ⟨_, mode⟩ | _ | _)
  · cases t.mayChange l <;> rfl
  · rfl
  · cases hwrite : mayWrite mode <;> simp [refusal?, hwrite, pure, Except.pure, throw, throwThe,
      MonadExceptOf.throw]
  · rfl
  · rfl

theorem refusal?_of_writtenRights {t : FileTree} {l : Location} {rights : Nat}
    (h : t.writtenRights l = some rights) :
    refusal? (t.mayChange l) (t.get? l) = if mayWrite rights then none else some .accessDenied := by
  unfold writtenRights at h
  split at h
  next hget =>
    split at h
    next hchange =>
      obtain rfl : ownerRights newFileMode = rights := by simpa using h
      rw [hget, hchange]
      rfl
    next => cases h
  next content mode hget =>
    obtain rfl : ownerRights mode = rights := by simpa using h
    rw [hget, refusal?, mayWrite_ownerRights]
  next => cases h

/-- Where a file is written alike it is refused alike. -/
theorem WrittenAlike.refusal?_eq {t u : FileTree} {l : Location} (h : WrittenAlike t u l) :
    refusal? (u.mayChange l) (u.get? l) = refusal? (t.mayChange l) (t.get? l) := by
  obtain ⟨hplain, hchange⟩ | ⟨rights, ht, hu⟩ := h
  · rw [hchange]
    cases hget : t.get? l with
    | none => rw [plain?_eq_none hplain hget]
    | some e =>
      obtain ⟨e', hget', heq⟩ := exists_get?_of_plain?_eq hplain hget
      rw [hget']
      obtain rfl | ⟨content, mode, mode', rfl, rfl, hrights⟩ | ⟨mode, mode', rfl, rfl, -⟩ :=
        Entry.plain_eq_iff.mp heq
      · rfl
      · rw [refusal?, refusal?, mayWrite_eq hrights]
      · rfl
  · rw [refusal?_of_writtenRights ht, refusal?_of_writtenRights hu]

section PutContent

variable {t u : FileTree} {l : Location} (content : ByteArray)

theorem putContent_plain?_of_writtenRights (hl : l ≠ []) {rights : Nat}
    (h : t.writtenRights l = some rights) :
    (t.putContent l content (t.get? l)).plain? l = some (.file content rights) := by
  unfold writtenRights at h
  split at h
  next hget =>
    split at h
    next =>
      obtain rfl : ownerRights newFileMode = rights := by simpa using h
      simp [plain?, putContent, hget, get?_put_self hl, Entry.plain]
    next => cases h
  next mode hget =>
    obtain rfl : ownerRights mode = rights := by simpa using h
    simp [plain?, putContent, hget, get?_put_self hl, Entry.plain, ownerRights_writtenMode]
  next => cases h

/-- The same stands where a file was written alike. -/
theorem putContent_plain? (hl : l ≠ []) (h : WrittenAlike t u l) :
    (u.putContent l content (u.get? l)).plain? l = (t.putContent l content (t.get? l)).plain? l := by
  obtain ⟨hplain, -⟩ | ⟨rights, ht, hu⟩ := h
  · cases hget : t.get? l with
    | none =>
      rw [plain?_eq_none hplain hget]
      simp [plain?, putContent, get?_put_self hl]
    | some e =>
      obtain ⟨e', hget', heq⟩ := exists_get?_of_plain?_eq hplain hget
      rw [hget']
      obtain rfl | ⟨_, mode, mode', rfl, rfl, hrights⟩ | ⟨mode, mode', rfl, rfl, -⟩ :=
        Entry.plain_eq_iff.mp heq
      · cases e' <;> simp [plain?, putContent, get?_put_self hl, hget, hget']
      · simp [plain?, putContent, get?_put_self hl, Entry.plain, ownerRights_writtenMode, hrights]
      · simp [plain?, putContent, get?_put_self hl]
  · rw [putContent_plain?_of_writtenRights content hl ht,
      putContent_plain?_of_writtenRights content hl hu]

/-- Writing a file takes no rights from its owner. -/
theorem putContent_writtenAlike {text : String} (h : t.openForWriting text = .ok (l, t.get? l))
    (m : Location) : WrittenAlike t (t.putContent l content (t.get? l)) m := by
  have hstop := openForWriting_stop h
  have hways := putContent_sameWays content hstop
  by_cases hm : m = l
  · subst hm
    have hroot := ne_root_of_stop hstop
    rcases hget : t.get? m with _ | (_ | ⟨_, mode⟩ | _ | _)
    · refine .inr ⟨ownerRights newFileMode, ?_, ?_⟩
      · rw [writtenRights, hget, mayChange_of_opened h hget, if_pos rfl]
      · simp [writtenRights, FileTree.putContent, get?_put_self hroot]
    · simp [hget, wayOf] at hstop
    · refine .inr ⟨ownerRights mode, by rw [writtenRights, hget], ?_⟩
      rw [writtenRights, FileTree.putContent, get?_put_self hroot]
      exact congrArg some (ownerRights_writtenMode mode)
    · simp [hget, wayOf] at hstop
    · exact .of_get? (hget ▸ hways) (by rw [FileTree.putContent])
  · exact .of_get? hways (putContent_get?_of_ne content _ hm)

end PutContent

/-- A file that is opened at one place in two trees and is written alike there. -/
structure OpensAlike (t u : FileTree) (text : String) (l : Location) : Prop where
  left : t.openForWriting text = .ok (l, t.get? l)
  right : u.openForWriting text = .ok (l, u.get? l)
  written : WrittenAlike t u l

namespace OpensAlike

variable {t u : FileTree} {text : String} {l : Location}

theorem resolve (h : OpensAlike t u text l) : t.resolve .newFile text = .ok l :=
  (openForWriting_eq_ok h.left).1

theorem left_sameWays (h : OpensAlike t u text l) (content : ByteArray) :
    SameWays t (t.putContent l content (t.get? l)) :=
  putContent_sameWays content (openForWriting_stop h.left)

theorem right_sameWays (h : OpensAlike t u text l) (content : ByteArray) :
    SameWays u (u.putContent l content (u.get? l)) :=
  putContent_sameWays content (openForWriting_stop h.right)

theorem plain? (h : OpensAlike t u text l) (content : ByteArray) :
    (u.putContent l content (u.get? l)).plain? l = (t.putContent l content (t.get? l)).plain? l :=
  putContent_plain? content (ne_root_of_stop (openForWriting_stop h.left)) h.written

end OpensAlike

section Opening

variable {t u : FileTree} {text : String}

/-- A file that is written alike where it is opens alike. -/
theorem opensAlike_or_error (hresolve : u.resolve .newFile text = t.resolve .newFile text)
    (hplace : ∀ l, t.resolve .newFile text = .ok l → WrittenAlike t u l) :
    (∃ l, OpensAlike t u text l) ∨
      ∃ e, t.openForWriting text = .error e ∧ u.openForWriting text = .error e := by
  rw [openForWriting_eq, openForWriting_eq, hresolve]
  cases hl : t.resolve .newFile text with
  | error e => exact .inr ⟨e, rfl, rfl⟩
  | ok l =>
    have hwritten := hplace l hl
    simp only [Bind.bind, Except.bind, FileTree.opened, hwritten.refusal?_eq]
    cases hrefusal : refusal? (t.mayChange l) (t.get? l) with
    | some e => exact .inr ⟨e, rfl, rfl⟩
    | none =>
      refine .inl ⟨l, ?_, ?_, hwritten⟩
      · simp [openForWriting_eq, hl, Bind.bind, Except.bind, FileTree.opened, hrefusal]
      · simp [openForWriting_eq, hresolve, hl, Bind.bind, Except.bind, FileTree.opened,
          hwritten.refusal?_eq, hrefusal]

theorem writeFile_matching (hresolve : u.resolve .newFile text = t.resolve .newFile text)
    (hplace : ∀ l, t.resolve .newFile text = .ok l → WrittenAlike t u l)
    (content : ByteArray) :
    Matching (fun t' u' => ∃ l, OpensAlike t u text l ∧ t' = t.putContent l content (t.get? l) ∧
      u' = u.putContent l content (u.get? l)) (t.writeFile text content)
      (u.writeFile text content) := by
  refine (Matching.refl (checkNul text)).bind fun _ _ _ _ _ => ?_
  obtain ⟨l, hopens⟩ | ⟨e, ht, hu⟩ := opensAlike_or_error hresolve hplace
  · rw [hopens.left, hopens.right]
    exact .ok ⟨l, hopens, rfl, rfl⟩
  · rw [ht, hu]
    exact .error _

end Opening

namespace Alike

variable {a : Accord} {t u : FileTree} {text : String}

theorem find (h : Alike a t u) (hused : a.used text) (hfound : a.found text) :
    Matching FoundAlike (t.find text) (u.find text) := by
  unfold FileTree.find
  rw [h.used text hused .target]
  cases hresolve : t.resolve .target text with
  | error e => exact .error e
  | ok l =>
    have hplain := h.found text hfound l hresolve
    cases hget : t.get? l with
    | none =>
      simp only [Bind.bind, Except.bind, hget, plain?_eq_none hplain hget]
      exact .error _
    | some e =>
      obtain ⟨e', hget', heq⟩ := exists_get?_of_plain?_eq hplain hget
      simp only [Bind.bind, Except.bind, hget, hget']
      exact .ok ⟨rfl, heq⟩

/-- Whether a path names a file is the same. -/
theorem isFile {path : Path} (h : Alike a t u) (hused : a.used path.toString)
    (hfound : a.found path.toString) : u.isFile path = t.isFile path := by
  unfold FileTree.isFile status?
  dsimp only
  obtain ⟨⟨l, e⟩, ⟨m, e'⟩, ht, hu, -, hplain⟩ | ⟨error, ht, hu⟩ :=
    (h.find hused hfound).ok_or_error
  · rw [ht, hu]
    obtain rfl | ⟨content, mode, mode', rfl, rfl, -⟩ | ⟨mode, mode', rfl, rfl, -⟩ :=
      Entry.plain_eq_iff.mp hplain
    · rfl
    · split <;> rfl
    · split <;> rfl
  · rw [ht, hu]

theorem sameEntry_iff {source destination : String} : t.sameEntry source destination = true ↔
    ∃ l e, t.find source = .ok (l, e) ∧ t.resolve .target destination = .ok l := by
  unfold FileTree.sameEntry
  constructor
  · intro hsame
    split at hsame
    next l e m e' hl hm =>
      obtain rfl : l = m := by simpa using hsame
      exact ⟨l, e, hl, (find_eq_ok_iff.mp hm).1⟩
    next => cases hsame
  · rintro ⟨l, e, hfind, hresolve⟩
    rw [hfind, find_eq_ok_iff.mpr ⟨hresolve, (find_eq_ok_iff.mp hfind).2⟩]
    simp

/-- Whether two paths lead to one entry is the same where the first of them leads to the same. -/
theorem sameEntry {source destination : String} (h : Alike a t u)
    (hsource : Matching FoundAlike (t.find source) (u.find source)) (hused : a.used destination) :
    u.sameEntry source destination = t.sameEntry source destination := by
  rw [Bool.eq_iff_iff, sameEntry_iff, sameEntry_iff, h.used _ hused]
  obtain ⟨⟨l, e⟩, ⟨m, e'⟩, ht, hu, heq, -⟩ | ⟨error, ht, hu⟩ := hsource.ok_or_error
  · obtain rfl : m = l := heq
    simp [ht, hu]
  · simp [ht, hu]

/-- Octets are put into the files that were opened. -/
theorem putContent (h : Alike a t u) {l : Location} (hopens : OpensAlike t u text l)
    (content : ByteArray) :
    Alike (a.with l) (t.putContent l content (t.get? l)) (u.putContent l content (u.get? l)) := by
  have ht := hopens.left_sameWays content
  have hu := hopens.right_sameWays content
  exact h.step ((ht.symm.trans h.ways).trans hu) ht.symm.keepsWays ht.mayChange
    (hopens.plain? content)
    (fun m hm => putContent_get?_of_ne content _ hm)
    (fun m hm => putContent_get?_of_ne content _ hm)

theorem writeFile (h : Alike a t u) (hused : a.used text)
    (hplace : ∀ l, t.resolve .newFile text = .ok l → WrittenAlike t u l)
    (content : ByteArray) :
    Matching (fun t' u' => ∃ l, t.resolve .newFile text = .ok l ∧ SameWays t t' ∧
      Alike (a.with l) t' u') (t.writeFile text content) (u.writeFile text content) := by
  refine (writeFile_matching (h.used text hused .newFile) hplace content).mono fun t' u' hwrote => ?_
  obtain ⟨l, hopens, rfl, rfl⟩ := hwrote
  exact ⟨l, hopens.resolve, hopens.left_sameWays content, h.putContent hopens content⟩

/-- A file is copied alike where what is reported of a destination that cannot be opened is the
    same. -/
theorem copyFile (h : Alike a t u) {source : Path} {destination : String}
    (hsource : Matching FoundAlike (t.find source.toString) (u.find source.toString))
    (hused : a.used destination)
    (hplace : ∀ l, t.resolve .newFile destination = .ok l → WrittenAlike t u l)
    (hfault : ∀ e, t.openForWriting destination = .error e →
      u.copyFault destination e = t.copyFault destination e) :
    Matching (fun t' u' => ∃ l, t.resolve .newFile destination = .ok l ∧ SameWays t t' ∧
      Alike (a.with l) t' u') (t.copyFile source destination) (u.copyFile source destination) := by
  refine (Matching.refl (checkNul source.toString)).bind fun _ _ _ _ _ => ?_
  refine (Matching.refl (checkNul destination)).bind fun _ _ _ _ _ => ?_
  dsimp only
  rw [h.sameEntry hsource hused]
  by_cases hsame : t.sameEntry source.toString destination = true
  · rw [if_pos hsame, if_pos hsame]
    exact .error _
  rw [if_neg hsame, if_neg hsame]
  refine (readFile_matching hsource).bind fun x y _ _ hxy => ?_
  obtain ⟨content, mode⟩ := x
  obtain ⟨content', mode'⟩ := y
  obtain rfl : content' = content := hxy.1
  obtain ⟨l, hopens⟩ | ⟨e, ht, hu⟩ := opensAlike_or_error (h.used _ hused .newFile) hplace
  · rw [hopens.left, hopens.right]
    exact .ok ⟨l, hopens.resolve, hopens.left_sameWays content', h.putContent hopens content'⟩
  · rw [ht, hu]
    dsimp only
    rw [hfault e ht]
    exact .error _

end Alike

end FileTree

end NativeExtension

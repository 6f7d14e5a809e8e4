import NativeExtension.Proofs.Files.Barred
import NativeExtension.Proofs.Files.Write

namespace NativeExtension

/-- What permission bits give the owner: the rights to read and to write. -/
def ownerRights (mode : Nat) : Nat := mode &&& 0o600

theorem mayRead_ownerRights (mode : Nat) :
    FileTree.mayRead (ownerRights mode) = FileTree.mayRead mode := by
  have hbits : 0o600 &&& 0o400 = 0o400 := by decide
  rw [FileTree.mayRead, FileTree.mayRead, ownerRights, Nat.and_assoc, hbits]

theorem mayWrite_ownerRights (mode : Nat) :
    FileTree.mayWrite (ownerRights mode) = FileTree.mayWrite mode := by
  have hbits : 0o600 &&& 0o200 = 0o200 := by decide
  rw [FileTree.mayWrite, FileTree.mayWrite, ownerRights, Nat.and_assoc, hbits]

/-- Writing a file takes no right from its owner. -/
theorem ownerRights_writtenMode (mode : Nat) :
    ownerRights (FileTree.writtenMode mode) = ownerRights mode := by
  have hkept : 0o3777 &&& 0o600 = 0o600 := by decide
  have hkept' : 0o1777 &&& 0o600 = 0o600 := by decide
  unfold FileTree.writtenMode ownerRights
  split
  · rw [Nat.and_assoc, hkept']
  · rw [Nat.and_assoc, hkept]

/-- An entry with no more of the permission bits than the rights of the owner. -/
def Entry.plain : Entry → Entry
  | .directory mode => .directory (directoryRights mode)
  | .file content mode => .file content (ownerRights mode)
  | e => e

theorem Entry.plain_eq_iff {e e' : Entry} : e'.plain = e.plain ↔
    e' = e ∨ (∃ content mode mode', e = .file content mode ∧ e' = .file content mode' ∧
      ownerRights mode' = ownerRights mode) ∨
      ∃ mode mode', e = .directory mode ∧ e' = .directory mode' ∧
        directoryRights mode' = directoryRights mode := by
  constructor
  · intro h
    cases e <;> cases e'
    case directory.directory mode mode' =>
      exact .inr (.inr ⟨_, _, rfl, rfl, by simpa [plain] using h⟩)
    case file.file content mode content' mode' =>
      obtain ⟨rfl, hrights⟩ : content' = content ∧ ownerRights mode' = ownerRights mode := by
        simpa [plain] using h
      exact .inr (.inl ⟨_, _, _, rfl, rfl, hrights⟩)
    all_goals simp_all [plain]
  · rintro (rfl | ⟨content, mode, mode', rfl, rfl, hrights⟩ | ⟨mode, mode', rfl, rfl, hrights⟩)
    · rfl
    · simp [plain, hrights]
    · simp [plain, hrights]

theorem Entry.plain_of_wayOf {e e' : Option Entry}
    (h : FileTree.wayOf e' = FileTree.wayOf e) (hstop : FileTree.wayOf e ≠ .stop) :
    e'.map Entry.plain = e.map Entry.plain := by
  rcases e with _ | (_ | _ | _ | _) <;> rcases e' with _ | (_ | _ | _ | _) <;>
    simp_all [FileTree.wayOf, plain]

namespace FileTree

/-- What stands at a location, with no more of the permission bits than the rights of the owner. -/
def plain? (t : FileTree) (l : Location) : Option Entry := (t.get? l).map Entry.plain

theorem exists_get?_of_plain?_eq {t u : FileTree} {l : Location} {e : Entry} (h : u.plain? l = t.plain? l)
    (hget : t.get? l = some e) : ∃ e', u.get? l = some e' ∧ e'.plain = e.plain := by
  rw [plain?, plain?, hget] at h
  simpa using h

theorem plain?_eq_none {t u : FileTree} {l : Location} (h : u.plain? l = t.plain? l)
    (hget : t.get? l = none) : u.get? l = none := by
  rw [plain?, plain?, hget] at h
  simpa using h

/-- The owner's rights to what is written at a location. Only a file is written in the place of a
    file, or of nothing where one can be made. -/
def writtenRights (t : FileTree) (l : Location) : Option Nat :=
  match t.get? l with
  | none => if t.mayChange l then some (ownerRights newFileMode) else none
  | some (.file _ mode) => some (ownerRights mode)
  | _ => none

/-- A location at which a file is written alike in two trees: the same stands there, but for rights
    of others than the owner, or the owner has the same rights to what is written. -/
def WrittenAlike (t u : FileTree) (l : Location) : Prop :=
  u.plain? l = t.plain? l ∧ u.mayChange l = t.mayChange l ∨
    ∃ rights, t.writtenRights l = some rights ∧ u.writtenRights l = some rights

theorem writtenRights_eq {t u : FileTree} {l : Location} (hplain : u.plain? l = t.plain? l)
    (hchange : u.mayChange l = t.mayChange l) : u.writtenRights l = t.writtenRights l := by
  unfold writtenRights
  rw [hchange]
  cases hget : t.get? l with
  | none => rw [plain?_eq_none hplain hget]
  | some e =>
    obtain ⟨e', hget', heq⟩ := exists_get?_of_plain?_eq hplain hget
    rw [hget']
    obtain rfl | ⟨content, mode, mode', rfl, rfl, hrights⟩ | ⟨mode, mode', rfl, rfl, -⟩ :=
      Entry.plain_eq_iff.mp heq
    · rfl
    · dsimp only
      rw [hrights]
    · rfl

namespace WrittenAlike

variable {t u v : FileTree} {l : Location}

theorem refl (t : FileTree) (l : Location) : WrittenAlike t t l := .inl ⟨rfl, rfl⟩

theorem trans (htu : WrittenAlike t u l) (huv : WrittenAlike u v l) : WrittenAlike t v l := by
  obtain ⟨hplain, hchange⟩ | ⟨rights, ht, hu⟩ := htu
  · obtain ⟨hplain', hchange'⟩ | ⟨rights, hu, hv⟩ := huv
    · exact .inl ⟨hplain'.trans hplain, hchange'.trans hchange⟩
    · exact .inr ⟨rights, (writtenRights_eq hplain hchange).symm.trans hu, hv⟩
  · obtain ⟨hplain', hchange'⟩ | ⟨rights', hu', hv⟩ := huv
    · exact .inr ⟨rights, ht, (writtenRights_eq hplain' hchange').trans hu⟩
    · obtain rfl : rights' = rights := by simpa [hu] using hu'.symm
      exact .inr ⟨_, ht, hv⟩

theorem of_get? (hways : SameWays t u) (h : u.get? l = t.get? l) : WrittenAlike t u l :=
  .inl ⟨by rw [plain?, plain?, h], hways.mayChange l⟩

end WrittenAlike

/-- The octets of the file that a text names, links followed. -/
def content? (t : FileTree) (text : String) : Option ByteArray :=
  match t.find text with
  | .ok (_, .file content _) => some content
  | _ => none

theorem SameWays.plain?_eq {t u : FileTree} (h : SameWays t u) {l : Location}
    (hl : wayOf (t.get? l) ≠ .stop) : u.plain? l = t.plain? l :=
  Entry.plain_of_wayOf (h.ways l) hl

/-- What two trees have in common: the locations at which the same stands, those at which files are
    written alike, the texts that lead to the same, and the texts with which the same goes wrong.
    The first grow while files are written. -/
structure Accord where
  known : Location → Prop
  opened : Location → Prop
  found : String → Prop
  used : String → Prop

/-- What they have in common once the same is written at a location. -/
def Accord.with (a : Accord) (k : Location) : Accord :=
  { a with known := fun l => a.known l ∨ l = k }

/-- Two trees with the same ways and with so much in common. -/
structure Alike (a : Accord) (t u : FileTree) : Prop where
  ways : SameWays t u
  known : ∀ l, a.known l → u.plain? l = t.plain? l
  opened : ∀ l, a.opened l → WrittenAlike t u l
  found : ∀ text, a.found text → ∀ l, t.resolve .target text = .ok l → u.plain? l = t.plain? l
  used : ∀ text, a.used text → ∀ aim, u.resolve aim text = t.resolve aim text

namespace Alike

variable {a : Accord} {t u t' u' : FileTree}

theorem mono (h : Alike a t u) {known : Location → Prop} {found : String → Prop}
    (hknown : ∀ l, known l → a.known l)
    (hfound : ∀ text, found text →
      a.found text ∨ ∀ l, t.resolve .target text = .ok l → a.known l) :
    Alike { a with known, found } t u where
  ways := h.ways
  known l hl := h.known l (hknown l hl)
  opened := h.opened
  found text htext l hl := by
    obtain hsame | hsame := hfound text htext
    · exact h.found text hsame l hl
    · exact h.known l (hsame l hl)
  used := h.used

/-- Two trees stay alike when the same is put at one location in both. A link may be replaced there,
    and ways behind it be lost. -/
theorem step (h : Alike a t u) {k : Location} (hways : SameWays t' u') (hkeeps : KeepsWays t' t)
    (hchange : ∀ l, t'.mayChange l = t.mayChange l) (hk : u'.plain? k = t'.plain? k)
    (ht : ∀ l ≠ k, t'.get? l = t.get? l) (hu : ∀ l ≠ k, u'.get? l = u.get? l) :
    Alike (a.with k) t' u' := by
  have plain {l : Location} (hl : l ≠ k) (hsame : u.plain? l = t.plain? l) :
      u'.plain? l = t'.plain? l := by
    simpa only [plain?, ht l hl, hu l hl] using hsame
  have opened {l : Location} (hl : l ≠ k) (hsame : WrittenAlike t u l) : WrittenAlike t' u' l := by
    have hchange' : u'.mayChange l = u.mayChange l := by
      rw [hways.mayChange, hchange, h.ways.mayChange]
    have hleft : WrittenAlike t' t l := .inl ⟨by rw [plain?, plain?, ht l hl], (hchange l).symm⟩
    exact (hleft.trans hsame).trans (.inl ⟨by rw [plain?, plain?, hu l hl], hchange'⟩)
  refine ⟨hways, fun l hl => ?_, fun l hl => ?_, fun text htext l hl => ?_,
    fun text htext aim => ?_⟩
  · by_cases hlk : l = k
    · rwa [hlk]
    · exact plain hlk (h.known l (hl.resolve_right hlk))
  · by_cases hlk : l = k
    · rw [hlk]
      exact .inl ⟨hk, hways.mayChange k⟩
    · exact opened hlk (h.opened l hl)
  · by_cases hlk : l = k
    · rwa [hlk]
    by_cases hstop : wayOf (t'.get? l) = .stop
    · have hend : ∀ target, wayOf (t.get? l) ≠ .link target := by simp [← ht l hlk, hstop]
      exact plain hlk (h.found text htext l (hkeeps.resolve_eq_ok hl (.inr hend)))
    · exact hways.plain?_eq hstop
  · obtain ⟨m, hm⟩ | hsame := bars_or_resolve_eq t' aim text
    · rw [hm.resolve, (hm.sameWays hways).resolve]
      congr 1
      rw [barError_eq_iff]
      by_cases hmk : m = k
      · simpa [plain?, hmk] using congrArg Option.isSome hk
      -- what bars the way now barred it before
      have hbefore : t.Bars aim text m := hm.keepsWays hkeeps (ht m hmk ▸ hm.barred.way)
      have herror := h.used text htext aim
      rw [hbefore.resolve, (hbefore.sameWays h.ways).resolve] at herror
      rw [ht m hmk, hu m hmk]
      exact barError_eq_iff.mp (by simpa using herror)
    · exact hsame u' hways

theorem content?_eq (h : Alike a t u) {text : String} (htext : a.found text) :
    u.content? text = t.content? text := by
  have arrives {l : Location} : u.resolve .target text = .ok l ↔ t.resolve .target text = .ok l :=
    ⟨h.ways.symm.resolve_eq_ok, h.ways.resolve_eq_ok⟩
  cases ht : t.resolve .target text with
  | error e =>
    cases hu : u.resolve .target text with
    | error e' => simp [content?, find, ht, hu, Bind.bind, Except.bind]
    | ok l => simp [arrives.mp hu] at ht
  | ok l =>
    have hplain := h.found text htext l ht
    have hu := arrives.mpr ht
    cases hget : t.get? l with
    | none =>
      have hget' := plain?_eq_none hplain hget
      simp [content?, find, ht, hu, hget, hget', Bind.bind, Except.bind]
    | some e =>
      obtain ⟨e', hget', heq⟩ := exists_get?_of_plain?_eq hplain hget
      obtain rfl | ⟨content, mode, mode', rfl, rfl, -⟩ | ⟨mode, mode', rfl, rfl, -⟩ :=
        Entry.plain_eq_iff.mp heq
      all_goals simp [content?, find, ht, hu, hget, hget', Bind.bind, Except.bind]

end Alike

end FileTree

end NativeExtension

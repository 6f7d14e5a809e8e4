import NativeExtension.Proofs.Files.Ways

namespace NativeExtension.FileTree

/-- A tree with new directories more than `t`: each stands where nothing stood, and one of the paths
    leads to it. -/
structure Scaffold (paths : Path → Prop) (t u : FileTree) : Prop where
  cases : ∀ l, u.get? l = t.get? l ∨
    t.get? l = none ∧ u.get? l = some (.directory newDirectoryMode) ∧
      ∃ p, paths p ∧ u.resolve .link (withoutSlashes p.toString) = .ok l
  current : u.current = t.current
  draws : u.draws = t.draws

namespace Scaffold

variable {paths : Path → Prop} {t u v : FileTree}

theorem refl (paths : Path → Prop) (t : FileTree) : Scaffold paths t t :=
  ⟨fun _ => .inl rfl, rfl, rfl⟩

theorem get?_of_some (h : Scaffold paths t u) {l : Location} {e : Entry} (hl : t.get? l = some e) :
    u.get? l = some e := by
  obtain hsame | ⟨hnone, -⟩ := h.cases l
  · exact hsame.trans hl
  · simp [hl] at hnone

theorem keepsWays (h : Scaffold paths t u) : KeepsWays t u := by
  refine ⟨fun l hl => ?_, fun l hl => ?_, h.current, h.draws⟩
  · obtain hsame | ⟨hnone, -⟩ := h.cases l
    · rw [hsame]
    · simp [hnone, wayOf] at hl
  · obtain hsame | ⟨-, hmade, -⟩ := h.cases l
    · rwa [isClosed, hsame] at hl
    · rw [isClosed, hmade] at hl
      exact absurd hl (by decide)

theorem mono {others : Path → Prop} (h : Scaffold paths t u) (hpaths : ∀ p, paths p → others p) :
    Scaffold others t u := by
  refine ⟨fun l => ?_, h.current, h.draws⟩
  obtain hsame | ⟨hnone, hdirectory, p, hp, hresolve⟩ := h.cases l
  · exact .inl hsame
  · exact .inr ⟨hnone, hdirectory, p, hpaths p hp, hresolve⟩

theorem trans (htu : Scaffold paths t u) (huv : Scaffold paths u v) : Scaffold paths t v := by
  refine ⟨fun l => ?_, huv.current.trans htu.current, huv.draws.trans htu.draws⟩
  obtain hsame | ⟨hnone, hdirectory, p, hp, hresolve⟩ := htu.cases l
  · obtain hsame' | ⟨hnone', hmade⟩ := huv.cases l
    · exact .inl (hsame'.trans hsame)
    · exact .inr ⟨hsame ▸ hnone', hmade⟩
  · exact .inr ⟨hnone, huv.get?_of_some hdirectory, p, hp,
      huv.keepsWays.resolve_eq_ok hresolve (.inl rfl)⟩

/-- What a path names is there as before. -/
theorem find_eq_ok (h : Scaffold paths t u) {text : String} {l : Location} {e : Entry}
    (hlink : ∀ target, e ≠ .link target) (hfind : t.find text = .ok (l, e)) :
    u.find text = .ok (l, e) := by
  obtain ⟨hresolve, hget⟩ := find_eq_ok_iff.mp hfind
  have hu := h.get?_of_some hget
  refine find_eq_ok_iff.mpr ⟨h.keepsWays.resolve_eq_ok hresolve (.inr fun target hway => ?_), hu⟩
  rw [wayOf_eq_link, hu] at hway
  exact hlink target (by simpa using hway)

theorem reads (h : Scaffold paths t u) {path : Path} {content : ByteArray} {mode : Nat}
    (hreads : t.Reads path content mode) : u.Reads path content mode := by
  obtain ⟨l, hfile | ⟨hdevice, hrest⟩⟩ := hreads
  · exact ⟨l, .inl (h.find_eq_ok (by simp) hfile)⟩
  · exact ⟨l, .inr ⟨h.find_eq_ok (by simp) hdevice, hrest⟩⟩

end Scaffold

/-- What is read at a path is one content with one set of permission bits. -/
theorem Reads.unique {t : FileTree} {path : Path} {content content' : ByteArray} {mode mode' : Nat}
    (h : t.Reads path content mode) (h' : t.Reads path content' mode') :
    content = content' ∧ mode = mode' := by
  obtain ⟨l, hfile | ⟨hdevice, rfl, rfl⟩⟩ := h <;>
    obtain ⟨l', hfile' | ⟨hdevice', rfl, rfl⟩⟩ := h'
  · have heq : l = l' ∧ content = content' ∧ mode = mode' := by simpa [hfile] using hfile'
    exact heq.2
  · simp [hfile] at hdevice'
  · simp [hdevice] at hfile'
  · exact ⟨rfl, rfl⟩

variable {t u : FileTree} {path : Path}

theorem ne_root_of_none {l : Location} (h : t.get? l = none) : l ≠ [] := by
  rintro rfl
  simp [get?] at h

/-- A new directory where nothing stood closes no way. -/
theorem putDirectory_keepsWays {l : Location} (h : t.get? l = none) :
    KeepsWays t (t.put l (.directory newDirectoryMode)) := by
  have hself : (t.put l (.directory newDirectoryMode)).get? l = _ :=
    get?_put_self (ne_root_of_none h) _
  refine ⟨fun m hm => ?_, fun m hm => ?_, rfl, rfl⟩
  · rw [get?_put_of_ne]
    rintro rfl
    simp [h, wayOf] at hm
  · by_cases hml : m = l
    · rw [hml, isClosed, hself] at hm
      exact absurd hm (by decide)
    · rwa [isClosed, get?_put_of_ne hml] at hm

theorem makeDirectory_scaffold (h : t.makeDirectory path.toString = .ok u) :
    Scaffold (· = path) t u := by
  unfold makeDirectory at h
  obtain ⟨_, -, h⟩ := bind_eq_ok_iff.mp h
  obtain ⟨l, hresolve, h⟩ := bind_eq_ok_iff.mp h
  rw [faultAbout_eq_ok_iff] at hresolve
  split at h
  · rename_i hnone
    split at h
    next =>
      rw [pure_eq_ok_iff] at h
      subst h
      have hways := putDirectory_keepsWays hnone
      refine ⟨fun m => ?_, rfl, rfl⟩
      by_cases hm : m = l
      · subst hm
        exact .inr ⟨hnone, get?_put_self (ne_root_of_none hnone) _, path, rfl,
          hways.resolve_eq_ok hresolve (.inl rfl)⟩
      · exact .inl (get?_put_of_ne hm _)
    next => exact absurd h throw_ne_ok
  · exact absurd h throw_ne_ok

theorem makeLast_scaffold (t : FileTree) (path : Path) :
    Scaffold (· = path) t (t.makeLast path).2 := by
  unfold makeLast
  cases hmake : t.makeDirectory path.toString with
  | ok u => exact makeDirectory_scaffold hmake
  | error fault =>
    dsimp only
    split
    · exact .refl _ _
    · exact .refl _ _

/-- A path and those above it. -/
def UpTo (path p : Path) : Prop := p.anchor = path.anchor ∧ p.parts <+: path.parts

theorem UpTo.self (path : Path) : UpTo path path := ⟨rfl, List.prefix_rfl⟩

theorem UpTo.of_parent {path p : Path} (h : UpTo path.parent p) : UpTo path p :=
  ⟨h.1, h.2.trans (List.dropLast_prefix _)⟩

theorem makeDirectories_scaffold (t : FileTree) (path : Path) (fuel : Nat) :
    Scaffold (UpTo path) t (t.makeDirectories path fuel).2 := by
  induction fuel generalizing path with
  | zero => exact .refl _ _
  | succ fuel ih =>
    have hself : ∀ p, p = path → UpTo path p := fun p hp => hp ▸ .self path
    unfold makeDirectories
    cases hmake : t.makeDirectory path.toString with
    | ok u => exact (makeDirectory_scaffold hmake).mono hself
    | error fault =>
      dsimp only
      split
      · split
        · exact .refl _ _
        · have hparent := (ih path.parent).mono fun p => UpTo.of_parent
          split
          next v hmade =>
            rw [hmade] at hparent
            exact hparent.trans ((makeLast_scaffold v path).mono hself)
          next => exact hparent
      · exact .refl _ _

/-- Making a directory with those above it adds no more than directories on the way to it. -/
theorem ensureDirectory_scaffold (t : FileTree) (path : Path) :
    Scaffold (UpTo path) t (t.ensureDirectory path).2 :=
  makeDirectories_scaffold t path _

end NativeExtension.FileTree

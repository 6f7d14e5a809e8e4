import NativeExtension.Proofs.Files.Ways

namespace NativeExtension.FileTree

theorem ne_root_of_stop {t : FileTree} {l : Location} (h : wayOf (t.get? l) = .stop) : l ≠ [] := by
  rintro rfl
  simp [get?, wayOf] at h

section PutContent

variable {t : FileTree} {l : Location} (content : ByteArray)

theorem putContent_get?_of_ne {m : Location} (old : Option Entry) (h : m ≠ l) :
    (t.putContent l content old).get? m = t.get? m := by
  unfold putContent
  split
  · exact get?_put_of_ne h _
  · rfl
  · exact get?_put_of_ne h _

theorem putContent_get?_self (h : wayOf (t.get? l) = .stop)
    (hdevice : ∀ endless, t.get? l ≠ some (.device endless)) :
    ∃ mode, (t.putContent l content (t.get? l)).get? l = some (.file content mode) := by
  have hl := ne_root_of_stop h
  unfold putContent
  split
  · exact ⟨_, get?_put_self hl _⟩
  next endless hget => exact absurd hget (hdevice endless)
  · exact ⟨_, get?_put_self hl _⟩

theorem putContent_current (old : Option Entry) :
    (t.putContent l content old).current = t.current := by
  unfold putContent
  split <;> rfl

theorem putContent_draws (old : Option Entry) :
    (t.putContent l content old).draws = t.draws := by
  unfold putContent
  split <;> rfl

theorem putContent_sameWays (h : wayOf (t.get? l) = .stop) :
    SameWays t (t.putContent l content (t.get? l)) := by
  refine ⟨fun m => ?_, putContent_current .., putContent_draws ..⟩
  by_cases hm : m = l
  · subst hm
    by_cases hdevice : ∃ endless, t.get? m = some (.device endless)
    · obtain ⟨endless, hget⟩ := hdevice
      rw [hget, putContent, hget]
    · obtain ⟨mode, hfile⟩ := putContent_get?_self content h (fun b hget => hdevice ⟨b, hget⟩)
      rw [hfile, h]
      rfl
  · rw [putContent_get?_of_ne content _ hm]

end PutContent

theorem openForWriting_stop {t : FileTree} {path : String} {l : Location} {old : Option Entry}
    (h : t.openForWriting path = .ok (l, old)) : wayOf (t.get? l) = .stop := by
  obtain ⟨-, hold⟩ := openForWriting_eq_ok h
  unfold openForWriting at h
  obtain ⟨m, -, h⟩ := bind_eq_ok_iff.mp h
  rw [← hold]
  split at h
  · split at h
    · simp only [pure_eq_ok_iff, Prod.mk.injEq] at h
      rw [← h.2]
      rfl
    · exact absurd h throw_ne_ok
  · simp only [pure_eq_ok_iff, Prod.mk.injEq] at h
    rw [← h.2]
    rfl
  · exact absurd h throw_ne_ok
  · split at h
    · simp only [pure_eq_ok_iff, Prod.mk.injEq] at h
      rw [← h.2]
      rfl
    · exact absurd h throw_ne_ok

/-- A file is opened where nothing stands only if one can be made there. -/
theorem mayChange_of_opened {t : FileTree} {path : String} {l : Location} {old : Option Entry}
    (h : t.openForWriting path = .ok (l, old)) (hget : t.get? l = none) :
    t.mayChange l = true := by
  obtain ⟨hresolve, -⟩ := openForWriting_eq_ok h
  unfold openForWriting at h
  obtain ⟨m, hm, h⟩ := bind_eq_ok_iff.mp h
  obtain rfl := resolve_unique hm hresolve
  simp only [hget] at h
  split at h
  next hchange => exact hchange
  next => exact absurd h throw_ne_ok

/-- What a path holds: the file that it names itself, no link, has this content. -/
def Holds (t : FileTree) (path : Path) (content : ByteArray) : Prop :=
  ∃ l mode, t.resolve .link path.toString = .ok l ∧ t.get? l = some (.file content mode)

/-- A path at whose end there is no device, which would not keep what is written to it. -/
def EndsAtNoDevice (t : FileTree) (path : Path) : Prop :=
  ∀ l endless, t.resolve .link path.toString = .ok l → t.get? l ≠ some (.device endless)

/-- Two paths that never name one entry. -/
def Apart (t : FileTree) (path other : Path) : Prop :=
  ∀ l, t.resolve .link path.toString = .ok l → t.resolve .link other.toString ≠ .ok l

theorem Apart.of_keepsWays {t u : FileTree} {path other : Path} (h : u.Apart path other)
    (hways : KeepsWays t u) : t.Apart path other :=
  fun l hl hl' => h l (hways.resolve_eq_ok hl (.inl rfl)) (hways.resolve_eq_ok hl' (.inl rfl))

/-- A tree that differs from `t` at most in entries that the paths name, and in no way. -/
structure WritesOnly (paths : List Path) (t u : FileTree) : Prop where
  ways : SameWays t u
  others : ∀ l, (∀ p ∈ paths, t.resolve .link p.toString ≠ .ok l) → u.get? l = t.get? l

namespace WritesOnly

variable {paths : List Path} {t u v : FileTree} {path : Path}

theorem refl (paths : List Path) (t : FileTree) : WritesOnly paths t t :=
  ⟨.refl t, fun _ _ => rfl⟩

theorem trans (htu : WritesOnly paths t u) (huv : WritesOnly paths u v) : WritesOnly paths t v := by
  refine ⟨htu.ways.trans huv.ways, fun l hl => ?_⟩
  have hu : ∀ p ∈ paths, u.resolve .link p.toString ≠ .ok l :=
    fun p hp hresolve => hl p hp (htu.ways.symm.resolve_eq_ok hresolve)
  exact (huv.others l hu).trans (htu.others l hl)

theorem mono {more : List Path} (h : WritesOnly paths t u) (hpaths : paths ⊆ more) :
    WritesOnly more t u :=
  ⟨h.ways, fun l hl => h.others l fun p hp => hl p (hpaths hp)⟩

theorem get?_of_apart (h : WritesOnly paths t u) (hapart : ∀ p ∈ paths, t.Apart path p)
    {l : Location} (hl : t.resolve .link path.toString = .ok l) : u.get? l = t.get? l :=
  h.others l fun p hp => hapart p hp l hl

theorem holds (h : WritesOnly paths t u) (hapart : ∀ p ∈ paths, t.Apart path p)
    {content : ByteArray} (hholds : t.Holds path content) : u.Holds path content := by
  obtain ⟨l, mode, hresolve, hget⟩ := hholds
  exact ⟨l, mode, h.ways.resolve_eq_ok hresolve, (h.get?_of_apart hapart hresolve).trans hget⟩

theorem endsAtNoDevice (h : WritesOnly paths t u) (hapart : ∀ p ∈ paths, t.Apart path p)
    (hdevice : t.EndsAtNoDevice path) : u.EndsAtNoDevice path := by
  intro l endless hl
  have hresolve := h.ways.symm.resolve_eq_ok hl
  rw [h.get?_of_apart hapart hresolve]
  exact hdevice l endless hresolve

end WritesOnly

section Written

variable {t u : FileTree} {path : Path} {content : ByteArray}

/-- Opening a file and putting octets into it, where no link is at the end of the path. -/
theorem putContent_writes {l : Location} (hlink : t.EndsAtNoLink path)
    (hopen : t.openForWriting path.toString = .ok (l, t.get? l)) :
    WritesOnly [path] t (t.putContent l content (t.get? l)) ∧
      (t.EndsAtNoDevice path → (t.putContent l content (t.get? l)).Holds path content) := by
  have hstop := openForWriting_stop hopen
  have hl := hlink.resolve_link (resolve_target_of_newFile (openForWriting_eq_ok hopen).1)
  have hways := putContent_sameWays content hstop
  refine ⟨⟨hways, fun m hm => ?_⟩, fun hdevice => ?_⟩
  · refine putContent_get?_of_ne content _ ?_
    rintro rfl
    exact hm path List.mem_cons_self hl
  · obtain ⟨mode, hget⟩ := putContent_get?_self content hstop (fun b => hdevice l b hl)
    exact ⟨l, mode, hways.resolve_eq_ok hl, hget⟩

theorem writeFile_writes (hlink : t.EndsAtNoLink path)
    (h : t.writeFile path.toString content = .ok u) :
    WritesOnly [path] t u ∧ (t.EndsAtNoDevice path → u.Holds path content) := by
  obtain ⟨l, hopen, rfl⟩ := writeFile_eq_ok h
  exact putContent_writes hlink hopen

theorem copyFile_writes {source : Path} (hlink : t.EndsAtNoLink path)
    (h : t.copyFile source path.toString = .ok u) :
    WritesOnly [path] t u ∧ ∃ copied mode, t.Reads source copied mode ∧
      (t.EndsAtNoDevice path → u.Holds path copied) := by
  obtain ⟨-, copied, mode, l, hreads, hopen, rfl⟩ := copyFile_eq_ok h
  obtain ⟨hwrites, hholds⟩ := putContent_writes hlink hopen
  exact ⟨hwrites, copied, mode, hreads, hholds⟩

end Written

end NativeExtension.FileTree

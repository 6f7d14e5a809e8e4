import NativeExtension.Files.Install

namespace NativeExtension

theorem bind_eq_ok_iff {ε α β : Type} {x : Except ε α} {f : α → Except ε β} {b : β} :
    (x >>= f) = .ok b ↔ ∃ a, x = .ok a ∧ f a = .ok b := by
  cases x <;> simp [bind, Except.bind]

theorem throw_ne_ok {ε α : Type} {e : ε} {a : α} : (throw e : Except ε α) ≠ .ok a := by
  simp [throw, throwThe, MonadExceptOf.throw]

theorem pure_eq_ok_iff {ε α : Type} {a b : α} : (pure a : Except ε α) = .ok b ↔ a = b := by
  simp [pure, Except.pure]

namespace FileTree

theorem faultAbout_eq_ok_iff {α : Type} {path : String} {x : Except Errno α} {a : α} :
    faultAbout path x = .ok a ↔ x = .ok a := by
  cases x <;> simp [faultAbout]

theorem find_eq_ok_iff {t : FileTree} {text : String} {l : Location} {e : Entry} :
    t.find text = .ok (l, e) ↔ t.resolve .target text = .ok l ∧ t.get? l = some e := by
  unfold find
  rw [bind_eq_ok_iff]
  constructor
  · rintro ⟨m, hresolve, hget⟩
    cases hm : t.get? m with
    | none => simp [hm] at hget
    | some f =>
      simp only [hm, Except.ok.injEq, Prod.mk.injEq] at hget
      obtain ⟨rfl, rfl⟩ := hget
      exact ⟨hresolve, hm⟩
  · rintro ⟨hresolve, hget⟩
    exact ⟨l, hresolve, by simp [hget]⟩

/-- What a path gives to a reader: the octets and the permission bits of the file to which it leads.
    A device that has an end is read as a file with nothing in it. -/
def Reads (t : FileTree) (path : Path) (content : ByteArray) (mode : Nat) : Prop :=
  ∃ l, t.find path.toString = .ok (l, .file content mode) ∨
    t.find path.toString = .ok (l, .device false) ∧ content = .empty ∧ mode = deviceMode

theorem readFile_eq_ok {t : FileTree} {path : Path} {content : ByteArray} {mode : Nat}
    (h : t.readFile path.toString = .ok (content, mode)) : t.Reads path content mode := by
  unfold readFile at h
  obtain ⟨_, _, h⟩ := bind_eq_ok_iff.mp h
  dsimp only at h
  split at h
  · exact absurd (bind_eq_ok_iff.mp h) fun ⟨_, hthrow, _⟩ => throw_ne_ok hthrow
  rename_i hendless
  rw [faultAbout_eq_ok_iff] at h
  unfold readUpTo at h
  obtain ⟨⟨l, e⟩, hfind, h⟩ := bind_eq_ok_iff.mp h
  cases e with
  | directory _ => exact absurd h throw_ne_ok
  | file c m =>
    dsimp only at h
    split at h
    · simp only [pure_eq_ok_iff, Prod.mk.injEq] at h
      obtain ⟨rfl, rfl⟩ := h
      exact ⟨l, .inl hfind⟩
    · exact absurd h throw_ne_ok
  | link text => exact absurd h throw_ne_ok
  | device endless =>
    obtain rfl : endless = false := by simpa [readsEndlessly, hfind] using hendless
    simp only [Bool.false_eq_true, if_false, List.replicate_zero, pure_eq_ok_iff,
      Prod.mk.injEq] at h
    obtain ⟨rfl, rfl⟩ := h
    exact ⟨l, .inr ⟨hfind, rfl, rfl⟩⟩

theorem exists_reads_of_readText {t : FileTree} {path : Path} {text : String}
    (h : t.readText path = .ok text) : ∃ content mode, t.Reads path content mode := by
  obtain ⟨⟨content, mode⟩, hread, -⟩ := bind_eq_ok_iff.mp h
  exact ⟨content, mode, readFile_eq_ok hread⟩

theorem openForWriting_eq_ok {t : FileTree} {path : String} {l : Location} {old : Option Entry}
    (h : t.openForWriting path = .ok (l, old)) :
    t.resolve .newFile path = .ok l ∧ old = t.get? l := by
  unfold openForWriting at h
  obtain ⟨m, hresolve, h⟩ := bind_eq_ok_iff.mp h
  split at h
  · rename_i content mode hget
    split at h
    · simp only [pure_eq_ok_iff, Prod.mk.injEq] at h
      obtain ⟨rfl, rfl⟩ := h
      exact ⟨hresolve, hget.symm⟩
    · exact absurd h throw_ne_ok
  · rename_i endless hget
    simp only [pure_eq_ok_iff, Prod.mk.injEq] at h
    obtain ⟨rfl, rfl⟩ := h
    exact ⟨hresolve, hget.symm⟩
  · exact absurd h throw_ne_ok
  · rename_i hget
    split at h
    · simp only [pure_eq_ok_iff, Prod.mk.injEq] at h
      obtain ⟨rfl, rfl⟩ := h
      exact ⟨hresolve, hget.symm⟩
    · exact absurd h throw_ne_ok

theorem writeFile_eq_ok {t u : FileTree} {path : String} {content : ByteArray}
    (h : t.writeFile path content = .ok u) :
    ∃ l, t.openForWriting path = .ok (l, t.get? l) ∧ u = t.putContent l content (t.get? l) := by
  unfold writeFile at h
  obtain ⟨_, -, h⟩ := bind_eq_ok_iff.mp h
  obtain ⟨⟨l, old⟩, hopen, h⟩ := bind_eq_ok_iff.mp h
  rw [faultAbout_eq_ok_iff] at hopen
  dsimp only at h
  rw [pure_eq_ok_iff] at h
  obtain ⟨-, rfl⟩ := openForWriting_eq_ok hopen
  exact ⟨l, hopen, h.symm⟩

/-- A copy that succeeds puts what the source holds where the destination is opened. -/
theorem copyFile_eq_ok {t u : FileTree} {source : Path} {destination : String}
    (h : t.copyFile source destination = .ok u) :
    t.sameEntry source.toString destination = false ∧ ∃ content mode l,
      t.Reads source content mode ∧ t.openForWriting destination = .ok (l, t.get? l) ∧
      u = t.putContent l content (t.get? l) := by
  unfold copyFile at h
  obtain ⟨_, _, h⟩ := bind_eq_ok_iff.mp h
  obtain ⟨_, _, h⟩ := bind_eq_ok_iff.mp h
  dsimp only at h
  split at h
  · exact absurd (bind_eq_ok_iff.mp h) fun ⟨_, hthrow, _⟩ => throw_ne_ok hthrow
  · rename_i hsame
    obtain ⟨⟨content, mode⟩, hread, h⟩ := bind_eq_ok_iff.mp h
    dsimp only at h
    split at h
    · rename_i l old hopen
      obtain ⟨-, rfl⟩ := openForWriting_eq_ok hopen
      rw [pure_eq_ok_iff] at h
      exact ⟨by simpa using hsame, content, mode, l, readFile_eq_ok hread, hopen, h.symm⟩
    · exact absurd h throw_ne_ok

/-- A renaming that succeeds moves an entry to where the destination itself is, which was no
    directory. -/
theorem rename_eq_ok {t u : FileTree} {source destination : String}
    (h : t.rename source destination = .ok u) :
    ∃ old new e, t.resolve .link source = .ok old ∧ t.resolve .link destination = .ok new ∧
      endsInName destination = true ∧ t.get? old = some e ∧ t.hasDirectory new = false ∧
      u = (t.remove old).put new e := by
  unfold rename at h
  obtain ⟨old, hold, h⟩ := bind_eq_ok_iff.mp h
  obtain ⟨new, hnew, h⟩ := bind_eq_ok_iff.mp h
  dsimp only at h
  split at h
  · exact absurd (bind_eq_ok_iff.mp h) fun ⟨_, hthrow, _⟩ => throw_ne_ok hthrow
  rename_i hends
  split at h
  · exact absurd h throw_ne_ok
  rename_i e hget
  split at h
  · exact absurd (bind_eq_ok_iff.mp h) fun ⟨_, hthrow, _⟩ => throw_ne_ok hthrow
  split at h
  · exact absurd (bind_eq_ok_iff.mp h) fun ⟨_, hthrow, _⟩ => throw_ne_ok hthrow
  rename_i hdirectory
  rw [pure_eq_ok_iff] at h
  exact ⟨old, new, e, hold, hnew, by simpa using hends, hget, by simpa using hdirectory, h.symm⟩

end FileTree

end NativeExtension

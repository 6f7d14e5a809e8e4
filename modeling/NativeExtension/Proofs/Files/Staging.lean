import NativeExtension.Proofs.Files.Access
import NativeExtension.Proofs.Files.Leads

namespace NativeExtension.FileTree

/-- A tree that differs from `t` by a staging file alone, at a location where `t` has nothing. What
    the file holds is left open, so that a copy may have broken off anywhere. -/
structure Staged (t : FileTree) (staging : String) (l : Location) (content : ByteArray)
    (mode : Nat) (u : FileTree) : Prop where
  resolve : t.resolve .link staging = .ok l
  free : t.get? l = none
  writable : t.mayChange l = true
  eq : u = t.put l (.file content mode)

namespace Staged

variable {t u : FileTree} {staging : String} {l : Location} {content : ByteArray} {mode : Nat}

theorem ne_root (h : Staged t staging l content mode u) : l ≠ [] := by
  rintro rfl
  simpa [get?] using h.free

theorem get?_self (h : Staged t staging l content mode u) :
    u.get? l = some (.file content mode) := by
  rw [h.eq]
  exact get?_put_self h.ne_root _

theorem get?_of_ne (h : Staged t staging l content mode u) {m : Location} (hm : m ≠ l) :
    u.get? m = t.get? m := by
  rw [h.eq]
  exact get?_put_of_ne hm _

/-- A file bars the way like a missing entry, so the staging file sends no path elsewhere. -/
theorem sameWays (h : Staged t staging l content mode u) : SameWays t u := by
  refine ⟨fun m => ?_, by rw [h.eq]; rfl, by rw [h.eq]; rfl⟩
  by_cases hm : m = l
  · rw [hm, h.get?_self, h.free]
    rfl
  · rw [h.get?_of_ne hm]

theorem put (h : Staged t staging l content mode u) (content' : ByteArray) (mode' : Nat) :
    Staged t staging l content' mode' (u.put l (.file content' mode')) := by
  refine ⟨h.resolve, h.free, h.writable, ?_⟩
  rw [h.eq, put_put]

/-- Whatever the staging file holds, taking it away restores the tree. -/
theorem discard (h : Staged t staging l content mode u) : u.discard staging = t := by
  unfold FileTree.discard
  rw [h.sameWays.resolve_eq_ok h.resolve]
  dsimp only
  have hfile : u.hasDirectory l = false := by simp [hasDirectory, h.get?_self, Entry.isDirectory]
  rw [hfile, h.sameWays.mayChange, h.writable, if_neg (by simp), h.eq]
  exact remove_put h.free _

theorem resolve_target (h : Staged t staging l content mode u) :
    u.resolve .target staging = .ok l := by
  have hlink := resolve_eq_ok_iff.mp (h.sameWays.resolve_eq_ok h.resolve)
  refine resolve_eq_ok_iff.mpr ⟨hlink.1, hlink.2.1, hlink.2.2.target_of_link fun text => ?_⟩
  simp [h.get?_self, wayOf]

theorem resolve_newFile (h : Staged t staging l content mode u) {m : Location}
    (hm : u.resolve .newFile staging = .ok m) : m = l := by
  have hnew := (resolve_eq_ok_iff.mp hm).2.2.target_of_newFile
  exact hnew.unique (resolve_eq_ok_iff.mp h.resolve_target).2.2

theorem find_self (h : Staged t staging l content mode u) :
    u.find staging = .ok (l, .file content mode) :=
  find_eq_ok_iff.mpr ⟨h.resolve_target, h.get?_self⟩

theorem find_of_find (h : Staged t staging l content mode u) {text : String} {m : Location}
    {e : Entry} (hfind : t.find text = .ok (m, e)) : u.find text = .ok (m, e) := by
  obtain ⟨hresolve, hget⟩ := find_eq_ok_iff.mp hfind
  have hm : m ≠ l := by
    rintro rfl
    rw [h.free] at hget
    cases hget
  exact find_eq_ok_iff.mpr ⟨h.sameWays.resolve_eq_ok hresolve, (h.get?_of_ne hm).trans hget⟩

theorem find_before (h : Staged t staging l content mode u) {text : String} {m : Location}
    {e : Entry} (hfind : u.find text = .ok (m, e)) (hsame : u.sameEntry text staging = false) :
    t.find text = .ok (m, e) := by
  obtain ⟨hresolve, hget⟩ := find_eq_ok_iff.mp hfind
  have hm : m ≠ l := by
    rintro rfl
    simp [sameEntry, hfind, h.find_self] at hsame
  exact find_eq_ok_iff.mpr
    ⟨h.sameWays.symm.resolve_eq_ok hresolve, (h.get?_of_ne hm).symm.trans hget⟩

/-- What is read at another entry than the staging file was there before. -/
theorem reads_before (h : Staged t staging l content mode u) {source : Path} {c : ByteArray}
    {m : Nat} (hsame : u.sameEntry source.toString staging = false)
    (hreads : u.Reads source c m) : t.Reads source c m := by
  obtain ⟨k, hfile | ⟨hdevice, hc, hm⟩⟩ := hreads
  · exact ⟨k, .inl (h.find_before hfile hsame)⟩
  · exact ⟨k, .inr ⟨h.find_before hdevice hsame, hc, hm⟩⟩

theorem copyFile (h : Staged t staging l content mode u) {v : FileTree} {source : Path}
    (hcopy : u.copyFile source staging = .ok v) :
    ∃ c m written, t.Reads source c m ∧ Staged t staging l c written v := by
  obtain ⟨hsame, c, m, k, hreads, hopen, rfl⟩ := copyFile_eq_ok hcopy
  obtain rfl := h.resolve_newFile (openForWriting_eq_ok hopen).1
  refine ⟨c, m, writtenMode mode, h.reads_before hsame hreads, ?_⟩
  rw [h.get?_self]
  exact h.put c (writtenMode mode)

theorem copyMode (h : Staged t staging l content mode u) {v : FileTree} {source : Path}
    {c : ByteArray} {m : Nat} (hreads : t.Reads source c m)
    (hcopy : u.copyMode source staging = .ok v) : Staged t staging l content m v := by
  unfold FileTree.copyMode at hcopy
  obtain ⟨⟨k, old⟩, hold, hcopy⟩ := bind_eq_ok_iff.mp hcopy
  dsimp only at hcopy
  obtain ⟨⟨k', new⟩, hnew, hcopy⟩ := bind_eq_ok_iff.mp hcopy
  rw [faultAbout_eq_ok_iff] at hold hnew
  simp only [h.find_self, Except.ok.injEq, Prod.mk.injEq] at hnew
  obtain ⟨rfl, rfl⟩ := hnew
  obtain ⟨n, hfile | ⟨hdevice, -, rfl⟩⟩ := hreads
  · simp only [h.find_of_find hfile, Except.ok.injEq, Prod.mk.injEq] at hold
    obtain ⟨rfl, rfl⟩ := hold
    dsimp only at hcopy
    rw [pure_eq_ok_iff] at hcopy
    rw [← hcopy]
    exact h.put content m
  · simp only [h.find_of_find hdevice, Except.ok.injEq, Prod.mk.injEq] at hold
    obtain ⟨rfl, rfl⟩ := hold
    dsimp only at hcopy
    rw [pure_eq_ok_iff] at hcopy
    rw [← hcopy]
    exact h.put content deviceMode

/-- Renaming a staging file leaves nothing but the file under its new name. -/
theorem rename (h : Staged t staging l content mode u) {v : FileTree} {destination : String}
    (hrename : u.rename staging destination = .ok v) :
    ∃ d, t.resolve .link destination = .ok d ∧ d ≠ [] ∧ endsInName destination = true ∧
      t.hasDirectory d = false ∧ v = t.put d (.file content mode) := by
  obtain ⟨old, d, e, hold, hd, hends, hget, hdirectory, rfl⟩ := rename_eq_ok hrename
  rw [h.sameWays.resolve_eq_ok h.resolve] at hold
  obtain rfl : l = old := by simpa using hold
  rw [h.get?_self] at hget
  obtain rfl : .file content mode = e := by simpa using hget
  refine ⟨d, h.sameWays.symm.resolve_eq_ok hd, ?_, hends, ?_, ?_⟩
  · rintro rfl
    exact absurd hdirectory (by simp [hasDirectory, get?, Entry.isDirectory])
  · exact (h.sameWays.hasDirectory d).symm.trans hdirectory
  · rw [h.eq, remove_put h.free]

end Staged

theorem createExclusive_eq_ok {t u : FileTree} {path : String}
    (h : t.createExclusive path = .ok u) :
    ∃ l, t.resolve .link path = .ok l ∧ t.get? l = none ∧ t.mayChange l = true ∧
      u = t.put l (.file .empty 0o600) := by
  unfold createExclusive at h
  obtain ⟨_, _, h⟩ := bind_eq_ok_iff.mp h
  obtain ⟨l, hresolve, h⟩ := bind_eq_ok_iff.mp h
  rw [faultAbout_eq_ok_iff] at hresolve
  split at h
  · rename_i hget
    split at h
    next hchange =>
      rw [pure_eq_ok_iff] at h
      exact ⟨l, hresolve, hget, hchange, h.symm⟩
    next => exact absurd h throw_ne_ok
  · exact absurd h throw_ne_ok

/-- A staging file is made under the first name that is free; names that are taken leave the tree as
    it is. -/
theorem makeStaging_staged {t u : FileTree} {destination : Path} {attempts n : Nat}
    {staging : String} (h : t.makeStaging destination attempts n = .ok (staging, u)) :
    ∃ l, Staged t staging l .empty 0o600 u := by
  induction attempts generalizing n with
  | zero => simp [makeStaging] at h
  | succ attempts ih =>
    simp only [makeStaging] at h
    split at h
    · rename_i v hcreate
      simp only [Except.ok.injEq, Prod.mk.injEq] at h
      obtain ⟨rfl, rfl⟩ := h
      obtain ⟨l, hresolve, hget, hchange, heq⟩ := createExclusive_eq_ok hcreate
      exact ⟨l, hresolve, hget, hchange, heq⟩
    · split at h
      · exact ih h
      · cases h

end NativeExtension.FileTree

import NativeExtension.Proofs.Files.Staging

namespace NativeExtension.FileTree

/-- Filling and renaming a staging file ends in one of two ways: the destination holds what the
    source gave and nothing else is left, or the staging file is still all that was added. -/
theorem Staged.fillAndRename {t u : FileTree} {staging : String} {l : Location}
    {content : ByteArray} {mode : Nat} (h : Staged t staging l content mode u)
    (source destination : Path) :
    (∃ d c m, u.fillAndRename source staging destination = (.ok (), t.put d (.file c m)) ∧
      t.Reads source c m ∧ t.resolve .link destination.toString = .ok d ∧ d ≠ [] ∧
      endsInName destination.toString = true ∧ t.hasDirectory d = false) ∨
    ∃ fault c m v, u.fillAndRename source staging destination = (.error fault, v) ∧
      Staged t staging l c m v := by
  unfold FileTree.fillAndRename
  cases hcopy : u.copyFile source staging with
  | error fault => exact .inr ⟨fault, content, mode, u, rfl, h⟩
  | ok v =>
    obtain ⟨c, m, written, hreads, hv⟩ := h.copyFile hcopy
    dsimp only
    cases hmode : v.copyMode source staging with
    | error fault => exact .inr ⟨fault, c, written, v, rfl, hv⟩
    | ok w =>
      have hw := hv.copyMode hreads hmode
      dsimp only
      cases hrename : w.rename staging destination.toString with
      | error e => exact .inr ⟨_, c, m, w, rfl, hw⟩
      | ok x =>
        obtain ⟨d, hresolve, hd, hends, hdirectory, rfl⟩ := hw.rename hrename
        exact .inl ⟨d, c, m, rfl, hreads, hresolve, hd, hends, hdirectory⟩

/-- Installing puts a copy of the source in the place of the destination's own entry, or fails and
    gives back the very tree it was given. -/
theorem install_cases (t : FileTree) (source destination : Path) :
    (∃ d content mode, t.install source destination = (.ok (), t.put d (.file content mode)) ∧
      t.Reads source content mode ∧ t.resolve .link destination.toString = .ok d ∧ d ≠ [] ∧
      endsInName destination.toString = true ∧ t.hasDirectory d = false) ∨
    ∃ fault, t.install source destination = (.error fault, t) := by
  unfold install
  split
  · exact .inr ⟨_, rfl⟩
  cases hstaging : t.makeStaging destination stagingAttempts 0 with
  | error fault => exact .inr ⟨fault, rfl⟩
  | ok made =>
    obtain ⟨staging, u⟩ := made
    obtain ⟨l, hstaged⟩ := makeStaging_staged hstaging
    dsimp only
    obtain ⟨d, c, m, hfill, hrest⟩ | ⟨fault, c, m, v, hfill, hv⟩ :=
      hstaged.fillAndRename source destination
    · exact .inl ⟨d, c, m, by rw [hfill], hrest⟩
    · exact .inr ⟨fault, by rw [hfill]; simp only [hv.discard]⟩

/-- Installing a file is all or nothing. When it ends well, the destination's own entry, a link
    itself and not its target, is a regular file with the octets and the permission bits of the
    source, and every other entry is as before; so no staging file is left. When it fails, at
    whichever step, the tree is the one it started from. -/
theorem install_all_or_nothing (t : FileTree) (source destination : Path) :
    (∃ u d content mode, t.install source destination = (.ok (), u) ∧
      t.resolve .link destination.toString = .ok d ∧ t.Reads source content mode ∧
      u.get? d = some (.file content mode) ∧ (∀ l ≠ d, u.get? l = t.get? l) ∧
      u.current = t.current) ∨
    ∃ fault, t.install source destination = (.error fault, t) := by
  obtain ⟨d, content, mode, hinstall, hreads, hresolve, hd, -⟩ | hfailed :=
    install_cases t source destination
  · exact .inl ⟨_, d, content, mode, hinstall, hresolve, hreads, get?_put_self hd _,
      fun l hl => get?_put_of_ne hl _, rfl⟩
  · exact .inr hfailed

end NativeExtension.FileTree

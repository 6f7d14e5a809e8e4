import NativeExtension.Proofs.Files.Access
import NativeExtension.Proofs.Files.Leads

namespace NativeExtension.FileTree

/-- Every way that is open in `t` is open in `u` and goes to the same place. Where a path can only
    end in `t`, there may be a link in `u`, or a directory that is not closed. -/
structure KeepsWays (t u : FileTree) : Prop where
  ways : ∀ l, wayOf (t.get? l) ≠ .stop → wayOf (u.get? l) = wayOf (t.get? l)
  unclosed : ∀ l, u.isClosed l = true → t.isClosed l = true
  current : u.current = t.current
  draws : u.draws = t.draws

theorem SameWays.keepsWays {t u : FileTree} (h : SameWays t u) : KeepsWays t u :=
  ⟨fun l _ => h.ways l, fun l hl => (h.isClosed l).symm.trans hl, h.current, h.draws⟩

namespace KeepsWays

variable {t u v : FileTree}

theorem refl (t : FileTree) : KeepsWays t t := ⟨fun _ _ => rfl, fun _ => id, rfl, rfl⟩

theorem trans (htu : KeepsWays t u) (huv : KeepsWays u v) : KeepsWays t v := by
  refine ⟨fun l hl => ?_, fun l hl => htu.unclosed l (huv.unclosed l hl),
    huv.current.trans htu.current, huv.draws.trans htu.draws⟩
  have hu := htu.ways l hl
  exact (huv.ways l (hu ▸ hl)).trans hu

theorem hasDirectory (h : KeepsWays t u) {l : Location} (hl : t.hasDirectory l = true) :
    u.hasDirectory l = true := by
  obtain ⟨rights, hway⟩ := hasDirectory_iff.mp hl
  exact hasDirectory_iff.mpr ⟨rights, (h.ways l (by simp [hway])).trans hway⟩

theorem isClosed (h : KeepsWays t u) {l : Location} (hl : t.isClosed l = false) :
    u.isClosed l = false := by
  rw [Bool.eq_false_iff] at hl ⊢
  exact fun hclosed => hl (h.unclosed l hclosed)

theorem takes (h : KeepsWays t u) {here : Location} {name : String} (hname : t.Takes here name) :
    u.Takes here name :=
  ⟨hname.toEntryName, h.hasDirectory hname.directory, h.isClosed hname.unclosed⟩

end KeepsWays

/-- A walk takes the same way where more ways are open. Only its last step may differ: where it
    ended at a file or at nothing there may now be a link, which a walk that is to name the link
    does not follow. -/
theorem KeepsWays.leads {t u : FileTree} (h : KeepsWays t u) {aim : Aim} {links : Nat}
    {here l : Location} {names : List String} (hleads : Leads t aim links here names l)
    (hend : aim = .link ∨ ∀ target, wayOf (u.get? l) ≠ .link target) :
    Leads u aim links here names l := by
  induction hleads with
  | done => exact .done
  | same hname _ ih => exact .same (hname.imp_right (.imp_right h.isClosed)) (ih hend)
  | up hclosed _ ih => exact .up (h.isClosed hclosed) (ih hend)
  | onward hname hrest hway _ ih =>
    exact .onward (h.takes hname) hrest ((h.ways _ (by simp [hway])).trans hway) (ih hend)
  | @stop _ here name hname _ =>
    have hname := h.takes hname
    cases hway : wayOf (u.get? (here ++ [name])) with
    | onward => exact .onward hname (by simp) hway .done
    | link target =>
      obtain haim | hlink := hend
      · exact .link hname haim hway
      · exact absurd hway (hlink target)
    | stop => exact .stop hname hway
  | link hname haim hway =>
    exact .link (h.takes hname) haim ((h.ways _ (by simp [hway])).trans hway)
  | follow hname hrest hway hlast _ ih =>
    exact .follow (h.takes hname) hrest ((h.ways _ (by simp [hway])).trans hway) hlast (ih hend)

theorem KeepsWays.resolve_eq_ok {t u : FileTree} (h : KeepsWays t u) {aim : Aim} {text : String}
    {l : Location} (hresolve : t.resolve aim text = .ok l)
    (hend : aim = .link ∨ ∀ target, wayOf (u.get? l) ≠ .link target) :
    u.resolve aim text = .ok l := by
  rw [resolve_eq_ok_iff] at hresolve ⊢
  obtain ⟨hempty, hshort, hleads⟩ := hresolve
  refine ⟨hempty, hshort, ?_⟩
  rw [h.current]
  exact h.leads hleads hend

/-- A walk that follows every link ends where the one does that names the link at its end, unless
    there is such a link. -/
theorem Leads.link_of_target {t : FileTree} {links : Nat} {here l : Location} {names : List String}
    (h : Leads t .target links here names l) :
    Leads t .link links here names l ∨
      ∃ m target, Leads t .link links here names m ∧ wayOf (t.get? m) = .link target := by
  induction h with
  | done => exact .inl .done
  | same hname _ ih =>
    obtain hsame | ⟨m, target, hlink, hm⟩ := ih
    · exact .inl (.same hname hsame)
    · exact .inr ⟨m, target, .same hname hlink, hm⟩
  | up hclosed _ ih =>
    obtain hsame | ⟨m, target, hlink, hm⟩ := ih
    · exact .inl (.up hclosed hsame)
    · exact .inr ⟨m, target, .up hclosed hlink, hm⟩
  | onward hname _ hway _ ih =>
    obtain hsame | ⟨m, target, hlink, hm⟩ := ih
    · exact .inl (.onward hname (by simp) hway hsame)
    · exact .inr ⟨m, target, .onward hname (by simp) hway hlink, hm⟩
  | stop hname hway => exact .inl (.stop hname hway)
  | link _ haim => cases haim
  | @follow _ here _ name _ rest hname _ hway _ _ ih =>
    by_cases hrest : rest = []
    · subst hrest
      exact .inr ⟨_, _, .link hname rfl hway, hway⟩
    · have hlast : ¬ (rest = [] ∧ Aim.link = .link) := fun hboth => hrest hboth.1
      obtain hsame | ⟨m, target, hlink, hm⟩ := ih
      · exact .inl (.follow hname (by simp) hway hlast hsame)
      · exact .inr ⟨m, target, .follow hname (by simp) hway hlast hlink, hm⟩

/-- A path at whose end there is no link. -/
def EndsAtNoLink (t : FileTree) (path : Path) : Prop :=
  ∀ l target, t.resolve .link path.toString = .ok l → t.get? l ≠ some (.link target)

namespace EndsAtNoLink

variable {t u : FileTree} {path : Path} {l : Location}

theorem resolve_link (h : t.EndsAtNoLink path)
    (hresolve : t.resolve .target path.toString = .ok l) :
    t.resolve .link path.toString = .ok l := by
  obtain ⟨hempty, hshort, hleads⟩ := resolve_eq_ok_iff.mp hresolve
  obtain hlink | ⟨m, target, hlink, hm⟩ := hleads.link_of_target
  · exact resolve_eq_ok_iff.mpr ⟨hempty, hshort, hlink⟩
  · have hresolved := resolve_eq_ok_iff.mpr ⟨hempty, hshort, hlink⟩
    exact absurd (wayOf_eq_link.mp hm) (h m target hresolved)

/-- Where fewer ways are open there is no link at the end of the path either. -/
theorem of_keepsWays (h : u.EndsAtNoLink path) (hways : KeepsWays t u) : t.EndsAtNoLink path := by
  intro m target hm hget
  have hway : wayOf (t.get? m) = .link target := wayOf_eq_link.mpr hget
  have hu := hways.ways m (by simp [hway])
  exact h m target (hways.resolve_eq_ok hm (.inl rfl)) (wayOf_eq_link.mp (hu.trans hway))

end EndsAtNoLink

theorem resolve_target_of_newFile {t : FileTree} {path : String} {l : Location}
    (h : t.resolve .newFile path = .ok l) : t.resolve .target path = .ok l := by
  obtain ⟨hempty, hshort, hleads⟩ := resolve_eq_ok_iff.mp h
  exact resolve_eq_ok_iff.mpr ⟨hempty, hshort, hleads.target_of_newFile⟩

theorem resolve_unique {t : FileTree} {aim : Aim} {path : String} {l m : Location}
    (hl : t.resolve aim path = .ok l) (hm : t.resolve aim path = .ok m) : l = m := by
  simpa using hl.symm.trans hm

end NativeExtension.FileTree

import NativeExtension.Proofs.Files.Matching
import NativeExtension.Proofs.Files.Staging

namespace NativeExtension.FileTree

variable {a : Accord} {t u t' u' : FileTree} {staging : String} {l : Location}
  {content : ByteArray} {mode mode' : Nat}

/-- Staging files of the same content lie beside trees that are alike. -/
theorem Alike.staged (h : Alike a t u) (ht : Staged t staging l content mode t')
    (hu : Staged u staging l content mode' u') (hrights : ownerRights mode' = ownerRights mode) :
    Alike (a.with l) t' u' :=
  h.step ((ht.sameWays.symm.trans h.ways).trans hu.sameWays) ht.sameWays.symm.keepsWays
    ht.sameWays.mayChange
    (by simp [plain?, ht.get?_self, hu.get?_self, Entry.plain, hrights])
    (fun _ hm => ht.get?_of_ne hm) (fun _ hm => hu.get?_of_ne hm)

/-- Two staging files that were made at one place. -/
def StagedAlike (t u : FileTree) (x y : String × FileTree) : Prop :=
  y.1 = x.1 ∧ ∃ l, Staged t x.1 l .empty 0o600 x.2 ∧ Staged u x.1 l .empty 0o600 y.2

theorem Alike.createExclusive (h : Alike a t u) (hused : a.used staging)
    (hknown : ∀ l, t.resolve .link staging = .ok l → a.known l) :
    Matching (fun t' u' => StagedAlike t u (staging, t') (staging, u')) (t.createExclusive staging)
      (u.createExclusive staging) := by
  refine (Matching.refl (checkNul staging)).bind fun _ _ _ _ _ => ?_
  rw [h.used staging hused .link]
  refine (Matching.refl _).bind fun l m hl _ heq => ?_
  subst heq
  rw [faultAbout_eq_ok_iff] at hl
  have hu := h.used staging hused .link ▸ hl
  have hplain := h.known l (hknown l hl)
  cases hget : t.get? l with
  | none =>
    have hget' := plain?_eq_none hplain hget
    rw [hget']
    dsimp only
    rw [h.ways.mayChange]
    by_cases hchange : t.mayChange l = true
    · rw [if_pos hchange, if_pos hchange]
      have hchange' := (h.ways.mayChange l).trans hchange
      exact .ok ⟨rfl, l, ⟨hl, hget, hchange, rfl⟩, hu, hget', hchange', rfl⟩
    · rw [if_neg hchange, if_neg hchange]
      exact .error _
  | some e =>
    obtain ⟨e', hget', -⟩ := exists_get?_of_plain?_eq hplain hget
    rw [hget']
    exact .error _

theorem Alike.makeStaging (h : Alike a t u) {destination : Path}
    (hused : ∀ n, a.used (t.stagingPath destination n).toString)
    (hknown : ∀ n l, t.resolve .link (t.stagingPath destination n).toString = .ok l → a.known l)
    (attempts n : Nat) :
    Matching (fun x y => a.used x.1 ∧ StagedAlike t u x y) (t.makeStaging destination attempts n)
      (u.makeStaging destination attempts n) := by
  have hpath (n : Nat) : u.stagingPath destination n = t.stagingPath destination n := by
    unfold stagingPath
    rw [h.ways.current, h.ways.draws]
  induction attempts generalizing n with
  | zero => exact .error _
  | succ attempts ih =>
    simp only [FileTree.makeStaging, hpath]
    obtain ⟨t', u', ht, hu, hstaged⟩ | ⟨fault, ht, hu⟩ :=
      (h.createExclusive (hused n) (hknown n)).ok_or_error
    · rw [ht, hu]
      exact .ok ⟨hused n, hstaged⟩
    · rw [ht, hu]
      dsimp only
      split
      · exact ih (n + 1)
      · exact .error fault

/-- Once a file was copied to a staging file its permission bits can be copied too. -/
theorem Staged.exists_copyMode {source : Path} {c : ByteArray} {m : Nat}
    (h : Staged t staging l content mode u) (hreads : t.Reads source c m) :
    ∃ v, u.copyMode source staging = .ok v := by
  have hfind : ∃ k e, u.find source.toString = .ok (k, e) := by
    obtain ⟨k, hfile | ⟨hdevice, -⟩⟩ := hreads
    · exact ⟨k, _, h.find_of_find hfile⟩
    · exact ⟨k, _, h.find_of_find hdevice⟩
  obtain ⟨k, e, hfind⟩ := hfind
  unfold FileTree.copyMode
  rw [hfind, h.find_self]
  cases e <;> exact ⟨_, rfl⟩

/-- What is read is what is found. -/
theorem Reads.of_find {source : Path} {c : ByteArray} {m : Nat} {e : Entry}
    (h : t.Reads source c m) (hfind : t.find source.toString = .ok (l, e)) :
    e = .file c m ∨ e = .device false ∧ c = .empty ∧ m = deviceMode := by
  obtain ⟨k, hfile | ⟨hdevice, hrest⟩⟩ := h
  · obtain ⟨-, rfl⟩ : l = k ∧ e = .file c m := by simpa [hfind] using hfile
    exact .inl rfl
  · obtain ⟨-, rfl⟩ : l = k ∧ e = .device false := by simpa [hfind] using hdevice
    exact .inr ⟨rfl, hrest⟩

theorem reads_alike {source : Path} {c c' : ByteArray} {m m' : Nat}
    (hfind : Matching FoundAlike (t.find source.toString) (u.find source.toString))
    (ht : t.Reads source c m) (hu : u.Reads source c' m') :
    c' = c ∧ ownerRights m' = ownerRights m := by
  obtain ⟨⟨k, e⟩, ⟨k', e'⟩, hx, hy, -, hplain⟩ | ⟨fault, hx, -⟩ := hfind.ok_or_error
  · obtain rfl | ⟨rfl, rfl, rfl⟩ := ht.of_find hx <;>
      obtain rfl | ⟨rfl, rfl, rfl⟩ := hu.of_find hy
    · simpa [Entry.plain] using hplain
    · simp [Entry.plain] at hplain
    · simp [Entry.plain] at hplain
    · exact ⟨rfl, rfl⟩
  · obtain ⟨k, hfile | ⟨hdevice, -⟩⟩ := ht
    · simp [hx] at hfile
    · simp [hx] at hdevice

theorem Alike.rename (h : Alike a t u) {source destination : String} (hsource : a.used source)
    (hdestination : a.used destination)
    (hknown : ∀ l, t.resolve .link source = .ok l → a.known l) :
    Matching (fun _ _ => True) (t.rename source destination) (u.rename source destination) := by
  unfold FileTree.rename
  rw [h.used _ hsource, h.used _ hdestination]
  refine (Matching.refl _).bind fun old old' hold _ heq => ?_
  subst heq
  refine (Matching.refl _).bind fun new new' _ _ heq => ?_
  subst heq
  dsimp only
  have hplain := h.known old (hknown old hold)
  split
  · exact .error _
  cases hget : t.get? old with
  | none =>
    rw [plain?_eq_none hplain hget]
    exact .error _
  | some e =>
    obtain ⟨e', hget', -⟩ := exists_get?_of_plain?_eq hplain hget
    simp only [hget', h.ways.mayChange, h.ways.hasDirectory]
    split
    · exact .error _
    · split
      · exact .error _
      · exact .ok trivial

/-- A staging file is filled and renamed in both trees, or the same goes wrong. -/
theorem Alike.fillAndRename (h : Alike a t u) {source destination : Path}
    (hsource : a.used source.toString ∧ a.found source.toString) (hstaging : a.used staging)
    (hdestination : a.used destination.toString) (ht : Staged t staging l .empty 0o600 t')
    (hu : Staged u staging l .empty 0o600 u') :
    (u'.fillAndRename source staging destination).1 =
      (t'.fillAndRename source staging destination).1 := by
  have hmade := h.staged ht hu rfl
  have hcopy := hmade.copyFile (hmade.find hsource.1 hsource.2) hstaging (fun k hk => ?_)
    fun e _ => by unfold FileTree.copyFault; rw [ht.find_self, hu.find_self]
  · unfold FileTree.fillAndRename
    obtain ⟨v, w, hv, hw, -⟩ | ⟨fault, hv, hw⟩ := hcopy.ok_or_error
    · obtain ⟨c, m, _, hreads, hv'⟩ := ht.copyFile hv
      obtain ⟨c', m', _, hreads', hw'⟩ := hu.copyFile hw
      obtain ⟨rfl, hrights⟩ := reads_alike (h.find hsource.1 hsource.2) hreads hreads'
      obtain ⟨x, hx⟩ := hv'.exists_copyMode hreads
      obtain ⟨y, hy⟩ := hw'.exists_copyMode hreads'
      have hx' := hv'.copyMode hreads hx
      -- the staging files now have the rights of their sources, which are the same for the owner
      have hfilled := h.staged hx' (hw'.copyMode hreads' hy) hrights
      have hrename := hfilled.rename hstaging hdestination fun k hk =>
        .inr (resolve_unique hk (hx'.sameWays.resolve_eq_ok hx'.resolve))
      simp only [hv, hw, hx, hy]
      obtain ⟨_, _, hr, hr', -⟩ | ⟨e, hr, hr'⟩ := hrename.ok_or_error
      · rw [hr, hr']
      · rw [hr, hr']
    · rw [hv, hw]
  · obtain rfl := ht.resolve_newFile hk
    exact .inl ⟨hmade.known k (.inr rfl), hmade.ways.mayChange k⟩

/-- Installing succeeds in both of two trees that are alike, or the same goes wrong. -/
theorem Alike.install (h : Alike a t u) {source destination : Path}
    (hsource : a.used source.toString ∧ a.found source.toString)
    (hdestination : a.used destination.toString)
    (hused : ∀ n, a.used (t.stagingPath destination n).toString)
    (hknown : ∀ n l, t.resolve .link (t.stagingPath destination n).toString = .ok l → a.known l) :
    (u.install source destination).1 = (t.install source destination).1 := by
  unfold FileTree.install
  rw [h.ways.isAdrift]
  split
  · rfl
  obtain ⟨⟨staging, t'⟩, ⟨other, u'⟩, ht, hu, hstaging, heq, l, ht', hu'⟩ | ⟨fault, ht, hu⟩ :=
    (h.makeStaging hused hknown stagingAttempts 0).ok_or_error
  · obtain rfl : other = staging := heq
    have hfill := h.fillAndRename hsource hstaging hdestination ht' hu'
    rw [ht, hu]
    dsimp only
    generalize t'.fillAndRename source other destination = x at hfill
    generalize u'.fillAndRename source other destination = y at hfill
    obtain ⟨r, v⟩ := x
    obtain ⟨r', w⟩ := y
    obtain rfl : r' = r := hfill
    cases r' <;> rfl
  · rw [ht, hu]

end NativeExtension.FileTree

import NativeExtension.Proofs.Deployment.Names
import NativeExtension.Proofs.Deployment.Outcome
import NativeExtension.Proofs.Host.Serves

namespace NativeExtension.Deployment

open Build FileTree

variable {t u : FileTree} {files : List DeployedFile}

section PutFile

variable {l : Location} (hl : l ≠ []) (content : ByteArray) (mode : Nat)

include hl

theorem keepsWays_put_file (hdirectory : t.hasDirectory l = false) :
    KeepsWays (t.put l (.file content mode)) t := by
  refine ⟨fun m hm => ?_, fun m hm => ?_, rfl, rfl⟩
  · by_cases hsame : m = l
    · rw [hsame, get?_put_self hl] at hm
      exact absurd rfl hm
    · rw [get?_put_of_ne hsame]
  · have hne : m ≠ l := by
      rintro rfl
      simp [hasDirectory_of_isClosed hm] at hdirectory
    rwa [isClosed, get?_put_of_ne hne]

theorem mayChange_put_file (hdirectory : t.hasDirectory l = false) (m : Location) :
    (t.put l (.file content mode)).mayChange m = t.mayChange m := by
  by_cases hparent : m.dropLast = l
  · have hbefore : t.mayChange m = false := Bool.eq_false_iff.mpr fun hchange => by
      obtain ⟨rights, hway, -⟩ := mayChange_iff.mp hchange
      simp [← hparent, hasDirectory_iff.mpr ⟨rights, hway⟩] at hdirectory
    rw [hbefore, mayChange, hparent, get?_put_self hl]
  · rw [mayChange, mayChange, get?_put_of_ne hparent]

theorem sameWays_put_file (hstop : wayOf (t.get? l) = .stop) :
    SameWays t (t.put l (.file content mode)) := by
  refine ⟨fun m => ?_, rfl, rfl⟩
  by_cases hsame : m = l
  · rw [hsame, get?_put_self hl, hstop]
    rfl
  · rw [get?_put_of_ne hsame]

end PutFile

/-- What one installation does that succeeds. Where it replaces no link it changes no way. -/
theorem install_eq_ok {f : DeployedFile} (h : t.install f.source f.destination = (.ok (), u)) :
    ∃ d content mode, t.Reads f.source content mode ∧
      t.resolve .link f.destination.toString = .ok d ∧ u.get? d = some (.file content mode) ∧
      (∀ l ≠ d, u.get? l = t.get? l) ∧ KeepsWays u t ∧
      (t.EndsAtNoLink f.destination → SameWays t u) ∧ ∀ l, u.mayChange l = t.mayChange l := by
  obtain ⟨d, content, mode, hinstall, hreads, hresolve, hd, -, hdirectory⟩ | ⟨fault, hinstall⟩ :=
    t.install_cases f.source f.destination
  · obtain rfl : t.put d (.file content mode) = u := by simpa [hinstall] using h
    have hsame (hlink : t.EndsAtNoLink f.destination) :
        SameWays t (t.put d (.file content mode)) := by
      have hstop : wayOf (t.get? d) = .stop :=
        wayOf_eq_stop hdirectory fun target => hlink d target hresolve
      exact sameWays_put_file hd content mode hstop
    exact ⟨d, content, mode, hreads, hresolve, get?_put_self hd _, fun l hl => get?_put_of_ne hl _,
      keepsWays_put_file hd content mode hdirectory, hsame,
      mayChange_put_file hd content mode hdirectory⟩
  · simp [hinstall] at h

/-- Installing opens no way: it can only put a file in the place of a link. -/
theorem Installs.keepsWays (h : Installs t files u) : KeepsWays u t := by
  induction h with
  | nil => exact .refl _
  | cons head _ ih =>
    obtain ⟨_, _, _, -, -, -, -, hways, -⟩ := install_eq_ok head
    exact ih.trans hways

/-- Where no file is installed in the place of a link every way stays as it was. -/
theorem Installs.sameWays (h : Installs t files u)
    (hlinks : ∀ f ∈ files, t.EndsAtNoLink f.destination) : SameWays t u := by
  induction h with
  | nil => exact .refl _
  | @cons t v u f rest head _ ih =>
    obtain ⟨_, _, _, -, -, -, -, hways, hsame, -⟩ := install_eq_ok head
    have hfirst := hsame (hlinks f List.mem_cons_self)
    exact hfirst.trans (ih fun g hg => (hlinks g (List.mem_cons_of_mem f hg)).of_keepsWays hways)

/-- Installing changes no entry but those that the destinations name beforehand. -/
theorem Installs.get?_of_unnamed (h : Installs t files u) {l : Location}
    (hl : ∀ f ∈ files, t.resolve .link f.destination.toString ≠ .ok l) : u.get? l = t.get? l := by
  induction h with
  | nil => rfl
  | @cons t v u f rest head _ ih =>
    obtain ⟨d, _, _, -, hresolve, -, hothers, hways, -⟩ := install_eq_ok head
    have hd : l ≠ d := by
      rintro rfl
      exact hl f List.mem_cons_self hresolve
    have hrest : ∀ g ∈ rest, v.resolve .link g.destination.toString ≠ .ok l :=
      fun g hg hg' => hl g (List.mem_cons_of_mem f hg) (hways.resolve_eq_ok hg' (.inl rfl))
    exact (ih hrest).trans (hothers l hd)

/-- A path that named an entry holds what it should, and names no other entry now. It may name none:
    a link on the way to it may have been replaced. -/
def Placed (before after : FileTree) (path : Path) (content : ByteArray) : Prop :=
  ∃ l mode, before.resolve .link path.toString = .ok l ∧
    after.get? l = some (.file content mode) ∧
    ∀ m, after.resolve .link path.toString = .ok m → m = l

theorem Placed.of_keepsWays {v : FileTree} {path : Path} {content : ByteArray}
    (h : Placed v u path content) (hvt : KeepsWays v t) (hut : KeepsWays u t) :
    Placed t u path content := by
  obtain ⟨l, mode, hresolve, hget, -⟩ := h
  have ht := hvt.resolve_eq_ok hresolve (.inl rfl)
  refine ⟨l, mode, ht, hget, fun m hm => ?_⟩
  exact resolve_unique (hut.resolve_eq_ok hm (.inl rfl)) ht

/-- What is placed is held where every way stayed as it was. -/
theorem Placed.holds {path : Path} {content : ByteArray} (h : Placed t u path content)
    (hways : SameWays t u) : u.Holds path content := by
  obtain ⟨l, mode, hresolve, hget, -⟩ := h
  exact ⟨l, mode, hways.resolve_eq_ok hresolve, hget⟩

/-- What is held at a path in whose place no file is installed is there afterwards. -/
theorem Installs.placed_of_holds (h : Installs t files u) {path : Path} {content : ByteArray}
    (hholds : t.Holds path content) (hapart : ∀ f ∈ files, t.Apart path f.destination) :
    Placed t u path content := by
  obtain ⟨l, mode, hresolve, hget⟩ := hholds
  have hkept := h.get?_of_unnamed fun f hf => hapart f hf l hresolve
  exact ⟨l, mode, hresolve, hkept.trans hget,
    fun m hm => resolve_unique (h.keepsWays.resolve_eq_ok hm (.inl rfl)) hresolve⟩

/-- What is read where neither a link nor a device is at the end of the path is what is held
    there. -/
theorem holds_of_reads {path : Path} {content : ByteArray} {mode : Nat}
    (h : t.Reads path content mode) (hlink : t.EndsAtNoLink path)
    (hdevice : t.EndsAtNoDevice path) : t.Holds path content := by
  obtain ⟨l, hfind | ⟨hfind, -⟩⟩ := h
  · obtain ⟨hresolve, hget⟩ := find_eq_ok_iff.mp hfind
    exact ⟨l, mode, hlink.resolve_link hresolve, hget⟩
  · obtain ⟨hresolve, hget⟩ := find_eq_ok_iff.mp hfind
    exact absurd hget (hdevice l false (hlink.resolve_link hresolve))

theorem reads_content_eq {path : Path} {content read : ByteArray} {mode : Nat}
    (h : t.Reads path read mode) (hlink : t.EndsAtNoLink path)
    (hholds : ∀ l, t.resolve .link path.toString = .ok l →
      ∃ mode, t.get? l = some (.file content mode)) : read = content := by
  obtain ⟨l, hfind | ⟨hfind, -⟩⟩ := h
  · obtain ⟨hresolve, hget⟩ := find_eq_ok_iff.mp hfind
    obtain ⟨m, hfile⟩ := hholds l (hlink.resolve_link hresolve)
    have heq : read = content ∧ mode = m := by simpa [hget] using hfile
    exact heq.1
  · obtain ⟨hresolve, hget⟩ := find_eq_ok_iff.mp hfind
    obtain ⟨_, hfile⟩ := hholds l (hlink.resolve_link hresolve)
    simp [hget] at hfile

/-- What is installed is what the source held, where no other file is installed in the place of the
    source and no two files in one place. -/
theorem Installs.placed (h : Installs t files u) {f : DeployedFile} (hf : f ∈ files)
    (hlink : t.EndsAtNoLink f.source)
    (hsource : ∀ g ∈ files, g ≠ f → t.Apart f.source g.destination)
    (hdestinations : files.Pairwise fun g g' => t.Apart g.destination g'.destination)
    {content : ByteArray}
    (hholds : ∀ l, t.resolve .link f.source.toString = .ok l →
      ∃ mode, t.get? l = some (.file content mode)) :
    Placed t u f.destination content := by
  have hut := h.keepsWays
  induction h with
  | nil => cases hf
  | @cons t v u g rest head tail ih =>
    obtain ⟨d, c, m, hreads, hresolve, hget, hothers, hvt, -⟩ := install_eq_ok head
    obtain ⟨hfirst, hpairs⟩ := List.pairwise_cons.mp hdestinations
    by_cases hsame : f = g
    · -- the first one: the later ones leave it alone
      subst hsame
      have hkept : u.get? d = v.get? d := by
        refine tail.get?_of_unnamed fun g' hg' hd => ?_
        exact hfirst g' hg' d hresolve (hvt.resolve_eq_ok hd (.inl rfl))
      obtain rfl := reads_content_eq hreads hlink hholds
      refine ⟨d, m, hresolve, hkept.trans hget, fun k hk => ?_⟩
      exact resolve_unique (hut.resolve_eq_ok hk (.inl rfl)) hresolve
    · have hrest := List.mem_of_ne_of_mem hsame hf
      have hplaced := ih hrest (hlink.of_keepsWays hvt)
        (fun g' hg' hne => (hsource g' (List.mem_cons_of_mem g hg') hne).of_keepsWays hvt)
        (hpairs.imp fun hapart => hapart.of_keepsWays hvt) ?_ tail.keepsWays
      · exact hplaced.of_keepsWays hvt hut
      · intro l hl
        have ht := hvt.resolve_eq_ok hl (.inl rfl)
        have hd : l ≠ d := by
          rintro rfl
          exact hsource g List.mem_cons_self (Ne.symm hsame) l ht hresolve
        rw [hothers l hd]
        exact hholds l ht

/-- Each file of an extension is installed with what was built, whatever the directories are. -/
theorem Installs.placed_target {buildDir modules shared : Path} {i : Identity}
    (h : Installs t (targets (.within buildDir i) i modules shared) u) {f : DeployedFile}
    (hf : f ∈ targets (.within buildDir i) i modules shared) (hlink : t.EndsAtNoLink f.source)
    {content : ByteArray} (hholds : t.Holds f.source content) :
    Placed t u f.destination content := by
  obtain ⟨k, mode, hresolve, hget⟩ := hholds
  have hdestinations := destinations_apart t i modules shared
  rw [← targets_destinations (.within buildDir i), List.pairwise_map] at hdestinations
  refine h.placed hf hlink (fun g hg hne => targets_apart t buildDir i modules shared hf hg hne)
    hdestinations fun l hl => ⟨mode, ?_⟩
  obtain rfl := resolve_unique hresolve hl
  exact hget

/-- However a deployment ends, it installs the first of its files one after the other and changes
    nothing else: all of them where it succeeds, and none where a directory cannot be found. -/
theorem deploy_cases {artifacts : BuildArtifacts} {i : Identity} {host : HostLayout}
    {modules shared : Path} {s s' : BuildState} {r : Except Failure (List DeployedFile)}
    (hserves : host.Serves modules shared) (h : Ends (deploy artifacts i host) s r s') :
    ∃ v done, WritesOnly [] s.files v ∧ Installs v done s'.files ∧
      done <+: targets artifacts i modules shared ∧
      (∀ deployed, r = .ok deployed → done = targets artifacts i modules shared) ∧
      ∀ e, r = .error (.build e) → e.stage = "deploy" ∨ e.stage = "host-config" ∧ done = [] := by
  obtain ⟨failure, hmodules, rfl⟩ | ⟨p, s₁, hmodules, h⟩ := ends_bind_iff.mp h
  · refine ⟨s'.files, [], hserves.modules.files hmodules, .nil, List.nil_prefix, by simp, ?_⟩
    rintro e ⟨⟩
    exact .inr ⟨hserves.modules.stage hmodules, rfl⟩
  obtain rfl := hserves.modules.answer hmodules
  have hfirst := hserves.modules.files hmodules
  obtain ⟨failure, hshared, rfl⟩ | ⟨q, s₂, hshared, h⟩ := ends_bind_iff.mp h
  · have hsecond := hserves.shared.files hshared
    refine ⟨s'.files, [], hfirst.trans hsecond, .nil, List.nil_prefix, by simp, ?_⟩
    rintro e ⟨⟩
    exact .inr ⟨hserves.shared.stage hshared, rfl⟩
  obtain rfl := hserves.shared.answer hshared
  have hasked := hfirst.trans (hserves.shared.files hshared)
  obtain ⟨-, ⟨rfl, hinstalls⟩ | ⟨before, f, after, fault, htargets, rfl, hinstalls, -⟩⟩ :=
    installAll_cases h
  · exact ⟨s₂.files, _, hasked, hinstalls, List.prefix_rfl, fun _ _ => rfl, by simp⟩
  · refine ⟨s₂.files, before, hasked, hinstalls, htargets ▸ List.prefix_append _ _, by simp, ?_⟩
    intro e he
    cases fault with
    | system cause =>
      obtain rfl : BuildError.deploy f.artifact f.source f.destination cause = e := by
        simpa [failureOn, failureOf] using he
      exact .inl rfl
    | _ => simp [failureOn, failureOf] at he

end NativeExtension.Deployment

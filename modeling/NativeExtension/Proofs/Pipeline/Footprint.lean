import NativeExtension.Proofs.Pipeline.Failures

namespace NativeExtension

open Build FileTree

/-- The layout of a project that was located, in whatever directory and for whichever profile. -/
def ProjectLayout.Located (layout : ProjectLayout) : Prop :=
  ∃ project profile s s', Ends (Project.locate project profile) s (.ok layout) s'

theorem ProjectLayout.Located.buildDir_eq {layout : ProjectLayout} (h : layout.Located) :
    layout.buildDir = layout.libraryDir.child Project.buildSubdirectory := by
  obtain ⟨project, profile, s, s', h⟩ := h
  obtain ⟨-, _, -, ⟨⟩⟩ | ⟨-, -, ⟨⟩⟩ | ⟨-, h⟩ := need_cases h
  obtain ⟨_, _, -, h⟩ := ends_bind_ok_iff.mp h
  obtain ⟨_, _, -, h⟩ := ends_bind_ok_iff.mp h
  obtain ⟨_, _, -, h⟩ := ends_bind_ok_iff.mp h
  obtain ⟨⟨⟩, -⟩ := ends_pure_iff.mp h
  rfl

namespace Pipeline

/-- The entries of the build directory and of those above it that are made because they are
    missing. -/
def IsScaffold (layout : ProjectLayout) (s : BuildState) (l : Location) : Prop :=
  s.files.get? l = none ∧ ∃ p, UpTo layout.buildDir p ∧
    (made layout s).resolve .link (withoutSlashes p.toString) = .ok l

/-- The entries of the files that a build makes. -/
def IsOutput (layout : ProjectLayout) (s : BuildState) (l : Location) : Prop :=
  ∃ i, Names layout s i ∧ ∃ p ∈ outputs layout i, (made layout s).resolve .link p.toString = .ok l

/-- The entries that are the destinations of the installed files. -/
def IsDestination (layout : ProjectLayout) (s : BuildState) (modules shared : Path) (l : Location) :
    Prop :=
  ∃ i, Names layout s i ∧ ∃ p ∈ Deployment.destinations i modules shared,
    (made layout s).resolve .link p.toString = .ok l

/-- A directory that is neither another one nor below it. -/
def Outside (t : FileTree) (other directory : Path) : Prop :=
  ∀ d m, t.resolve .target other.toString = .ok d → t.resolve .target directory.toString = .ok m →
    ¬ d <+: m

theorem Names.unique {layout : ProjectLayout} {s : BuildState} {i j : Identity}
    (hi : Names layout s i) (hj : Names layout s j) : i = j := by
  obtain ⟨_, hi⟩ := hi
  obtain ⟨_, hj⟩ := hj
  simpa using (hi.unique hj).1

variable {layout : ProjectLayout} {host : HostLayout} {tools : Toolchain.Tools}
  {extra : Option String} {modules shared : Path} {s s' : BuildState}

/-- The course of a run: it ends while it only reads, or it fills the build directory and installs
    some files then, none of them before the last stage. -/
theorem run_course {r : Except Failure PipelineResult}
    (h : Ends (run layout host tools extra) s r s') (htidy : tools.runner.Tidy)
    (hserves : host.Serves modules shared) (hlinks : NoOutputLink layout s) :
    (s'.files = s.files ∧ ∃ failure, r = .error failure) ∨
      ∃ i u done, Names layout s i ∧ WritesOnly (outputs layout i) (made layout s) u ∧
        Deployment.Installs u done s'.files ∧
        (∀ f ∈ done, f.destination ∈ Deployment.destinations i modules shared) ∧
        ∀ e, r = .error (.build e) →
          e.stage ∉ readingStages ∧ (e.stage ≠ "deploy" → done = []) := by
  rw [run_eq] at h
  obtain ⟨failure, hread, rfl⟩ | ⟨found, s₁, hread, h⟩ := ends_bind_iff.mp h
  · exact .inl ⟨(read_preserves (· = s.files) layout).files hread rfl, failure, rfl⟩
  right
  have hfiles : s₁.files = s.files := (read_preserves (· = s.files) layout).files hread rfl
  have hnames := (read_ok hread).1
  have hmade : (s₁.files.ensureDirectory layout.buildDir).2 = made layout s := by
    rw [hfiles]
    rfl
  have hlink := hlinks found.identity hnames
  obtain ⟨failure, hfill, rfl⟩ | ⟨artifacts, s₂, hfill, h⟩ := ends_bind_iff.mp h
  · refine ⟨found.identity, s'.files, [], hnames, fill_writes hfill htidy hserves hmade hlink, .nil,
      by simp, ?_⟩
    rintro e ⟨⟩
    have hheaders : FailsWith (·.stage = "host-config") (fun _ => True) host.headers :=
      ⟨fun hends => hserves.headers.stage hends, fun _ => trivial⟩
    have hstage := (fill_fails (fun _ _ => trivial) (fun _ _ => trivial)
      (fun _ _ _ _ _ _ _ => trivial) hheaders extra found).error hfill
    have hapart : ∀ stage ∈ fillingStages, stage ∉ readingStages := by decide
    exact ⟨hapart _ hstage, fun _ => rfl⟩
  have hfilled := fill_writes hfill htidy hserves hmade hlink
  have destination {done : List DeployedFile}
      (hdone : done <+: Deployment.targets artifacts found.identity modules shared) :
      ∀ f ∈ done, f.destination ∈ Deployment.destinations found.identity modules shared := by
    intro f hf
    rw [← Deployment.targets_destinations artifacts]
    exact List.mem_map_of_mem (hdone.subset hf)
  obtain ⟨failure, hdeploy, rfl⟩ | ⟨deployed, s₃, hdeploy, h⟩ := ends_bind_iff.mp h
  · obtain ⟨v, done, hasked, hinstalls, hdone, -, herror⟩ := Deployment.deploy_cases hserves hdeploy
    refine ⟨found.identity, v, done, hnames, hfilled.trans (hasked.mono (List.nil_subset _)),
      hinstalls, destination hdone, ?_⟩
    rintro e ⟨⟩
    obtain hstage | ⟨hstage, rfl⟩ := herror e rfl
    · exact ⟨hstage ▸ by decide, fun hother => absurd hstage hother⟩
    · exact ⟨hstage ▸ by decide, fun _ => rfl⟩
  · obtain ⟨v, done, hasked, hinstalls, hdone, -, -⟩ := Deployment.deploy_cases hserves hdeploy
    simp only [ends_bind_iff, ends_say_iff, ends_pure_iff] at h
    obtain ⟨_, ⟨⟨⟩, _⟩, _⟩ | ⟨_, _, ⟨_, rfl⟩, rfl, rfl⟩ := h
    exact ⟨found.identity, v, done, hnames, hfilled.trans (hasked.mono (List.nil_subset _)),
      hinstalls, destination hdone, by simp⟩

theorem made_get? {l : Location} (h : ¬ IsScaffold layout s l) :
    (made layout s).get? l = s.files.get? l := by
  obtain hsame | ⟨hnone, -, p, hp, hresolve⟩ :=
    (ensureDirectory_scaffold s.files layout.buildDir).cases l
  · exact hsame
  · exact absurd ⟨hnone, p, hp, hresolve⟩ h

theorem buildSubdirectory_plainName : PlainName Project.buildSubdirectory :=
  ⟨by decide, by decide, by decide, by decide⟩

theorem extensionSubdirectory_plainName : PlainName Deployment.extensionSubdirectory :=
  ⟨by decide, by decide, by decide, by decide⟩

/-- A file that is installed outside the build directory is none of those that are made there. -/
theorem IsDestination.not_isOutput {modules shared : String} {l : Location}
    (hlayout : layout.Located)
    (hmodules : Outside (made layout s) layout.buildDir (.ofString modules))
    (hshared : Outside (made layout s) layout.buildDir
      ((Path.ofString shared).child Deployment.extensionSubdirectory))
    (h : IsDestination layout s (.ofString modules) (.ofString shared) l) :
    ¬ IsOutput layout s l := by
  rintro ⟨i, -, q, hq, houtput⟩
  obtain ⟨j, -, p, hp, hdestination⟩ := h
  obtain ⟨name, hname, rfl⟩ := List.mem_map.mp hq
  have hbuild : layout.buildDir.toString ≠ "" :=
    hlayout.buildDir_eq ▸ buildSubdirectory_plainName.toString_child_ne_empty
  obtain ⟨d, hd, rfl⟩ := resolve_child (Identity.plainName_of_mem_outputNames hname) hbuild houtput
  obtain ⟨directory, hdirectory, other, hother, rfl⟩ :=
    Deployment.exists_directory_of_mem_destinations hp
  have houtside : directory.toString ≠ "" ∧ Outside (made layout s) layout.buildDir directory := by
    simp only [List.mem_cons, List.not_mem_nil, or_false] at hdirectory
    obtain rfl | rfl := hdirectory
    · exact ⟨Path.toString_ofString_ne_empty _, hmodules⟩
    · exact ⟨extensionSubdirectory_plainName.toString_child_ne_empty, hshared⟩
  obtain ⟨m, hm, heq⟩ :=
    resolve_child (Identity.plainName_of_mem_installedNames hother) houtside.1 hdestination
  obtain ⟨rfl, -⟩ := List.append_inj' heq rfl
  exact houtside.2 d d hd hm List.prefix_rfl

/-- A run touches only its own files. However it ends, an entry that is not the build directory, a
    missing one above it, a file that a build makes or a destination is as before. Where it fails
    before the last stage the destinations are as before too, but for one that is itself a missing
    directory on the way to the build directory; and where it fails in a stage that only reads
    nothing changes. -/
theorem run_touches_only {modules shared : String} (hlayout : layout.Located)
    (htidy : tools.runner.Tidy) (hserves : host.Serves (.ofString modules) (.ofString shared))
    (hlinks : NoOutputLink layout s)
    (hmodules : Outside (made layout s) layout.buildDir (.ofString modules))
    (hshared : Outside (made layout s) layout.buildDir
      ((Path.ofString shared).child Deployment.extensionSubdirectory))
    (extra : Option String) :
    ∃ r s', Ends (run layout host tools extra) s r s' ∧
      (∀ l, ¬ IsScaffold layout s l → ¬ IsOutput layout s l →
        ¬ IsDestination layout s (.ofString modules) (.ofString shared) l →
        s'.files.get? l = s.files.get? l) ∧
      (∀ e, r = .error (.build e) → e.stage ≠ "deploy" →
        ∀ l, IsDestination layout s (.ofString modules) (.ofString shared) l →
          ¬ IsScaffold layout s l → s'.files.get? l = s.files.get? l) ∧
      ∀ e, r = .error (.build e) → e.stage ∈ readingStages → s'.files = s.files := by
  obtain ⟨r, s', h⟩ := exists_ends (run layout host tools extra) s
  refine ⟨r, s', h, ?_⟩
  obtain ⟨hfiles, -⟩ | ⟨i, u, done, hnames, hfilled, hinstalls, hdone, hstage⟩ :=
    run_course h htidy hserves hlinks
  · rw [hfiles]
    simp
  have built {l : Location} (hscaffold : ¬ IsScaffold layout s l)
      (houtput : ¬ IsOutput layout s l) : u.get? l = s.files.get? l := by
    have hothers := hfilled.others l fun p hp hresolve => houtput ⟨i, hnames, p, hp, hresolve⟩
    exact hothers.trans (made_get? hscaffold)
  refine ⟨fun l hscaffold houtput hdestination => ?_, fun e he hlast l hdestination hscaffold => ?_,
    fun e he hreading => ?_⟩
  · refine (hinstalls.get?_of_unnamed fun f hf hresolve => ?_).trans (built hscaffold houtput)
    exact hdestination ⟨i, hnames, _, hdone f hf, hfilled.ways.symm.resolve_eq_ok hresolve⟩
  · obtain rfl := (hstage e he).2 hlast
    cases hinstalls
    exact built hscaffold (hdestination.not_isOutput hlayout hmodules hshared)
  · exact absurd hreading (hstage e he).1

theorem mem_entries_of_get? {t : FileTree} {l : Location} {e : Entry} (h : t.get? l = some e)
    (hne : e.isDirectory = false) : (l, e) ∈ t.entries := by
  unfold get? at h
  split at h
  · obtain rfl : _ = e := Option.some.inj h
    cases hne
  · obtain ⟨before, after, hentries, -⟩ := List.lookup_eq_some_iff.mp h
    simp [hentries]

theorem endsAtNoLink_of_no_links {t : FileTree}
    (h : ∀ e ∈ t.entries, ∀ target, e.2 ≠ .link target) (path : Path) : t.EndsAtNoLink path :=
  fun _ target _ hget => h _ (mem_entries_of_get? hget rfl) target rfl

/-- Making the build directory adds nothing but directories. -/
theorem mem_entries_of_made {l : Location} {e : Entry} (h : (made layout s).get? l = some e)
    (hne : e.isDirectory = false) : (l, e) ∈ s.files.entries := by
  obtain hsame | ⟨-, hdirectory, -⟩ :=
    (ensureDirectory_scaffold s.files layout.buildDir).cases l
  · exact mem_entries_of_get? (hsame.symm.trans h) hne
  · obtain rfl : _ = e := Option.some.inj (hdirectory.symm.trans h)
    cases hne

theorem made_endsAtNoLink (h : ∀ e ∈ s.files.entries, ∀ target, e.2 ≠ .link target) (path : Path) :
    (made layout s).EndsAtNoLink path :=
  fun _ target _ hget => h _ (mem_entries_of_made hget rfl) target rfl

theorem NoOutputLink.of_no_links
    (h : ∀ e ∈ s.files.entries, ∀ target, e.2 ≠ .link target) : NoOutputLink layout s :=
  fun _ _ _ _ => made_endsAtNoLink h _

/-- A project in `/p` with the given SQL definition, on a host with modules in `/m` and shared data
    in `/s`. -/
def sampleState (script : String) : BuildState where
  files := {
    entries := [
      (["p"], .directory 0o755),
      (["p", "Cargo.toml"], .file
        "[package]\nname = \"foo\"\ndescription = \"d\"\nversion = \"1\"\n".toUTF8 0o644),
      (["p", "sql"], .directory 0o755),
      (["p", "sql", "foo.sql"], .file script.toUTF8 0o644),
      (["m"], .directory 0o755),
      (["s"], .directory 0o755),
      (["s", "extension"], .directory 0o755)]
    current := [] }
  calls := []
  messages := []

/-- The layout of that project for one build profile. -/
def sampleLayout (profile : String) : ProjectLayout where
  directory := ⟨.root, ["p"]⟩
  manifest := ⟨.root, ["p", "Cargo.toml"]⟩
  script := ⟨.root, ["p", "sql", "foo.sql"]⟩
  libraryDir := Path.child ⟨.root, ["p", "target"]⟩ profile
  buildDir := (Path.child ⟨.root, ["p", "target"]⟩ profile).child Project.buildSubdirectory

/-- The commands on that host: asked for a directory they name it, and otherwise they write the file
    that they are to make. -/
def sampleRunner : Command.Runner :=
  .writing "ELF".toUTF8 fun args =>
    if args.getLast? = some HostLayout.modulesFlag then "/m\n" else "/s\n"

/-- The tools of that host. -/
def sampleTools : Toolchain.Tools := ⟨sampleRunner, Command.defaultCompiler, none⟩

/-- The directories of that host, which are asked for. -/
def sampleHost : HostLayout := .queried "pg_config" sampleRunner none

theorem sampleRunner_tidy : sampleRunner.Tidy := Command.Runner.writing_tidy _ _

theorem sampleHost_serves : sampleHost.Serves (.ofString "/m") (.ofString "/s") := by
  refine HostLayout.queried_serves sampleRunner_tidy ?_ ?_
  · rintro earlier t outcome p ⟨⟩ hp
    have hanswer : HostLayout.directory? "/m\n" = some (.ofString "/m") := by decide
    exact Option.some.inj (hp.symm.trans hanswer)
  · rintro earlier t outcome p ⟨⟩ hp
    have hanswer : HostLayout.directory? "/s\n" = some (.ofString "/s") := by decide
    exact Option.some.inj (hp.symm.trans hanswer)

theorem sampleState_noOutputLink (layout : ProjectLayout) (script : String) :
    NoOutputLink layout (sampleState script) :=
  .of_no_links (by simp [sampleState])

theorem Outside.of_resolve {t : FileTree} {other directory : Path} {d m : Location}
    (hd : (t.resolve .target other.toString).toOption = some d)
    (hm : (t.resolve .target directory.toString).toOption = some m) (hbelow : ¬ d <+: m) :
    Outside t other directory := by
  intro d' m' hd' hm'
  obtain rfl := resolve_unique (eq_ok_of_toOption hd) hd'
  obtain rfl := resolve_unique (eq_ok_of_toOption hm) hm'
  exact hbelow

/-- What evaluating a sample project shows: that it is located, and where its build directory, which
    is made first, and two directories of its host are. -/
def Surveyed (profile modules shared : String) (s : BuildState) (d m n : Location) : Prop :=
  (Id.run ((Project.locate (.ofString "/p") profile).run.run s)).1.toOption =
      some (sampleLayout profile) ∧
    ((made (sampleLayout profile) s).resolve .target
      (sampleLayout profile).buildDir.toString).toOption = some d ∧
    ((made (sampleLayout profile) s).resolve .target (Path.ofString modules).toString).toOption =
      some m ∧
    ((made (sampleLayout profile) s).resolve .target (Path.ofString shared).toString).toOption =
      some n

instance (profile modules shared : String) (s : BuildState) (d m n : Location) :
    Decidable (Surveyed profile modules shared s d m n) :=
  inferInstanceAs (Decidable (_ ∧ _ ∧ _ ∧ _))

namespace Surveyed

variable {profile modules shared : String} {d m n : Location}

theorem located (h : Surveyed profile modules shared s d m n) : (sampleLayout profile).Located :=
  ⟨.ofString "/p", profile, s, exists_ends_ok h.1⟩

theorem outside_modules (h : Surveyed profile modules shared s d m n) (hbelow : ¬ d <+: m) :
    Outside (made (sampleLayout profile) s) (sampleLayout profile).buildDir (.ofString modules) :=
  .of_resolve h.2.1 h.2.2.1 hbelow

theorem outside_shared (h : Surveyed profile modules shared s d m n) (hbelow : ¬ d <+: n) :
    Outside (made (sampleLayout profile) s) (sampleLayout profile).buildDir (.ofString shared) :=
  .of_resolve h.2.1 h.2.2.2 hbelow

end Surveyed

theorem sampleState_surveyed : Surveyed "release" "/m" "/s/extension" (sampleState "")
    ["p", "target", "release", "postgres"] ["m"] ["s", "extension"] := by decide +kernel

theorem run_touches_only_sample :
    ∃ r s', Ends (run (sampleLayout "release") sampleHost sampleTools none) (sampleState "") r s' ∧
      (∀ l, ¬ IsScaffold (sampleLayout "release") (sampleState "") l →
        ¬ IsOutput (sampleLayout "release") (sampleState "") l →
        ¬ IsDestination (sampleLayout "release") (sampleState "") (.ofString "/m") (.ofString "/s") l →
        s'.files.get? l = (sampleState "").files.get? l) ∧
      (∀ e, r = .error (.build e) → e.stage ≠ "deploy" →
        ∀ l, IsDestination (sampleLayout "release") (sampleState "") (.ofString "/m") (.ofString "/s") l →
          ¬ IsScaffold (sampleLayout "release") (sampleState "") l →
          s'.files.get? l = (sampleState "").files.get? l) ∧
      ∀ e, r = .error (.build e) → e.stage ∈ readingStages → s'.files = (sampleState "").files := by
  have hsurveyed := sampleState_surveyed
  have hshared : (Path.ofString "/s").child Deployment.extensionSubdirectory =
      .ofString "/s/extension" := by decide
  refine run_touches_only hsurveyed.located sampleRunner_tidy sampleHost_serves
    (sampleState_noOutputLink _ _) (hsurveyed.outside_modules (by decide)) ?_ none
  rw [hshared]
  exact hsurveyed.outside_shared (by decide)

/-- The conditions on a run with nothing said about the directory `extension`, and with links looked
    for before the build directory is made. -/
structure LooselyApart (layout : ProjectLayout) (host : HostLayout) (tools : Toolchain.Tools)
    (s : BuildState) (modules shared : String) : Prop where
  located : layout.Located
  tidy : tools.runner.Tidy
  serves : host.Serves (.ofString modules) (.ofString shared)
  noOutputLink : ∀ i, Names layout s i → ∀ name ∈ i.outputNames,
    s.files.EndsAtNoLink (layout.buildDir.child name)
  modules : Outside (made layout s) layout.buildDir (.ofString modules)
  shared : Outside (made layout s) layout.buildDir (.ofString shared)

/-- A run that fails while it compiles and changes a destination all the same. -/
def ChangesDestination (layout : ProjectLayout) (host : HostLayout) (tools : Toolchain.Tools)
    (s : BuildState) (modules shared : String) : Prop :=
  ∃ e s' l, Ends (run layout host tools none) s (.error (.build e)) s' ∧ e.stage = "compile" ∧
    IsDestination layout s (.ofString modules) (.ofString shared) l ∧
    s'.files.get? l ≠ s.files.get? l

/-- Tools with which every command fails and changes nothing. -/
def failingTools : Toolchain.Tools :=
  ⟨fun _ c t => (.ok ⟨c.args, 1, "", ""⟩, t), Command.defaultCompiler, none⟩

/-- A host with known directories. -/
def knownHost (modules shared : String) : HostLayout :=
  .fixed ⟨.ofString "/i", .ofString modules, .ofString shared⟩

/-- What the manifest of the project in `/p` names. -/
def sampleIdentity : Identity :=
  ⟨"foo", "d", "1", by decide, by decide, by decide, by decide, by decide⟩

/-- The project in `/p` where the server keeps its extensions in the build directory. -/
def linkedState : BuildState :=
  { sampleState "" with
    files := (sampleState "").files.put ["s", "extension"] (.link "/p/target/release/postgres") }

/-- The project in `/p` with a link to a file `/v` in the build directory of the profile `y`. -/
def detourState : BuildState :=
  { sampleState "" with
    files := ((((sampleState "").files.put ["p", "target"] (.directory 0o755)).put
      ["p", "target", "y"] (.directory 0o755)).put
      ["p", "target", "y", "postgres"] (.directory 0o755)).put
      ["p", "target", "y", "postgres", "foo.c"] (.link "/v") |>.put ["v"] (.file .empty 0o644) }

/-- Where there is no build directory there is no link in it. -/
theorem endsAtNoLink_of_missing {profile name : String}
    (hmissing : (s.files.resolve .target (sampleLayout profile).buildDir.toString).toOption = none)
    (hname : PlainName name) :
    s.files.EndsAtNoLink ((sampleLayout profile).buildDir.child name) := by
  intro l target hl
  have hne : (sampleLayout profile).buildDir.toString ≠ "" :=
    buildSubdirectory_plainName.toString_child_ne_empty
  obtain ⟨k, hk, -⟩ := resolve_child hname hne hl
  simp [hk, Except.toOption] at hmissing

theorem Surveyed.looselyApart {profile modules shared : String} {d m n : Location}
    (h : Surveyed profile modules shared s d m n) (htidy : tools.runner.Tidy)
    (hlinks : ∀ name, PlainName name →
      s.files.EndsAtNoLink ((sampleLayout profile).buildDir.child name))
    (houtside : ¬ d <+: m ∧ ¬ d <+: n) :
    LooselyApart (sampleLayout profile) (knownHost modules shared) tools s modules shared where
  located := h.located
  tidy := htidy
  serves := HostLayout.fixed_serves _
  noOutputLink _ _ _ hname := hlinks _ (Identity.plainName_of_mem_outputNames hname)
  modules := h.outside_modules houtside.1
  shared := h.outside_shared houtside.2

theorem failingTools_tidy : failingTools.runner.Tidy :=
  ⟨fun _ _ _ => rfl, fun _ _ _ => rfl, fun _ _ _ _ => .inl rfl⟩

/-- The stage in which a result failed. -/
def stage? {α : Type} : Except Failure α → Option String
  | .error (.build e) => some e.stage
  | _ => none

/-- What evaluating a run shows: that it fails in one stage and changed an entry. -/
def FailsChanging (stage : String) (m : Build PipelineResult) (s : BuildState) (l : Location) :
    Prop :=
  stage? (Id.run (m.run.run s)).1 = some stage ∧
    (Id.run (m.run.run s)).2.files.get? l ≠ s.files.get? l

instance (stage : String) (m : Build PipelineResult) (s : BuildState) (l : Location) :
    Decidable (FailsChanging stage m s l) :=
  inferInstanceAs (Decidable (_ ∧ _))

theorem FailsChanging.exists_ends {stage : String} {m : Build PipelineResult} {l : Location}
    (h : FailsChanging stage m s l) :
    ∃ e s', Ends m s (.error (.build e)) s' ∧ e.stage = stage ∧
      s'.files.get? l ≠ s.files.get? l := by
  obtain ⟨r, s', hends⟩ := Build.exists_ends m s
  unfold FailsChanging at h
  rw [hends] at h
  obtain ⟨hstage, hentry⟩ := h
  cases r with
  | ok a => cases hstage
  | error failure =>
    cases failure with
    | build e => exact ⟨e, s', hends, by simpa [stage?] using hstage, hentry⟩
    | fault fault => cases hstage

theorem changesDestination_of {modules shared : String} {i : Identity} {p : Path} {l : Location}
    (hp : p ∈ Deployment.destinations i (.ofString modules) (.ofString shared))
    (hnames : (Id.run ((Manifest.readIdentity layout.manifest).run.run s)).1.toOption = some i)
    (hresolve : ((made layout s).resolve .link p.toString).toOption = some l)
    (hfails : FailsChanging "compile" (run layout host tools none) s l) :
    ChangesDestination layout host tools s modules shared := by
  obtain ⟨e, s', hends, hstage, hentry⟩ := hfails.exists_ends
  have hdestination : IsDestination layout s (.ofString modules) (.ofString shared) l :=
    ⟨i, exists_ends_ok hnames, p, hp, eq_ok_of_toOption hresolve⟩
  exact ⟨e, s', l, hends, hstage, hdestination, hentry⟩

theorem sampleState_evaluated :
    Surveyed "foo.so" "/p/target" "/s" (sampleState "") ["p", "target", "foo.so", "postgres"]
      ["p", "target"] ["s"] ∧
    ((sampleState "").files.resolve .target (sampleLayout "foo.so").buildDir.toString).toOption =
      none ∧
    (Id.run ((Manifest.readIdentity (sampleLayout "foo.so").manifest).run.run
      (sampleState ""))).1.toOption = some sampleIdentity ∧
    ((made (sampleLayout "foo.so") (sampleState "")).resolve .link
      (Path.toString ⟨.root, ["p", "target", "foo.so"]⟩)).toOption =
        some ["p", "target", "foo.so"] ∧
    FailsChanging "compile" (run (sampleLayout "foo.so") (knownHost "/p/target" "/s") failingTools
      none) (sampleState "") ["p", "target", "foo.so"] := by
  decide +kernel

/-- A destination can be a directory on the way to the build directory. -/
theorem destination_on_the_way :
    LooselyApart (sampleLayout "foo.so") (knownHost "/p/target" "/s") failingTools (sampleState "")
        "/p/target" "/s" ∧
      ChangesDestination (sampleLayout "foo.so") (knownHost "/p/target" "/s") failingTools
        (sampleState "") "/p/target" "/s" := by
  obtain ⟨hsurveyed, hmissing, hnames, hresolve, hfails⟩ := sampleState_evaluated
  exact ⟨hsurveyed.looselyApart failingTools_tidy (fun _ => endsAtNoLink_of_missing hmissing)
    (by decide), changesDestination_of (by decide) hnames hresolve hfails⟩

theorem linkedState_evaluated :
    Surveyed "release" "/m" "/s" linkedState ["p", "target", "release", "postgres"] ["m"] ["s"] ∧
    (linkedState.files.resolve .target (sampleLayout "release").buildDir.toString).toOption =
      none ∧
    (Id.run ((Manifest.readIdentity (sampleLayout "release").manifest).run.run
      linkedState)).1.toOption = some sampleIdentity ∧
    ((made (sampleLayout "release") linkedState).resolve .link
      (Path.toString ⟨.root, ["s", "extension", "foo.control"]⟩)).toOption =
        some ["p", "target", "release", "postgres", "foo.control"] ∧
    FailsChanging "compile" (run (sampleLayout "release") (knownHost "/m" "/s") failingTools none)
      linkedState ["p", "target", "release", "postgres", "foo.control"] := by
  decide +kernel

/-- The directory `extension` can be a link into the build directory. -/
theorem destination_behind_link :
    LooselyApart (sampleLayout "release") (knownHost "/m" "/s") failingTools linkedState "/m" "/s" ∧
      ChangesDestination (sampleLayout "release") (knownHost "/m" "/s") failingTools linkedState
        "/m" "/s" := by
  obtain ⟨hsurveyed, hmissing, hnames, hresolve, hfails⟩ := linkedState_evaluated
  exact ⟨hsurveyed.looselyApart failingTools_tidy (fun _ => endsAtNoLink_of_missing hmissing)
    (by decide), changesDestination_of (by decide) hnames hresolve hfails⟩

/-- A run that changes an entry that is none of those it may change. -/
def ChangesAnother (layout : ProjectLayout) (host : HostLayout) (tools : Toolchain.Tools)
    (s : BuildState) (modules shared : String) : Prop :=
  ∃ e s' l, Ends (run layout host tools none) s (.error (.build e)) s' ∧ ¬ IsScaffold layout s l ∧
    ¬ IsOutput layout s l ∧ ¬ IsDestination layout s (.ofString modules) (.ofString shared) l ∧
    s'.files.get? l ≠ s.files.get? l

theorem detourState_evaluated :
    Surveyed "x/../y" "/m" "/s" detourState ["p", "target", "y", "postgres"] ["m"] ["s"] ∧
    (detourState.files.resolve .target (sampleLayout "x/../y").buildDir.toString).toOption =
      none ∧
    (Id.run ((Manifest.readIdentity (sampleLayout "x/../y").manifest).run.run
      detourState)).1.toOption = some sampleIdentity ∧
    (∀ p ∈ outputs (sampleLayout "x/../y") sampleIdentity ++
        Deployment.destinations sampleIdentity (.ofString "/m") (.ofString "/s"),
      ((made (sampleLayout "x/../y") detourState).resolve .link p.toString).toOption ≠
        some ["v"]) ∧
    FailsChanging "compile" (run (sampleLayout "x/../y") (knownHost "/m" "/s") failingTools none)
      detourState ["v"] := by
  decide +kernel

/-- A link in the place of a file that is made can come into view only when the build directory is
    made. -/
theorem write_behind_link :
    LooselyApart (sampleLayout "x/../y") (knownHost "/m" "/s") failingTools detourState "/m" "/s" ∧
      ChangesAnother (sampleLayout "x/../y") (knownHost "/m" "/s") failingTools detourState
        "/m" "/s" := by
  obtain ⟨hsurveyed, hmissing, hidentity, hoff, hfails⟩ := detourState_evaluated
  refine ⟨hsurveyed.looselyApart failingTools_tidy (fun _ => endsAtNoLink_of_missing hmissing)
    (by decide), ?_⟩
  have hnames : Names (sampleLayout "x/../y") detourState sampleIdentity := exists_ends_ok hidentity
  obtain ⟨e, s', hends, -, hentry⟩ := hfails.exists_ends
  refine ⟨e, s', _, hends, ?_, ?_, ?_, hentry⟩
  · rintro ⟨hnone, -⟩
    exact absurd hnone (by decide)
  · rintro ⟨i, hi, p, hp, hresolve⟩
    obtain rfl := hi.unique hnames
    exact hoff p (List.mem_append_left _ hp) (by rw [hresolve]; rfl)
  · rintro ⟨i, hi, p, hp, hresolve⟩
    obtain rfl := hi.unique hnames
    exact hoff p (List.mem_append_right _ hp) (by rw [hresolve]; rfl)

/-- The exceptions are needed: a run that fails can have changed a destination on the way to the
    build directory or behind a link into it, and the target of a link that came into view when the
    build directory was made. -/
theorem run_touches_more :
    (LooselyApart (sampleLayout "foo.so") (knownHost "/p/target" "/s") failingTools (sampleState "")
        "/p/target" "/s" ∧
      ChangesDestination (sampleLayout "foo.so") (knownHost "/p/target" "/s") failingTools
        (sampleState "") "/p/target" "/s") ∧
    (LooselyApart (sampleLayout "release") (knownHost "/m" "/s") failingTools linkedState
        "/m" "/s" ∧
      ChangesDestination (sampleLayout "release") (knownHost "/m" "/s") failingTools linkedState
        "/m" "/s") ∧
    LooselyApart (sampleLayout "x/../y") (knownHost "/m" "/s") failingTools detourState
        "/m" "/s" ∧
      ChangesAnother (sampleLayout "x/../y") (knownHost "/m" "/s") failingTools detourState
        "/m" "/s" :=
  ⟨destination_on_the_way, destination_behind_link, write_behind_link⟩

end Pipeline

end NativeExtension

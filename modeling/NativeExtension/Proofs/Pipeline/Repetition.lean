import NativeExtension.Proofs.Files.Directory
import NativeExtension.Proofs.Pipeline.Freshness
import NativeExtension.Proofs.Pipeline.Independence
import NativeExtension.Proofs.Pipeline.Traces

namespace NativeExtension

open Build FileTree

namespace Pipeline

/-- Places that a run does not disturb itself: what it makes and installs is none of the files that it
    reads, bars no way to a file that it makes or installs, and is settled. -/
structure Places.Undisturbed (places : Places) (sources : List Path) (t : FileTree) : Prop
    extends Settled places t where
  sources : ∀ p ∈ sources, ∀ l, t.resolve .target p.toString = .ok l →
    ¬ Spot t places.outputs places.destinations l
  texts : ∀ text, places.Uses t text → ∀ aim m, t.Bars aim text m →
    ¬ Spot t places.outputs places.destinations m

/-- A project whose build directory can be made and whose runs do not disturb each other. -/
structure Repeatable (layout : ProjectLayout) (modules shared : Path) (s : BuildState) : Prop where
  located : layout.Located
  directory : (s.files.ensureDirectory layout.buildDir).1 = .ok ()
  current : s.files.Standing s.files.current
  undisturbed : ∀ i, Names layout s i → (places layout i modules shared).Undisturbed
    [layout.manifest, layout.script, Command.archivePath layout.libraryDir i] (made layout s)

/-- What a run leaves is to other runs as if it were not there. -/
theorem Places.Traces.leftovers {places : Places} {sources : List Path} {t u : FileTree}
    (h : places.Traces t u) (hcurrent : t.Standing t.current)
    (hundisturbed : places.Undisturbed sources t) (harchive : places.archive ∈ sources) :
    places.Leftovers t u where
  toTraces := h
  current := hcurrent
  texts text htext aim := by
    obtain ⟨m, hm⟩ | hsame := bars_or_resolve_eq t aim text
    · have hspot := hundisturbed.texts text htext aim m hm
      rw [hm.resolve, (hm.sameWays h.ways).resolve, (h.entries m).resolve_right hspot]
    · exact hsame u h.ways
  archive := hundisturbed.sources _ harchive

/-- What a run reads is where it was and as it was after another. -/
theorem Places.Traces.find {places : Places} {sources : List Path} {t u : FileTree} {p : Path}
    {x : Location × Entry} (h : places.Traces t u) (hundisturbed : places.Undisturbed sources t)
    (hp : p ∈ sources) (hfind : t.find p.toString = .ok x) : u.find p.toString = .ok x := by
  obtain ⟨l, e⟩ := x
  obtain ⟨hresolve, hget⟩ := find_eq_ok_iff.mp hfind
  have hspot := hundisturbed.sources p hp l hresolve
  exact find_eq_ok_iff.mpr
    ⟨h.ways.resolve_eq_ok hresolve, ((h.entries l).resolve_right hspot).trans hget⟩

variable {layout : ProjectLayout} {host : HostLayout} {tools : Toolchain.Tools}
  {modules shared : Path} {s s' : BuildState} {i : Identity}

theorem Names.exists_text (h : Names layout s i) :
    ∃ text, s.files.readText layout.manifest = .ok text := by
  obtain ⟨s₁, h⟩ := h
  obtain ⟨result, s₂, hlook, h⟩ := ends_bind_ok_iff.mp h
  obtain ⟨text, s₃, hread, -⟩ := ends_bind_ok_iff.mp h
  obtain ⟨hresult, rfl⟩ := ends_look_iff.mp hlook
  obtain ⟨rfl, -⟩ := orRead_eq_ok hread
  exact ⟨text, by simpa using hresult.symm⟩

/-- The build directory is there once it was made, and making it again changes nothing. -/
theorem Repeatable.ensureDirectory_eq (h : Repeatable layout modules shared s) {u : FileTree}
    (hways : SameWays (made layout s) u) : u.ensureDirectory layout.buildDir = (.ok (), u) := by
  have hslash : withoutSlashes layout.buildDir.toString = layout.buildDir.toString := by
    rw [h.located.buildDir_eq]
    exact buildSubdirectory_plainName.withoutSlashes_child _
  obtain ⟨hnul, l, mode, hfind⟩ :=
    isDirectory_iff.mp (isDirectory_of_ensureDirectory hslash h.directory)
  obtain ⟨hresolve, hget⟩ := find_eq_ok_iff.mp hfind
  obtain ⟨mode', hdirectory, -⟩ :=
    wayOf_eq_onward.mp ((hways.ways l).trans (wayOf_eq_onward.mpr ⟨mode, hget, rfl⟩))
  have hfound : u.find layout.buildDir.toString = .ok (l, .directory mode') :=
    find_eq_ok_iff.mpr ⟨hways.resolve_eq_ok hresolve, hdirectory⟩
  exact FileTree.ensureDirectory_eq hslash (isDirectory_iff.mpr ⟨hnul, l, mode', hfound⟩)

theorem Repeatable.differInLeftovers (h : Repeatable layout modules shared s)
    (hnames : Names layout s i) {sql : String} (hsql : s.files.readText layout.script = .ok sql)
    {u : FileTree} (htraces : (places layout i modules shared).Traces (made layout s) u) :
    DifferInLeftovers layout modules shared s { s with files := u } := by
  have hundisturbed := h.undisturbed i hnames
  -- the directory was made by the run that left the traces, so making it again changes nothing
  have hmake := h.ensureDirectory_eq htraces.ways
  have hcurrent : (made layout s).Standing (made layout s).current := by
    have hscaffold := ensureDirectory_scaffold s.files layout.buildDir
    have hstands := h.current.keepsWays hscaffold.keepsWays
    rwa [← hscaffold.current] at hstands
  have kept {p : Path} {text : String} (hread : s.files.readText p = .ok text)
      (hp : p ∈ [layout.manifest, layout.script, Command.archivePath layout.libraryDir i]) :
      u.find p.toString = s.files.find p.toString := by
    obtain ⟨x, hx, hmade⟩ := made_find hread
    rw [hx]
    exact htraces.find hundisturbed hp hmade
  obtain ⟨text, htext⟩ := hnames.exists_text
  refine ⟨rfl, rfl, kept htext (by simp), kept hsql (by simp), ?_, fun j hj => ?_⟩
  · rw [hmake, h.directory]
  · obtain rfl := hj.unique hnames
    have hmade : made layout { s with files := u } = u := by
      unfold made
      rw [hmake]
    rw [hmade]
    exact htraces.leftovers hcurrent hundisturbed (by simp [places])

/-- A run does not depend on what earlier runs left: it ends alike, and with the same contents at every
    path, where it begins with other leftovers, and so it does after any other run. -/
theorem run_independent (hrun : ∀ i, Names layout s i →
      Reproducible layout host tools modules shared i) (extra : Option String) :
    (∀ s', DifferInLeftovers layout modules shared s s' →
      EndsAlike (fun _ => SameContent) (run layout host tools extra) s s') ∧
    ∀ host₀ tools₀ extra₀ r s₁, Repeatable layout modules shared s →
      host₀.Serves modules shared → tools₀.runner.Tidy → tools₀.runner.KeepsRights →
      Ends (run layout host₀ tools₀ extra₀) s r s₁ →
      EndsAlike (fun _ => SameContent) (run layout host tools extra) s
        { s with files := s₁.files } := by
  refine ⟨fun s' h => run_endsAlike hrun h extra,
    fun host₀ tools₀ extra₀ r s₁ h hserves htidy hkeeps hends => ?_⟩
  obtain hsame | ⟨i, sql, hnames, hsql, htraces⟩ := run_traces hends htidy hkeeps hserves
    fun i hi => (h.undisturbed i hi).toSettled
  · rw [hsame]
    exact .refl fun _ _ _ => rfl
  · exact run_endsAlike hrun (h.differInLeftovers hnames hsql htraces) extra

/-- The places of the sample project. -/
def samplePlaces : Places :=
  places (sampleLayout "release") sampleIdentity (.ofString "/m") (.ofString "/s")

theorem sampleTree_linkFree : sampleTree.LinkFree := by
  intro l target hget
  have hmem := mem_entries_of_get? hget rfl
  simp [sampleTree, sampleState, put] at hmem

theorem of_resolve_eq_ok {t : FileTree} {aim : Aim} {paths : List Path} {P : Location → Prop}
    (h : ∀ p ∈ paths, ∀ l ∈ (t.resolve aim p.toString).toOption, P l) {p : Path} {l : Location}
    (hp : p ∈ paths) (hl : t.resolve aim p.toString = .ok l) : P l :=
  h p hp l (by simp [hl, Except.toOption])

theorem sample_output {p : Path} {l : Location} (hp : p ∈ samplePlaces.outputs)
    (hl : sampleTree.resolve .newFile p.toString = .ok l) :
    l.take 4 = ["p", "target", "release", "postgres"] :=
  of_resolve_eq_ok (P := fun l => l.take 4 = _) (by decide +kernel) hp hl

theorem sample_destination {p : Path} {l : Location} (hp : p ∈ samplePlaces.destinations)
    (hl : sampleTree.resolve .link p.toString = .ok l) :
    l ∈ [["m", "foo.so"], ["s", "extension", "foo--1.sql"], ["s", "extension", "foo.control"]] :=
  of_resolve_eq_ok (P := fun l => l ∈ _) (by decide +kernel) hp hl

theorem sample_source {p : Path} {l : Location}
    (hp : p ∈ [(sampleLayout "release").manifest, (sampleLayout "release").script,
      samplePlaces.archive])
    (hl : sampleTree.resolve .target p.toString = .ok l) :
    l ∈ [["p", "Cargo.toml"], ["p", "sql", "foo.sql"], ["p", "target", "release", "libfoo.a"]] :=
  of_resolve_eq_ok (P := fun l => l ∈ _) (by decide +kernel) hp hl

/-- The directories in which files of the sample project are made and installed. -/
def sampleDirectories : List Path :=
  [(sampleLayout "release").buildDir, .ofString "/m",
    (Path.ofString "/s").child Deployment.extensionSubdirectory]

theorem sample_directory {directory : Path} (h : directory ∈ sampleDirectories) :
    directory.toString ≠ "" ∧
      ∃ d, sampleTree.find directory.toString = .ok (d, .directory 0o755) := by
  have hdirectories : ∀ directory ∈ sampleDirectories, directory.toString ≠ "" ∧
      (sampleTree.find directory.toString).toOption.map Prod.snd = some (.directory 0o755) := by
    decide +kernel
  obtain ⟨hempty, hfound⟩ := hdirectories directory h
  obtain ⟨⟨d, e⟩, hfind, rfl⟩ := Option.map_eq_some_iff.mp hfound
  exact ⟨hempty, d, eq_ok_of_toOption hfind⟩

theorem samplePlaces_undisturbed : samplePlaces.Undisturbed
    [(sampleLayout "release").manifest, (sampleLayout "release").script, samplePlaces.archive]
    sampleTree where
  links _ _ _ _ _ hget := absurd hget (sampleTree_linkFree _ _)
  apart p hp q hq l hmade hdestination := by
    have hbelow := sample_output hp hmade
    have hother := sample_destination hq hdestination
    simp only [List.mem_cons, List.not_mem_nil, or_false] at hother
    obtain rfl | rfl | rfl := hother <;> simp at hbelow
  sources p hp l hl hspot := by
    have hsource := sample_source hp hl
    simp only [List.mem_cons, List.not_mem_nil, or_false] at hsource
    obtain ⟨q, hq, hmade⟩ | ⟨q, hq, hdestination⟩ := hspot
    · have hbelow := sample_output hq hmade
      obtain rfl | rfl | rfl := hsource <;> simp at hbelow
    · have hother := sample_destination hq hdestination
      obtain rfl | rfl | rfl := hsource <;> simp at hother
  texts text htext aim m hbars _ := by
    have open' {directory : Path} {name : String} (hdirectory : directory ∈ sampleDirectories)
        (hname : PlainName name) : ¬ sampleTree.Bars aim (directory.child name).toString m := by
      obtain ⟨hempty, d, hfind⟩ := sample_directory hdirectory
      exact not_bars_child sampleTree_linkFree hname hempty hfind
    cases htext with
    | output hp =>
      obtain ⟨name, hname, rfl⟩ := List.mem_map.mp hp
      exact open' (.head _) (Identity.plainName_of_mem_outputNames hname) hbars
    | destination hp =>
      obtain ⟨directory, hdirectory, name, hname, rfl⟩ :=
        Deployment.exists_directory_of_mem_destinations hp
      exact open' (.tail _ hdirectory) (Identity.plainName_of_mem_installedNames hname) hbars
    | staging hp n =>
      obtain ⟨directory, hdirectory, name, hname, rfl⟩ :=
        Deployment.exists_directory_of_mem_destinations hp
      have hsame : ∀ directory ∈ sampleDirectories.tail,
          (Path.join ⟨.root, sampleTree.current⟩ directory).collapse = directory := by
        decide +kernel
      have hplain := Identity.plainName_of_mem_installedNames hname
      rw [stagingPath_child _ hplain, hsame directory hdirectory] at hbars
      exact open' (.tail _ hdirectory) (stagingName_plainName hplain _) hbars

theorem sampleState_repeatable : Repeatable (sampleLayout "release") (.ofString "/m")
    (.ofString "/s") (sampleState sampleScript) where
  located := sampleState_surveyed.located
  directory := by rw [sampleState_made]
  current := .root _
  undisturbed i hi := by
    obtain rfl := hi.unique sampleState_names
    rw [made, sampleState_made]
    exact samplePlaces_undisturbed

theorem sampleRunner_keepsRights : sampleRunner.KeepsRights :=
  Command.Runner.writing_keepsRights _ _

theorem sampleRunner_determined (inputs : List String) : sampleRunner.Determined inputs :=
  Command.Runner.writing_determined ..

theorem sample_reproducible (i : Identity) :
    Reproducible (sampleLayout "release") sampleHost sampleTools (.ofString "/m") (.ofString "/s")
      i where
  tidy := sampleRunner_tidy
  determined := sampleRunner_determined _
  serves := sampleHost_serves
  steady := HostLayout.queried_steady (sampleRunner_determined _)

/-- The sample project with an old generated source in its build directory and an old library among
    the modules of the server. -/
def leftoverState : BuildState :=
  { sampleState sampleScript with
    files := (sampleTree.put ["p", "target", "release", "postgres", "foo.c"]
      (.file "old".toUTF8 0o644)).put ["m", "foo.so"] (.file "old".toUTF8 0o400) }

theorem leftoverState_differs : DifferInLeftovers (sampleLayout "release") (.ofString "/m")
    (.ofString "/s") (sampleState sampleScript) leftoverState := by
  have hsql : (sampleState sampleScript).files.readText (sampleLayout "release").script =
      .ok sampleScript := eq_ok_of_toOption (by decide +kernel)
  have hsource : sampleTree.resolve .newFile
      ((sampleLayout "release").buildDir.child sampleIdentity.sourceName).toString =
        .ok ["p", "target", "release", "postgres", "foo.c"] :=
    eq_ok_of_toOption (by decide +kernel)
  have hmodule : sampleTree.resolve .link
      ((Path.ofString "/m").child sampleIdentity.moduleName).toString = .ok ["m", "foo.so"] :=
    eq_ok_of_toOption (by decide +kernel)
  have hfree : sampleTree.get? ["p", "target", "release", "postgres", "foo.c"] = none ∧
      sampleTree.mayChange ["p", "target", "release", "postgres", "foo.c"] = true ∧
      sampleTree.get? ["m", "foo.so"] = none := by decide +kernel
  have hsourceTraces := (Places.Traces.refl samplePlaces sampleTree).put
    (.inl ⟨_, List.mem_map_of_mem sampleIdentity.sourceName_mem, hsource⟩) hfree.1 "old".toUTF8
    (.inl ⟨hfree.2.1, rfl⟩)
  have hleft : (sampleTree.put ["p", "target", "release", "postgres", "foo.c"]
      (.file "old".toUTF8 0o644)).get? ["m", "foo.so"] = none := by
    rw [get?_put_of_ne (by decide)]
    exact hfree.2.2
  have htraces : samplePlaces.Traces sampleTree leftoverState.files :=
    hsourceTraces.put (.inr ⟨_, .head _, hmodule⟩) hleft "old".toUTF8
      (.inr fun p hp hl => by simpa using sample_output hp hl)
  have hmade : made (sampleLayout "release") (sampleState sampleScript) = sampleTree := by
    rw [made, sampleState_made]
  rw [← hmade] at htraces
  exact sampleState_repeatable.differInLeftovers sampleState_names hsql htraces

theorem run_independent_sample :
    ∃ result t,
      Ends (run (sampleLayout "release") sampleHost sampleTools none) (sampleState sampleScript)
        (.ok result) t ∧
      (∃ t', Ends (run (sampleLayout "release") sampleHost sampleTools none) leftoverState
        (.ok result) t' ∧ SameContent t.files t'.files) ∧
      (∃ r s₁ t', Ends (run (sampleLayout "release") sampleHost failingTools none)
          (sampleState sampleScript) r s₁ ∧
        Ends (run (sampleLayout "release") sampleHost sampleTools none)
          { sampleState sampleScript with files := s₁.files } (.ok result) t' ∧
        SameContent t.files t'.files) ∧
      ∃ t', Ends (run (sampleLayout "release") sampleHost sampleTools none)
          { sampleState sampleScript with files := t.files } (.ok result) t' ∧
        SameContent t.files t'.files := by
  obtain ⟨result, t, ht, -⟩ := sampleState_run
  have same {s' : BuildState} (h : EndsAlike (fun _ => SameContent)
      (run (sampleLayout "release") sampleHost sampleTools none) (sampleState sampleScript) s') :
      ∃ t', Ends (run (sampleLayout "release") sampleHost sampleTools none) s' (.ok result) t' ∧
        SameContent t.files t'.files := by
    obtain ⟨r, u, u', hu, hu', hsame⟩ := h
    obtain ⟨rfl, rfl⟩ := hu.unique ht
    exact ⟨u', hu', (hsame result rfl).files⟩
  obtain ⟨r, s₁, hfailed⟩ := exists_ends
    (run (sampleLayout "release") sampleHost failingTools none) (sampleState sampleScript)
  obtain ⟨hleft, hearlier⟩ := run_independent (s := sampleState sampleScript)
    (fun i _ => sample_reproducible i) none
  have hagain {host₀ : HostLayout} {tools₀ : Toolchain.Tools} {r : Except Failure PipelineResult}
      {s₁ : BuildState} (hserves : host₀.Serves (.ofString "/m") (.ofString "/s"))
      (htidy : tools₀.runner.Tidy) (hkeeps : tools₀.runner.KeepsRights)
      (hends : Ends (run (sampleLayout "release") host₀ tools₀ none) (sampleState sampleScript) r
        s₁) :=
    same (hearlier host₀ tools₀ none r s₁ sampleState_repeatable hserves htidy hkeeps hends)
  obtain ⟨t', ht'⟩ := hagain sampleHost_serves failingTools_tidy (fun _ _ t l => .refl t l) hfailed
  exact ⟨result, t, ht, same (hleft leftoverState leftoverState_differs), ⟨r, s₁, t', hfailed, ht'⟩,
    hagain sampleHost_serves sampleRunner_tidy sampleRunner_keepsRights ht⟩

theorem not_endsAlike_of_failure? {α : Type} {m : Build α} {Q : α → FileTree → FileTree → Prop}
    (h : failure? (Id.run (m.run.run s)).1 ≠ failure? (Id.run (m.run.run s')).1) :
    ¬ EndsAlike Q m s s' := by
  rintro ⟨r, t, t', ht, ht', -⟩
  rw [ht, ht'] at h
  exact h rfl

/-- A location with nothing at it at which a run makes or installs a file, and which is that of no
    file that it reads. -/
structure Vacant (layout : ProjectLayout) (modules shared : Path) (s : BuildState) (l : Location) :
    Prop where
  free : s.files.get? l = none
  spot : ∃ i, Names layout s i ∧
    Spot (made layout s) (outputs layout i) (Deployment.destinations i modules shared) l ∧
    ∀ p ∈ [layout.manifest, layout.script, Command.archivePath layout.libraryDir i],
      (made layout s).resolve .target p.toString ≠ .ok l

/-- What evaluating shows of a location that is vacant: the path that leads there is one at which a
    run makes or installs a file. -/
def ShownVacant (layout : ProjectLayout) (modules shared : Path) (s : BuildState) (i : Identity)
    (p : Path) (l : Location) : Prop :=
  (Id.run ((Manifest.readIdentity layout.manifest).run.run s)).1.toOption = some i ∧
    ((p ∈ outputs layout i ∧ ((made layout s).resolve .newFile p.toString).toOption = some l) ∨
      p ∈ Deployment.destinations i modules shared ∧
        ((made layout s).resolve .link p.toString).toOption = some l) ∧
    s.files.get? l = none ∧
    ∀ p ∈ [layout.manifest, layout.script, Command.archivePath layout.libraryDir i],
      ((made layout s).resolve .target p.toString).toOption ≠ some l

instance (layout : ProjectLayout) (modules shared : Path) (s : BuildState) (i : Identity)
    (p : Path) (l : Location) : Decidable (ShownVacant layout modules shared s i p l) :=
  inferInstanceAs (Decidable (_ ∧ _ ∧ _ ∧ _))

theorem ShownVacant.vacant {p : Path} {l : Location}
    (h : ShownVacant layout modules shared s i p l) : Vacant layout modules shared s l := by
  obtain ⟨hnames, hspot, hfree, hsources⟩ := h
  refine ⟨hfree, i, exists_ends_ok hnames, ?_, fun p hp hl => hsources p hp (by rw [hl]; rfl)⟩
  obtain ⟨hp, hl⟩ | ⟨hp, hl⟩ := hspot
  · exact .inl ⟨p, hp, eq_ok_of_toOption hl⟩
  · exact .inr ⟨p, hp, eq_ok_of_toOption hl⟩

/-- A run that would end alike but ends otherwise where a file is left in a place of its own. -/
structure Hindered (layout : ProjectLayout) (tools : Toolchain.Tools) (modules shared : String)
    (s : BuildState) (l : Location) (mode : Nat) : Prop where
  reproducible : ∀ i, Reproducible layout (knownHost modules shared) tools (.ofString modules)
    (.ofString shared) i
  vacant : Vacant layout (.ofString modules) (.ofString shared) s l
  differs : ¬ EndsAlike (fun _ => SameContent) (run layout (knownHost modules shared) tools none) s
    { s with files := s.files.put l (.file "old".toUTF8 mode) }

/-- Evaluated in both states, the run ends otherwise. -/
theorem Hindered.of_evaluated {modules shared : String} {p : Path} {l : Location} {mode : Nat}
    (hreproducible : ∀ i, Reproducible layout (knownHost modules shared) tools (.ofString modules)
      (.ofString shared) i)
    (h : ShownVacant layout (.ofString modules) (.ofString shared) s i p l ∧
      failure? (Id.run ((run layout (knownHost modules shared) tools none).run.run s)).1 ≠
        failure? (Id.run ((run layout (knownHost modules shared) tools none).run.run
          { s with files := s.files.put l (.file "old".toUTF8 mode) })).1) :
    Hindered layout tools modules shared s l mode :=
  ⟨hreproducible, h.1.vacant, not_endsAlike_of_failure? h.2⟩

theorem failingTools_determined (inputs : List String) : failingTools.runner.Determined inputs where
  answer _ _ _ _ _ := rfl
  written earlier c t u text outcome _ _ hok hzero := by
    obtain rfl : (⟨c.args, 1, "", ""⟩ : Command.Outcome) = outcome := by
      simpa [failingTools] using hok
    cases hzero

theorem knownHost_reproducible {modules shared : String} (htidy : tools.runner.Tidy)
    (hdetermined : ∀ inputs, tools.runner.Determined inputs) (i : Identity) :
    Reproducible layout (knownHost modules shared) tools (.ofString modules) (.ofString shared) i :=
  ⟨htidy, hdetermined _, HostLayout.fixed_serves _, HostLayout.fixed_steady _ _⟩

/-- A file that is left can shut its place. -/
theorem hindered_by_rights : Hindered (sampleLayout "release") failingTools "/m" "/s"
    builtBeforeState ["p", "target", "release", "postgres", "foo.c"] 0o400 :=
  .of_evaluated (i := sampleIdentity)
    (p := (sampleLayout "release").buildDir.child sampleIdentity.sourceName)
    (knownHost_reproducible failingTools_tidy failingTools_determined) (by decide +kernel)

/-- The project in `/p` with the directory for its builds. -/
def targetState : BuildState :=
  { sampleState "" with files := (sampleState "").files.put ["p", "target"] (.directory 0o755) }

/-- A file that is left can stand in the way to the build directory. -/
theorem hindered_on_the_way : Hindered (sampleLayout "foo.so") failingTools "/p/target" "/s"
    targetState ["p", "target", "foo.so"] 0o644 :=
  .of_evaluated (i := sampleIdentity)
    (p := (Path.ofString "/p/target").child sampleIdentity.moduleName)
    (knownHost_reproducible failingTools_tidy failingTools_determined) (by decide +kernel)

/-- A file that is left can stand in the way to a file that is installed. -/
theorem hindered_before_descriptor : Hindered (sampleLayout "release") sampleTools
    "/s/extension/foo.control" "/s" (sampleState "") ["s", "extension", "foo.control"] 0o644 :=
  .of_evaluated (i := sampleIdentity)
    (p := ((Path.ofString "/s").child Deployment.extensionSubdirectory).child
      sampleIdentity.controlName)
    (knownHost_reproducible sampleRunner_tidy sampleRunner_determined) (by decide +kernel)

/-- The project in `/p` with a build directory to which its owner may add nothing. -/
def unwritableState : BuildState :=
  { sampleState "" with
    files := (((sampleState "").files.put ["p", "target"] (.directory 0o755)).put
      ["p", "target", "release"] (.directory 0o755)).put
      ["p", "target", "release", "postgres"] (.directory 0o555) }

/-- A file that is left can be one that could not be made. -/
theorem hindered_in_unwritable : Hindered (sampleLayout "release") failingTools "/m" "/s"
    unwritableState ["p", "target", "release", "postgres", "foo--1.sql"] 0o644 :=
  .of_evaluated (i := sampleIdentity)
    (p := (sampleLayout "release").buildDir.child sampleIdentity.scriptName)
    (knownHost_reproducible failingTools_tidy failingTools_determined) (by decide +kernel)

/-- A build directory that is there can be one to which less may be added than to a new one. -/
theorem unwritableState_differs : ¬ EndsAlike (fun _ => SameContent)
    (run (sampleLayout "release") (knownHost "/m" "/s") failingTools none) (sampleState "")
    unwritableState :=
  not_endsAlike_of_failure? (by decide +kernel)

/-- A run that succeeds and then ends otherwise. -/
def EndsOtherwiseAgain (layout : ProjectLayout) (host : HostLayout) (tools : Toolchain.Tools)
    (s : BuildState) : Prop :=
  ∃ result s₁, Ends (run layout host tools none) s (.ok result) s₁ ∧
    ¬ EndsAlike (fun _ => SameContent) (run layout host tools none) s { s with files := s₁.files }

theorem FailsAgain.endsOtherwiseAgain
    (h : FailsAgain (run layout host tools none) s)
    (hfirst : (Id.run ((run layout host tools none).run.run s)).1.toOption.map (·.identity) =
      some i) : EndsOtherwiseAgain layout host tools s := by
  obtain ⟨result, s₁, hends, -⟩ := exists_ends_run hfirst
  refine ⟨result, s₁, hends, not_endsAlike_of_failure? ?_⟩
  unfold FailsAgain at h
  rw [hends] at h ⊢
  exact h.symm

/-- A run can replace a link that it needs itself. -/
theorem endsOtherwise_behind_link : EndsOtherwiseAgain (sampleLayout "release")
    (knownHost "/s/extension/foo.control" "/s") sampleTools descriptorLinkState := by
  obtain ⟨-, -, hloses, hagain⟩ := descriptorLinkState_evaluated
  exact hagain.endsOtherwiseAgain hloses.1

/-- A runner that is determined but for the rights to the files that it makes. -/
structure LooselyDetermined (runner : Command.Runner) (inputs : List String) : Prop where
  answer : ∀ earlier c t u, Command.SameTo inputs c t u →
    (runner earlier c u).1 = (runner earlier c t).1
  written : ∀ earlier c t u text outcome, Command.SameTo inputs c t u →
    Command.output? c.args = some text → (runner earlier c t).1 = .ok outcome → outcome.ok = true →
    ∃ l content, t.resolve .newFile text = .ok l ∧
      (∃ mode, (runner earlier c t).2.get? l = some (.file content mode)) ∧
      ∃ mode, (runner earlier c u).2.get? l = some (.file content mode)

/-- Where a command writes the file that it is to make. -/
def placeOf? (c : Command.Call) (t : FileTree) : Option Location := do
  let text ← Command.output? c.args
  let l ← (t.resolve .newFile text).toOption
  if (t.writtenRights l).isSome then some l else none

/-- Commands that write the same to each file that they are to make, and shut one that was there. -/
def shuttingRunner : Command.Runner := fun _ c t =>
  match placeOf? c t with
  | some l =>
    let mode := if t.get? l = none then newFileMode else 0
    (.ok ⟨c.args, 0, "", ""⟩, t.put l (.file "ELF".toUTF8 mode))
  | none => (.ok ⟨c.args, if Command.output? c.args = none then 0 else 1, "", ""⟩, t)

/-- The tools of a host with such commands. -/
def shuttingTools : Toolchain.Tools := ⟨shuttingRunner, Command.defaultCompiler, none⟩

theorem fileOrNothing_of_writtenRights {t : FileTree} {l : Location}
    (h : (t.writtenRights l).isSome) : Command.FileOrNothing (t.get? l) := by
  unfold writtenRights at h
  split at h
  next hget => exact .inl hget
  next content mode hget => exact .inr ⟨content, mode, hget⟩
  next => cases h

theorem placeOf?_eq_some {c : Command.Call} {t : FileTree} {l : Location}
    (h : placeOf? c t = some l) : ∃ text, Command.output? c.args = some text ∧
      t.resolve .newFile text = .ok l ∧ Command.FileOrNothing (t.get? l) := by
  obtain ⟨text, houtput, h⟩ := Option.bind_eq_some_iff.mp h
  obtain ⟨k, hk, h⟩ := Option.bind_eq_some_iff.mp h
  obtain ⟨hrights, hkl⟩ := Option.ite_none_right_eq_some.mp h
  obtain rfl : k = l := by simpa using hkl
  exact ⟨text, houtput, eq_ok_of_toOption hk, fileOrNothing_of_writtenRights hrights⟩

theorem placeOf?_congr {inputs : List String} {c : Command.Call} {t u : FileTree}
    (h : Command.SameTo inputs c t u) : placeOf? c u = placeOf? c t := by
  unfold placeOf?
  cases houtput : Command.output? c.args with
  | none => rfl
  | some text =>
    simp only [Option.bind_eq_bind, Option.bind_some, h.resolve text houtput]
    cases hresolve : t.resolve .newFile text with
    | error e => rfl
    | ok l =>
      obtain ⟨hplain, hchange⟩ | ⟨rights, ht, hu⟩ := h.place text l houtput hresolve
      · simp [Except.toOption, writtenRights_eq hplain hchange]
      · simp [Except.toOption, ht, hu]

theorem shuttingRunner_tidy : shuttingRunner.Tidy := by
  refine ⟨fun earlier c t => ?_, fun earlier c t => ?_, fun earlier c t l => ?_⟩
  · unfold shuttingRunner
    split <;> rfl
  · unfold shuttingRunner
    split <;> rfl
  · unfold shuttingRunner
    cases hplace : placeOf? c t with
    | none => exact .inl rfl
    | some k =>
      obtain ⟨text, houtput, hresolve, hfree⟩ := placeOf?_eq_some hplace
      by_cases hl : l = k
      · subst hl
        exact .inr ⟨text, houtput, hresolve, hfree,
          .inr ⟨_, _, get?_put_self (ne_root_of_stop hfree.stop) _⟩⟩
      · exact .inl (get?_put_of_ne hl _)

theorem shuttingRunner_looselyDetermined (inputs : List String) :
    LooselyDetermined shuttingRunner inputs := by
  refine ⟨fun earlier c t u hsame => ?_, fun earlier c t u text outcome hsame houtput hok hzero => ?_⟩
  · unfold shuttingRunner
    rw [placeOf?_congr hsame]
    split <;> rfl
  · unfold shuttingRunner at hok ⊢
    rw [placeOf?_congr hsame]
    cases hplace : placeOf? c t with
    | none =>
      obtain rfl : (⟨c.args, 1, "", ""⟩ : Command.Outcome) = outcome := by
        simpa [hplace, houtput] using hok
      cases hzero
    | some l =>
      obtain ⟨text', houtput', hresolve, hfree⟩ := placeOf?_eq_some hplace
      obtain rfl : text' = text := by simpa [houtput] using houtput'.symm
      have hl := ne_root_of_stop hfree.stop
      exact ⟨l, _, hresolve, ⟨_, get?_put_self hl _⟩, _, get?_put_self hl _⟩

/-- A library that is shut is not installed again. -/
theorem endsOtherwise_with_rights : EndsOtherwiseAgain (sampleLayout "release")
    (knownHost "/m" "/s") shuttingTools (sampleState "") := by
  have hevaluated :
      (Id.run ((run (sampleLayout "release") (knownHost "/m" "/s") shuttingTools none).run.run
        (sampleState ""))).1.toOption.map (·.identity) = some sampleIdentity ∧
      FailsAgain (run (sampleLayout "release") (knownHost "/m" "/s") shuttingTools none)
        (sampleState "") := by decide +kernel
  exact hevaluated.2.endsOtherwiseAgain hevaluated.1

/-- The conditions are needed: a file that an earlier run left can be one that may not be written or
    could not be made, or stand in the way to the build directory or to a file that is installed, the
    build directory can be there with other rights than a new one, and an earlier run can have
    replaced a link that it needed or have shut what it made. -/
theorem run_depends_on_leftovers :
    (Hindered (sampleLayout "release") failingTools "/m" "/s" builtBeforeState
        ["p", "target", "release", "postgres", "foo.c"] 0o400 ∧
      Hindered (sampleLayout "foo.so") failingTools "/p/target" "/s" targetState
        ["p", "target", "foo.so"] 0o644 ∧
      Hindered (sampleLayout "release") sampleTools "/s/extension/foo.control" "/s" (sampleState "")
        ["s", "extension", "foo.control"] 0o644 ∧
      Hindered (sampleLayout "release") failingTools "/m" "/s" unwritableState
        ["p", "target", "release", "postgres", "foo--1.sql"] 0o644) ∧
    ¬ EndsAlike (fun _ => SameContent)
      (run (sampleLayout "release") (knownHost "/m" "/s") failingTools none) (sampleState "")
      unwritableState ∧
    EndsOtherwiseAgain (sampleLayout "release") (knownHost "/s/extension/foo.control" "/s")
      sampleTools descriptorLinkState ∧
    (shuttingRunner.Tidy ∧ ∀ inputs, LooselyDetermined shuttingRunner inputs) ∧
      EndsOtherwiseAgain (sampleLayout "release") (knownHost "/m" "/s") shuttingTools
        (sampleState "") :=
  ⟨⟨hindered_by_rights, hindered_on_the_way, hindered_before_descriptor, hindered_in_unwritable⟩,
    unwritableState_differs, endsOtherwise_behind_link,
    ⟨shuttingRunner_tidy, shuttingRunner_looselyDetermined⟩, endsOtherwise_with_rights⟩

end Pipeline

end NativeExtension

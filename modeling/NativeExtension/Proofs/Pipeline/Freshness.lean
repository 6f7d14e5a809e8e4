import NativeExtension.Proofs.Pipeline.Coherence

namespace NativeExtension

open Build FileTree

/-- A command that was run in one tree, succeeded, and left another. -/
def Command.Runner.Ran (runner : Command.Runner) (c : Command.Call) (t u : FileTree) : Prop :=
  ∃ earlier outcome, runner earlier c t = (.ok outcome, u) ∧ outcome.ok = true

theorem Command.Runner.Tidy.writes_of_ran {runner : Command.Runner} {args : List String}
    {limit : Option Seconds} {t u : FileTree} {path : Path} (h : runner.Tidy)
    (hran : runner.Ran ⟨args, limit⟩ t u) (houtput : Command.output? args = some path.toString)
    (hlink : t.EndsAtNoLink path) : WritesOnly [path] t u := by
  obtain ⟨earlier, outcome, hran, -⟩ := hran
  have hwrites : WritesOnly [path] t (runner earlier ⟨args, limit⟩ t).2 := h.writes houtput hlink
  rwa [hran] at hwrites

/-- A path that leads to no entry. -/
def FileTree.Absent (t : FileTree) (path : Path) : Prop :=
  ∀ l, t.resolve .target path.toString = .ok l → t.get? l = none

section Absent

variable {paths : List Path} {t u : FileTree} {path : Path}

/-- Where nothing was there is nothing until it is written. -/
theorem FileTree.WritesOnly.absent (h : WritesOnly paths t u) (hlink : t.EndsAtNoLink path)
    (hapart : ∀ p ∈ paths, t.Apart path p) (habsent : t.Absent path) : u.Absent path := by
  intro l hl
  have ht := h.ways.symm.resolve_eq_ok hl
  exact (h.get?_of_apart hapart (hlink.resolve_link ht)).trans (habsent l ht)

theorem FileTree.WritesOnly.reads_before {content : ByteArray} {mode : Nat}
    (h : WritesOnly [] t u) (hreads : u.Reads path content mode) : t.Reads path content mode := by
  have before {l : Location} {e : Entry} (hfind : u.find path.toString = .ok (l, e)) :
      t.find path.toString = .ok (l, e) := by
    obtain ⟨hresolve, hget⟩ := find_eq_ok_iff.mp hfind
    have hsame := h.others l (by simp)
    exact find_eq_ok_iff.mpr ⟨h.ways.symm.resolve_eq_ok hresolve, hsame.symm.trans hget⟩
  obtain ⟨l, hfile | ⟨hdevice, hrest⟩⟩ := hreads
  · exact ⟨l, .inl (before hfile)⟩
  · exact ⟨l, .inr ⟨before hdevice, hrest⟩⟩

end Absent

section Commands

variable {s s' : BuildState} {tools : Toolchain.Tools} {buildDir libraryDir : Path} {i : Identity}

theorem Build.Ends.call_eq {runner : Command.Runner} {c : Command.Call}
    {answer : Except Fault Command.Outcome} (h : Ends (call runner c) s (.ok answer) s') :
    runner (s.calls.map (·.call)) c s.files = (answer, s'.files) := by
  change (Except.ok _, _) = (_, _) at h
  simp only [Prod.mk.injEq, Except.ok.injEq] at h
  obtain ⟨rfl, rfl⟩ := h
  rfl

theorem Build.runTool_ran {runner : Command.Runner} {args : List String} {stage : ToolStage}
    {limit : Option Seconds} {outcome : Command.Outcome}
    (h : Ends (runTool runner args stage limit) s (.ok outcome) s') :
    runner.Ran ⟨args, limit⟩ s.files s'.files := by
  obtain ⟨_, s₁, hsay, h⟩ := ends_bind_ok_iff.mp h
  obtain ⟨-, rfl⟩ := ends_say_iff.mp hsay
  obtain ⟨answer, s₂, hcall, h⟩ := ends_bind_ok_iff.mp h
  obtain ⟨hresult, rfl⟩ := ends_ofResult_iff.mp h
  obtain ⟨rfl, hok⟩ := toolResult_eq_ok hresult.symm
  exact ⟨_, outcome, hcall.call_eq, hok⟩

theorem Toolchain.compileObject_ran {source includeDir object : Path}
    (h : Ends (compileObject tools buildDir source i includeDir libraryDir) s (.ok object) s') :
    object = buildDir.child i.objectName ∧ s'.files.isFile object = .ok true ∧
      tools.runner.Ran ⟨Command.compile tools.compiler source object i includeDir libraryDir,
        tools.limit⟩ s.files s'.files := by
  obtain ⟨outcome, s₁, htool, h⟩ := ends_bind_ok_iff.mp h
  obtain ⟨-, _, -, ⟨⟩⟩ | ⟨-, -, ⟨⟩⟩ | ⟨hfile, h⟩ := need_cases h
  obtain ⟨⟨⟩, rfl⟩ := ends_pure_iff.mp h
  exact ⟨rfl, hfile, runTool_ran htool⟩

/-- The link command starts in the files that linking starts with. -/
theorem Toolchain.linkSharedLibrary_ran {object library : Path} {extra : Option String}
    (h : Ends (linkSharedLibrary tools buildDir object i libraryDir extra) s (.ok library) s') :
    tools.runner.Ran ⟨Command.link tools.compiler object (buildDir.child i.sharedLibraryName)
      (Command.archivePath libraryDir i) extra, tools.limit⟩ s.files s'.files := by
  obtain ⟨-, _, -, ⟨⟩⟩ | ⟨-, -, ⟨⟩⟩ | ⟨-, h⟩ := need_cases h
  obtain ⟨outcome, s₁, htool, h⟩ := ends_bind_ok_iff.mp h
  obtain ⟨-, rfl⟩ := ends_pure_iff.mp h
  exact runTool_ran htool

end Commands

/-- A host that was asked for its directories in one tree, which left another. -/
def HostLayout.Asked (host : HostLayout) (modules shared : Path) (t u : FileTree) : Prop :=
  ∃ s s₁ s₂, s.files = t ∧ Ends host.modules s (.ok modules) s₁ ∧
    Ends host.shared s₁ (.ok shared) s₂ ∧ s₂.files = u

theorem HostLayout.Serves.writes_of_asked {host : HostLayout} {modules shared p q : Path}
    {t u : FileTree} (h : host.Serves modules shared) (hasked : host.Asked p q t u) :
    WritesOnly [] t u := by
  obtain ⟨s, s₁, s₂, rfl, hmodules, hshared, rfl⟩ := hasked
  exact (h.modules.files hmodules).trans (h.shared.files hshared)

namespace Deployment

theorem deploy_ok {artifacts : BuildArtifacts} {i : Identity} {host : HostLayout}
    {s s' : BuildState} {deployed : List DeployedFile}
    (h : Ends (deploy artifacts i host) s (.ok deployed) s') :
    ∃ modules shared u, host.Asked modules shared s.files u ∧
      Installs u (targets artifacts i modules shared) s'.files := by
  obtain ⟨modules, s₁, hmodules, h⟩ := ends_bind_ok_iff.mp h
  obtain ⟨shared, s₂, hshared, h⟩ := ends_bind_ok_iff.mp h
  obtain ⟨-, ⟨-, hinstalls⟩ | ⟨_, _, _, _, -, ⟨⟩, -⟩⟩ := installAll_cases h
  exact ⟨modules, shared, s₂.files, ⟨s, s₁, s₂, rfl, hmodules, hshared, rfl⟩, hinstalls⟩

/-- The file that is installed first is installed with what its source gave before any was. -/
theorem Installs.placed_head {t u : FileTree} {f : DeployedFile} {rest : List DeployedFile}
    (h : Installs t (f :: rest) u) (hapart : ∀ g ∈ rest, t.Apart f.destination g.destination) :
    ∃ content mode, t.Reads f.source content mode ∧ Placed t u f.destination content := by
  cases h with
  | @cons _ v _ _ _ head tail =>
    obtain ⟨d, content, mode, hreads, hresolve, hget, -, hways, -⟩ := install_eq_ok head
    have hkept : u.get? d = v.get? d := by
      refine tail.get?_of_unnamed fun g hg hd => ?_
      exact hapart g hg d hresolve (hways.resolve_eq_ok hd (.inl rfl))
    refine ⟨content, mode, hreads, d, mode, hresolve, hkept.trans hget, fun m hm => ?_⟩
    have ht := (tail.keepsWays.trans hways).resolve_eq_ok hm (.inl rfl)
    exact resolve_unique ht hresolve

end Deployment

/-- The names of the files that are written before a command runs. -/
def Identity.preparedNames (i : Identity) : List String :=
  [i.scriptName, i.controlName, i.sourceName]

namespace Pipeline

/-- The commands of a build: the tree in which the compile command ran, what it left, in which the
    link command ran, and what that left. -/
structure Built (layout : ProjectLayout) (tools : Toolchain.Tools) (extra : Option String)
    (i : Identity) (before compiled linked : FileTree) : Prop where
  compile : ∃ headers, tools.runner.Ran
    ⟨Command.compile tools.compiler (layout.buildDir.child i.sourceName)
      (layout.buildDir.child i.objectName) i headers layout.libraryDir, tools.limit⟩ before compiled
  object : compiled.isFile (layout.buildDir.child i.objectName) = .ok true
  link : tools.runner.Ran
    ⟨Command.link tools.compiler (layout.buildDir.child i.objectName)
      (layout.buildDir.child i.sharedLibraryName) (Command.archivePath layout.libraryDir i) extra,
      tools.limit⟩ compiled linked

/-- A run that finds nothing in the places of the object file and of the shared library once the
    build directory is made, on a host where a command changes nothing but what it is to make. -/
structure StartsClean (layout : ProjectLayout) (host : HostLayout) (tools : Toolchain.Tools)
    (s : BuildState) : Prop where
  tidy : tools.runner.Tidy
  serves : ∃ modules shared, host.Serves modules shared
  links : NoOutputLink layout s
  absent : ∀ i, Names layout s i → ∀ name ∈ [i.objectName, i.sharedLibraryName],
    (made layout s).Absent (layout.buildDir.child name)

variable {layout : ProjectLayout} {host : HostLayout} {tools : Toolchain.Tools}
  {extra : Option String} {found : Found} {s s' : BuildState}

/-- Filling the build directory runs the two commands, and before the first of them writes the
    metadata and the generated source only. -/
theorem fill_built {artifacts : BuildArtifacts}
    (h : Ends (fill layout host tools extra found) s (.ok artifacts) s') :
    ∃ before compiled, Built layout tools extra found.identity before compiled s'.files ∧
      artifacts.sharedLibrary = layout.buildDir.child found.identity.sharedLibraryName ∧
      ∀ modules shared t, host.Serves modules shared →
        (s.files.ensureDirectory layout.buildDir).2 = t →
        (∀ name ∈ found.identity.outputNames, t.EndsAtNoLink (layout.buildDir.child name)) →
        WritesOnly (found.identity.preparedNames.map layout.buildDir.child) t before := by
  obtain ⟨⟨script, control⟩, s₁, hmetadata, h⟩ := ends_bind_ok_iff.mp h
  obtain ⟨source, s₂, hsource, h⟩ := ends_bind_ok_iff.mp h
  obtain rfl := Toolchain.writeSource_ok hsource
  obtain ⟨headers, s₃, hheaders, h⟩ := ends_bind_ok_iff.mp h
  obtain ⟨object, s₄, hcompile, h⟩ := ends_bind_ok_iff.mp h
  obtain ⟨rfl, hobject, hcompiled⟩ := Toolchain.compileObject_ran hcompile
  obtain ⟨library, s₅, hlink, h⟩ := ends_bind_ok_iff.mp h
  obtain rfl := Toolchain.linkSharedLibrary_ok hlink
  obtain ⟨⟨⟩, rfl⟩ := ends_pure_iff.mp h
  refine ⟨s₃.files, s₄.files, ⟨⟨headers, hcompiled⟩, hobject,
    Toolchain.linkSharedLibrary_ran hlink⟩, rfl, fun modules shared t hserves hmade hlinks => ?_⟩
  have prepared {name : String} (hname : name ∈ found.identity.preparedNames) :
      layout.buildDir.child name ∈ found.identity.preparedNames.map layout.buildDir.child :=
    List.mem_map_of_mem hname
  have hwritten := Toolchain.writeMetadata_writes hmetadata hmade
    ⟨prepared (.head _), hlinks _ found.identity.scriptName_mem⟩
    ⟨prepared (.tail _ (.head _)), hlinks _ found.identity.controlName_mem⟩
  have hgenerated := (Toolchain.writeSource_preserves (prepared (.tail _ (.tail _ (.head _))))
    (hlinks _ found.identity.sourceName_mem) _).files hsource hwritten
  exact hserves.headers.preserves.files hheaders hgenerated

/-- What a clean start leaves absent: the object file until the compile command makes it, and the
    shared library until the link command does. -/
theorem StartsClean.absent_until_built {i : Identity} {before compiled linked : FileTree}
    (h : StartsClean layout host tools s) (hnames : Names layout s i)
    (hbuilt : Built layout tools extra i before compiled linked)
    (hwrites : WritesOnly (i.preparedNames.map layout.buildDir.child) (made layout s) before) :
    before.Absent (layout.buildDir.child i.objectName) ∧
      compiled.Absent (layout.buildDir.child i.sharedLibraryName) := by
  have unwritten {name : String} (hname : name ∈ i.outputNames)
      (hending : Identity.ending name ∉ [['l', 'q'], ['l', 'o'], ['c', '.']])
      (habsent : (made layout s).Absent (layout.buildDir.child name)) :
      before.Absent (layout.buildDir.child name) :=
    hwrites.absent (h.links i hnames name hname)
      (apart_others _ hname (by simp [Identity.preparedNames, Identity.outputNames])
        (by simpa [Identity.preparedNames] using hending)) habsent
  have hobject := unwritten i.objectName_mem (by simp) (h.absent i hnames _ (by simp))
  have hlibrary := unwritten i.sharedLibraryName_mem (by simp) (h.absent i hnames _ (by simp))
  refine ⟨hobject, ?_⟩
  -- compiling makes the object file only, which is in another place
  obtain ⟨headers, hran⟩ := hbuilt.compile
  have hlink {name : String} (hname : name ∈ i.outputNames) :
      before.EndsAtNoLink (layout.buildDir.child name) :=
    (h.links i hnames name hname).of_keepsWays hwrites.ways.symm.keepsWays
  have hcompiled : WritesOnly ([i.objectName].map layout.buildDir.child) before compiled :=
    h.tidy.writes_of_ran hran (Command.output?_compile ..) (hlink i.objectName_mem)
  exact hcompiled.absent (hlink i.sharedLibraryName_mem)
    (apart_others _ i.sharedLibraryName_mem (by simp [Identity.outputNames]) (by simp)) hlibrary

/-- Which files a run uses that succeeds. The link command is given the object file as the compile
    command left it, and the library is installed as it is found once the host was asked for its
    directories, which is how the link command left it unless asking changes it. That the two
    commands themselves wrote these files follows only where there was nothing in their places to
    begin with: of the object file it is checked that it is there, and of the library not even
    that. -/
theorem run_installs_built {result : PipelineResult}
    (h : Ends (run layout host tools extra) s (.ok result) s') :
    ∃ before compiled linked asked modules shared content mode,
      Names layout s result.identity ∧
      Built layout tools extra result.identity before compiled linked ∧
      host.Asked modules shared linked asked ∧
      asked.Reads (layout.buildDir.child result.identity.sharedLibraryName) content mode ∧
      Deployment.Placed asked s'.files (modules.child result.identity.moduleName) content ∧
      (StartsClean layout host tools s →
        before.Absent (layout.buildDir.child result.identity.objectName) ∧
        compiled.Absent (layout.buildDir.child result.identity.sharedLibraryName) ∧
        linked.Reads (layout.buildDir.child result.identity.sharedLibraryName) content mode) := by
  rw [run_eq] at h
  obtain ⟨found, s₁, hread, h⟩ := ends_bind_ok_iff.mp h
  have hfiles : s₁.files = s.files := (read_preserves (· = s.files) layout).files hread rfl
  have hnames := (read_ok hread).1
  obtain ⟨artifacts, s₂, hfill, h⟩ := ends_bind_ok_iff.mp h
  obtain ⟨before, compiled, hbuilt, hlibrary, hwrites⟩ := fill_built hfill
  obtain ⟨deployed, s₃, hdeploy, h⟩ := ends_bind_ok_iff.mp h
  obtain ⟨modules, shared, asked, hasked, hinstalls⟩ := Deployment.deploy_ok hdeploy
  obtain ⟨_, _, hsay, h⟩ := ends_bind_ok_iff.mp h
  obtain ⟨-, rfl⟩ := ends_say_iff.mp hsay
  obtain ⟨⟨⟩, rfl⟩ := ends_pure_iff.mp h
  have hapart := Deployment.destinations_apart asked found.identity modules shared
  rw [← Deployment.targets_destinations artifacts, List.pairwise_map] at hapart
  obtain ⟨content, mode, hreads, hplaced⟩ := hinstalls.placed_head (List.pairwise_cons.mp hapart).1
  rw [hlibrary] at hreads
  refine ⟨before, compiled, s₂.files, asked, modules, shared, content, mode, hnames, hbuilt, hasked,
    hreads, hplaced, fun hclean => ?_⟩
  obtain ⟨p, q, hserves⟩ := hclean.serves
  have hmade : (s₁.files.ensureDirectory layout.buildDir).2 = made layout s := by
    rw [hfiles]
    rfl
  obtain ⟨hobject, habsent⟩ := hclean.absent_until_built hnames hbuilt
    (hwrites p q _ hserves hmade (hclean.links _ hnames))
  exact ⟨hobject, habsent, (hserves.writes_of_asked hasked).reads_before hreads⟩

theorem sampleState_names :
    Names (sampleLayout "release") (sampleState sampleScript) sampleIdentity := by
  obtain ⟨result, s', hends, hidentity⟩ := sampleState_run
  obtain ⟨_, _, _, _, _, _, _, _, hnames, -⟩ := run_installs_built hends
  exact hidentity ▸ hnames

theorem sampleState_startsClean :
    StartsClean (sampleLayout "release") sampleHost sampleTools (sampleState sampleScript) where
  tidy := sampleRunner_tidy
  serves := ⟨_, _, sampleHost_serves⟩
  links := sampleState_noOutputLink _ _
  absent i hi name hname l hl := by
    obtain rfl := hi.unique sampleState_names
    rw [made, sampleState_made] at hl ⊢
    have hmissing : ∀ name ∈ [sampleIdentity.objectName, sampleIdentity.sharedLibraryName],
        (sampleTree.resolve .target
          ((sampleLayout "release").buildDir.child name).toString).toOption.bind
            sampleTree.get? = none := by decide +kernel
    simpa [hl, Except.toOption] using hmissing name hname

theorem run_installs_built_sample :
    ∃ result s' before compiled linked content mode,
      Ends (run (sampleLayout "release") sampleHost sampleTools none) (sampleState sampleScript)
        (.ok result) s' ∧
      Built (sampleLayout "release") sampleTools none result.identity before compiled linked ∧
      before.Absent ((sampleLayout "release").buildDir.child result.identity.objectName) ∧
      compiled.Absent ((sampleLayout "release").buildDir.child result.identity.sharedLibraryName) ∧
      linked.Reads ((sampleLayout "release").buildDir.child result.identity.sharedLibraryName)
        content mode := by
  obtain ⟨result, s', hends, -⟩ := sampleState_run
  obtain ⟨before, compiled, linked, _, _, _, content, mode, -, hbuilt, -, -, -, hfresh⟩ :=
    run_installs_built hends
  obtain ⟨hobject, hlibrary, hreads⟩ := hfresh sampleState_startsClean
  exact ⟨result, s', before, compiled, linked, content, mode, hends, hbuilt, hobject, hlibrary,
    hreads⟩

/-- Tools with which every command succeeds and changes nothing. -/
def idleTools : Toolchain.Tools :=
  ⟨fun _ c t => (.ok ⟨c.args, 0, "", ""⟩, t), Command.defaultCompiler, none⟩

/-- The project in `/p` with an object file and a shared library of an earlier build. -/
def builtBeforeState : BuildState :=
  { sampleState "" with
    files := (((((sampleState "").files.put ["p", "target"] (.directory 0o755)).put
      ["p", "target", "release"] (.directory 0o755)).put
      ["p", "target", "release", "postgres"] (.directory 0o755)).put
      ["p", "target", "release", "postgres", "foo.o"] (.file "old".toUTF8 0o644)).put
      ["p", "target", "release", "postgres", "libfoo.so"] (.file "old".toUTF8 0o644) }

/-- A clean start is needed: commands that write nothing lead to a run that succeeds and installs
    the library of an earlier one. -/
theorem run_installs_leftover :
    (∀ earlier c t, (idleTools.runner earlier c t).2 = t) ∧
      ∃ result s', Ends (run (sampleLayout "release") (knownHost "/m" "/s") idleTools none)
          builtBeforeState (.ok result) s' ∧
        s'.files.get? ["m", "foo.so"] = some (.file "old".toUTF8 0o644) := by
  refine ⟨fun _ _ _ => rfl, ?_⟩
  have hrun : (Id.run ((run (sampleLayout "release") (knownHost "/m" "/s") idleTools none).run.run
        builtBeforeState)).1.toOption.map (·.identity) = some sampleIdentity ∧
      (Id.run ((run (sampleLayout "release") (knownHost "/m" "/s") idleTools none).run.run
        builtBeforeState)).2.files.get? ["m", "foo.so"] = some (.file "old".toUTF8 0o644) := by
    decide +kernel
  obtain ⟨result, s', hends, -⟩ := exists_ends_run hrun.1
  have hinstalled := hrun.2
  rw [hends] at hinstalled
  exact ⟨result, s', hends, hinstalled⟩

end Pipeline

end NativeExtension

import NativeExtension.Proofs.Control.RoundTrip
import NativeExtension.Proofs.Pipeline.Footprint

namespace NativeExtension

open Build FileTree

theorem Text.Utf8.decode_toUTF8 (s : String) : decode s.toUTF8 = .ok s := by
  have hvalid : s.toUTF8.IsValidUTF8 := s.isValidUTF8
  unfold decode
  rw [String.fromUTF8?, dif_pos hvalid]
  rfl

namespace Toolchain

variable {tools : Tools} {buildDir : Path} {i : Identity} {s s' : BuildState}

theorem linkSharedLibrary_ok {object libraryDir path : Path} {extra : Option String}
    (h : Ends (linkSharedLibrary tools buildDir object i libraryDir extra) s (.ok path) s') :
    path = buildDir.child i.sharedLibraryName := by
  obtain ⟨-, _, -, ⟨⟩⟩ | ⟨-, -, ⟨⟩⟩ | ⟨-, h⟩ := need_cases h
  obtain ⟨_, _, -, h⟩ := ends_bind_ok_iff.mp h
  simpa using (ends_pure_iff.mp h).1

/-- A tidy runner makes no device of the shared library. -/
theorem linkSharedLibrary_endsAtNoDevice {object libraryDir path : Path} {extra : Option String}
    {r : Except Failure Path} (htidy : tools.runner.Tidy)
    (h : Ends (linkSharedLibrary tools buildDir object i libraryDir extra) s r s')
    (hdevice : s.files.EndsAtNoDevice path) : s'.files.EndsAtNoDevice path := by
  have hpreserves : Preserves (EndsAtNoDevice · path)
      (linkSharedLibrary tools buildDir object i libraryDir extra) :=
    .need (.bind (.runTool _ fun _ _ => htidy.endsAtNoDevice) fun _ => .pure _)
  exact hpreserves.files h hdevice

end Toolchain

namespace Pipeline

/-- What a filled build directory holds that was made in `t`. -/
structure Filled (layout : ProjectLayout) (found : Found) (t u : FileTree) : Prop where
  writes : WritesOnly (outputs layout found.identity) t u
  control : u.Holds (layout.buildDir.child found.identity.controlName)
    (Control.render found.identity).toUTF8
  source : u.Holds (layout.buildDir.child found.identity.sourceName) found.wrapper.toUTF8
  script : ∃ content mode, t.Reads layout.script content mode ∧
    u.Holds (layout.buildDir.child found.identity.scriptName) content
  library : u.EndsAtNoDevice (layout.buildDir.child found.identity.sharedLibraryName)

/-- A file that a build makes is none of the others that it makes. -/
theorem apart_others {directory : Path} {i : Identity} {t : FileTree} {name : String}
    (names : List String) (hname : name ∈ i.outputNames) (hnames : names ⊆ i.outputNames)
    (hending : Identity.ending name ∉ names.map Identity.ending) :
    ∀ p ∈ names.map directory.child, t.Apart (directory.child name) p := by
  intro p hp
  obtain ⟨other, hother, rfl⟩ := List.mem_map.mp hp
  refine apart_of_ending (Identity.plainName_of_mem_outputNames hname)
    (Identity.plainName_of_mem_outputNames (hnames hother)) ?_ _ _
  exact fun heq => hending (heq ▸ List.mem_map_of_mem hother)

variable {layout : ProjectLayout} {host : HostLayout} {tools : Toolchain.Tools}
  {extra : Option String} {found : Found} {modules shared : Path} {s s' : BuildState}

/-- The build directory stays filled while no more is written than the object file and the shared
    library. -/
theorem Filled.of_writes {t u v : FileTree} {names : List String} (h : Filled layout found t u)
    (hwrites : WritesOnly (names.map layout.buildDir.child) u v)
    (hnames : names ⊆ [found.identity.objectName, found.identity.sharedLibraryName])
    (hlibrary : v.EndsAtNoDevice (layout.buildDir.child found.identity.sharedLibraryName)) :
    Filled layout found t v := by
  have houtputs : names ⊆ found.identity.outputNames :=
    List.Subset.trans hnames (by simp [Identity.outputNames])
  have apart {name : String} (hname : name ∈ found.identity.outputNames)
      (hending : Identity.ending name ∉ [['o', '.'], ['o', 's']]) :
      ∀ p ∈ names.map layout.buildDir.child, u.Apart (layout.buildDir.child name) p := by
    refine apart_others names hname houtputs fun hmem => hending ?_
    simpa using List.map_subset _ hnames hmem
  obtain ⟨content, mode, hreads, hscript⟩ := h.script
  refine ⟨h.writes.trans (hwrites.mono (List.map_subset _ houtputs)), ?_, ?_,
    ⟨content, mode, hreads, ?_⟩, hlibrary⟩
  · exact hwrites.holds (apart found.identity.controlName_mem (by simp)) h.control
  · exact hwrites.holds (apart found.identity.sourceName_mem (by simp)) h.source
  · exact hwrites.holds (apart found.identity.scriptName_mem (by simp)) hscript

theorem Filled.of_asked {t u v : FileTree} (h : Filled layout found t u)
    (hasked : WritesOnly [] u v) : Filled layout found t v := by
  have hnone : WritesOnly (([] : List String).map layout.buildDir.child) u v := hasked
  exact h.of_writes hnone (List.nil_subset _) (hasked.endsAtNoDevice (by simp) h.library)

theorem Filled.endsAtNoLink {t u : FileTree} {name : String} (h : Filled layout found t u)
    (hlink : t.EndsAtNoLink (layout.buildDir.child name)) :
    u.EndsAtNoLink (layout.buildDir.child name) :=
  hlink.of_keepsWays h.writes.ways.symm.keepsWays

section Filling

variable {t : FileTree}
  (hlinks : ∀ name ∈ found.identity.outputNames, t.EndsAtNoLink (layout.buildDir.child name))
  (hdevices : ∀ name ∈ found.identity.outputNames, t.EndsAtNoDevice (layout.buildDir.child name))

include hlinks hdevices

/-- The build directory is filled once the metadata and the generated source are written. -/
theorem prepared_filled {written : Path × Path} {source : Path} {s₁ s₂ : BuildState}
    (hmade : (s.files.ensureDirectory layout.buildDir).2 = t)
    (hmetadata : Ends (Toolchain.writeMetadata layout.buildDir layout.script found.identity) s
      (.ok written) s₁)
    (hwrite : Ends (Toolchain.writeSource layout.buildDir found.identity found.wrapper) s₁
      (.ok source) s₂) :
    written = (layout.buildDir.child found.identity.scriptName,
        layout.buildDir.child found.identity.controlName) ∧
      source = layout.buildDir.child found.identity.sourceName ∧
      Filled layout found t s₂.files := by
  obtain ⟨i, declarations, wrapper⟩ := found
  dsimp only at hlinks hdevices hmetadata hwrite ⊢
  have hmetadataNames : [i.scriptName, i.controlName] ⊆ i.outputNames := by
    simp [Identity.outputNames]
  have hsourceNames : [i.sourceName] ⊆ i.outputNames := by simp [Identity.outputNames]
  -- the metadata
  obtain ⟨hwritten, hcontrol, content, mode, hreads, hscript⟩ :=
    Toolchain.writeMetadata_holds hmetadata hmade hlinks hdevices
  have hfirst : WritesOnly ([i.scriptName, i.controlName].map layout.buildDir.child) t s₁.files :=
    Toolchain.writeMetadata_writes hmetadata hmade ⟨by simp, hlinks _ i.scriptName_mem⟩
      ⟨by simp, hlinks _ i.controlName_mem⟩
  have unwritten {name : String} (hname : name ∈ i.outputNames)
      (hending : Identity.ending name ∉ [['l', 'q'], ['l', 'o']]) :
      s₁.files.EndsAtNoDevice (layout.buildDir.child name) :=
    hfirst.endsAtNoDevice (apart_others _ hname hmetadataNames (by simpa using hending))
      (hdevices name hname)
  -- the generated source
  have hlink : s₁.files.EndsAtNoLink (layout.buildDir.child i.sourceName) :=
    (hlinks _ i.sourceName_mem).of_keepsWays hfirst.ways.symm.keepsWays
  have hsecond : WritesOnly ([i.sourceName].map layout.buildDir.child) s₁.files s₂.files :=
    (Toolchain.writeSource_preserves (.head _) hlink _).files hwrite (.refl _ _)
  obtain rfl := Toolchain.writeSource_ok hwrite
  have hsource := Toolchain.writeSource_holds hwrite hlink (unwritten i.sourceName_mem (by simp))
  have apart {name : String} (hname : name ∈ i.outputNames)
      (hending : Identity.ending name ∉ [['c', '.']]) :
      ∀ p ∈ [i.sourceName].map layout.buildDir.child,
        s₁.files.Apart (layout.buildDir.child name) p :=
    apart_others _ hname hsourceNames (by simpa using hending)
  refine ⟨hwritten, rfl, ?_, ?_, hsource, ⟨content, mode, hreads, ?_⟩, ?_⟩
  · exact (hfirst.mono (List.map_subset _ hmetadataNames)).trans
      (hsecond.mono (List.map_subset _ hsourceNames))
  · exact hsecond.holds (apart i.controlName_mem (by simp)) hcontrol
  · exact hsecond.holds (apart i.scriptName_mem (by simp)) hscript
  · exact hsecond.endsAtNoDevice (apart i.sharedLibraryName_mem (by simp))
      (unwritten i.sharedLibraryName_mem (by simp))

/-- The build directory is filled where filling it succeeds: the commands that run after the source
    is written make the object file and the shared library only. -/
theorem fill_ok {made : BuildArtifacts}
    (h : Ends (fill layout host tools extra found) s (.ok made) s') (htidy : tools.runner.Tidy)
    (hserves : host.Serves modules shared)
    (hmade : (s.files.ensureDirectory layout.buildDir).2 = t) :
    made = .within layout.buildDir found.identity ∧ Filled layout found t s'.files := by
  obtain ⟨written, s₁, hmetadata, h⟩ := ends_bind_ok_iff.mp h
  obtain ⟨source, s₂, hwrite, h⟩ := ends_bind_ok_iff.mp h
  obtain ⟨rfl, rfl, hprepared⟩ := prepared_filled hlinks hdevices hmade hmetadata hwrite
  obtain ⟨headers, s₃, hheaders, h⟩ := ends_bind_ok_iff.mp h
  have hasked := hprepared.of_asked (hserves.headers.files hheaders)
  -- the object file
  obtain ⟨object, s₄, hcompile, h⟩ := ends_bind_ok_iff.mp h
  obtain ⟨_, -, -, hobject, -⟩ := Toolchain.compileObject_cases hcompile
  obtain ⟨-, rfl, -⟩ := hobject object rfl
  have hobjectWrites :
      WritesOnly ([found.identity.objectName].map layout.buildDir.child) s₃.files s₄.files :=
    (Toolchain.compileObject_preserves htidy (.head _)
      (hasked.endsAtNoLink (hlinks _ found.identity.objectName_mem)) ..).files hcompile (.refl _ _)
  have hapart : ∀ p ∈ [found.identity.objectName].map layout.buildDir.child,
      s₃.files.Apart (layout.buildDir.child found.identity.sharedLibraryName) p :=
    apart_others _ found.identity.sharedLibraryName_mem (by simp [Identity.outputNames]) (by simp)
  have hcompiled := hasked.of_writes hobjectWrites (by simp)
    (hobjectWrites.endsAtNoDevice hapart hasked.library)
  -- the shared library, of which a tidy linker makes no device
  obtain ⟨library, s₅, hlink, h⟩ := ends_bind_ok_iff.mp h
  obtain rfl := Toolchain.linkSharedLibrary_ok hlink
  have hlibraryWrites :
      WritesOnly ([found.identity.sharedLibraryName].map layout.buildDir.child) s₄.files s₅.files :=
    (Toolchain.linkSharedLibrary_preserves htidy (.head _)
      (hcompiled.endsAtNoLink (hlinks _ found.identity.sharedLibraryName_mem)) ..).files hlink
      (.refl _ _)
  obtain ⟨hfiles, rfl⟩ := ends_pure_iff.mp h
  exact ⟨by simpa [BuildArtifacts.within] using hfiles, hcompiled.of_writes hlibraryWrites (by simp)
    (Toolchain.linkSharedLibrary_endsAtNoDevice htidy hlink hcompiled.library)⟩

end Filling

/-- What the entries `e` of a descriptor lead to: the library that was linked, and the project's SQL
    definition as it was. -/
structure Described (Holds : Path → ByteArray → Prop) (layout : ProjectLayout) (s : BuildState)
    (modules shared : Path) (result : PipelineResult) (e : Control.Entries) : Prop where
  library : ∃ pathname content, e.lookup "module_pathname" = some pathname ∧
    Holds result.artifacts.sharedLibrary content ∧
    Holds (modules.child (Control.withoutLibraryDirectory pathname ++ ".so")) content
  script : ∃ version content mode, e.lookup "default_version" = some version ∧
    s.files.Reads layout.script content mode ∧
    Holds ((shared.child Deployment.extensionSubdirectory).child
      (result.identity.name ++ "--" ++ version ++ ".sql")) content

/-- An extension whose parts fit together. `Holds` says what is at a path, and `s` is what the run
    began with. -/
structure Coherent (Holds : Path → ByteArray → Prop) (layout : ProjectLayout) (s : BuildState)
    (modules shared : Path) (result : PipelineResult) : Prop where
  names : Names layout s result.identity
  artifacts : result.artifacts = .within layout.buildDir result.identity
  source : ∃ sql tokens, s.files.readText layout.script = .ok sql ∧
    Sql.tokenize sql = .ok tokens ∧ result.declarations = Declaration.ofTokens tokens ∧
    Holds result.artifacts.source
      (Registration.source (result.declarations.map Declaration.functionName)).toUTF8
  descriptor : ∃ octets text,
    Holds ((shared.child Deployment.extensionSubdirectory).child result.identity.controlName)
      octets ∧
    Text.Utf8.decode octets = .ok text ∧
    Described Holds layout s modules shared result (Control.parseEntries text)

theorem Coherent.mono {Holds Holds' : Path → ByteArray → Prop} {result : PipelineResult}
    (h : Coherent Holds layout s modules shared result)
    (himp : ∀ path content, Holds path content → Holds' path content) :
    Coherent Holds' layout s modules shared result := by
  obtain ⟨sql, tokens, htext, htokens, hdeclarations, hsource⟩ := h.source
  obtain ⟨octets, text, hcontrol, hdecode, hlibrary, hscript⟩ := h.descriptor
  obtain ⟨pathname, library, hpathname, hlinked, hmodule⟩ := hlibrary
  obtain ⟨version, content, mode, hversion, hreads, hcopied⟩ := hscript
  exact ⟨h.names, h.artifacts, ⟨sql, tokens, htext, htokens, hdeclarations, himp _ _ hsource⟩,
    octets, text, himp _ _ hcontrol, hdecode,
    ⟨pathname, library, hpathname, himp _ _ hlinked, himp _ _ hmodule⟩,
    version, content, mode, hversion, hreads, himp _ _ hcopied⟩

/-- No file that a build makes has a device in its place, once the build directory is made. -/
def NoOutputDevice (layout : ProjectLayout) (s : BuildState) : Prop :=
  ∀ i, Names layout s i → ∀ name ∈ i.outputNames,
    (made layout s).EndsAtNoDevice (layout.buildDir.child name)

/-- A run that succeeds reads, fills the build directory and installs everything. -/
theorem run_ok {result : PipelineResult}
    (h : Ends (run layout host tools extra) s (.ok result) s') (htidy : tools.runner.Tidy)
    (hserves : host.Serves modules shared) (hlinks : NoOutputLink layout s)
    (hdevices : NoOutputDevice layout s) :
    ∃ found v deployed, (∃ s₁, Ends (read layout) s (.ok found) s₁) ∧
      result = ⟨found.identity, found.declarations, .within layout.buildDir found.identity,
        deployed⟩ ∧
      Filled layout found (made layout s) v ∧
      Deployment.Installs v
        (Deployment.targets (.within layout.buildDir found.identity) found.identity modules shared)
        s'.files := by
  rw [run_eq] at h
  obtain ⟨found, s₁, hread, h⟩ := ends_bind_ok_iff.mp h
  have hfiles : s₁.files = s.files := (read_preserves (· = s.files) layout).files hread rfl
  have hnames := (read_ok hread).1
  have hmade : (s₁.files.ensureDirectory layout.buildDir).2 = made layout s := by
    rw [hfiles]
    rfl
  obtain ⟨artifacts, s₂, hfill, h⟩ := ends_bind_ok_iff.mp h
  obtain ⟨rfl, hfilled⟩ :=
    fill_ok (hlinks _ hnames) (hdevices _ hnames) hfill htidy hserves hmade
  obtain ⟨deployed, s₃, hdeploy, h⟩ := ends_bind_ok_iff.mp h
  obtain ⟨v, done, hasked, hinstalls, -, hall, -⟩ := Deployment.deploy_cases hserves hdeploy
  obtain rfl := hall deployed rfl
  obtain ⟨_, _, hsay, h⟩ := ends_bind_ok_iff.mp h
  obtain ⟨-, rfl⟩ := ends_say_iff.mp hsay
  obtain ⟨hresult, rfl⟩ := ends_pure_iff.mp h
  exact ⟨found, v, deployed, ⟨s₁, hread⟩, by simpa using hresult, hfilled.of_asked hasked,
    hinstalls⟩

/-- The entries of a rendered descriptor name the library, without what is put in front of it, and
    the version. -/
theorem described_of_render {Holds : Path → ByteArray → Prop} {result : PipelineResult}
    (hlines : result.identity.SingleLine)
    (hlibrary : ∃ content, Holds result.artifacts.sharedLibrary content ∧
      Holds (modules.child result.identity.moduleName) content)
    (hscript : ∃ content mode, s.files.Reads layout.script content mode ∧
      Holds ((shared.child Deployment.extensionSubdirectory).child result.identity.scriptName)
        content) :
    Described Holds layout s modules shared result
      (Control.parseEntries (Control.render result.identity)) := by
  rw [Control.parseEntries_render hlines]
  obtain ⟨library, hlinked, hmodule⟩ := hlibrary
  obtain ⟨content, mode, hreads, hcopied⟩ := hscript
  refine ⟨⟨_, library, rfl, hlinked, ?_⟩, _, content, mode, rfl, hreads, hcopied⟩
  rw [Control.withoutLibraryDirectory_append]
  exact hmodule

/-- What a run installs is coherent: each part is placed where the others look for it. -/
theorem run_placed {result : PipelineResult}
    (h : Ends (run layout host tools extra) s (.ok result) s') (htidy : tools.runner.Tidy)
    (hserves : host.Serves modules shared) (hlinks : NoOutputLink layout s)
    (hdevices : NoOutputDevice layout s) (hlines : result.identity.SingleLine) :
    Coherent (Deployment.Placed (made layout s) s'.files) layout s modules shared result := by
  obtain ⟨found, v, deployed, ⟨s₁, hread⟩, rfl, hfilled, hinstalls⟩ :=
    run_ok h htidy hserves hlinks hdevices
  obtain ⟨hnames, sql, tokens, htext, htokens, hdeclarations, hwrapper⟩ := read_ok hread
  obtain ⟨i, declarations, wrapper⟩ := found
  dsimp only at hnames hdeclarations hwrapper hlines hfilled hinstalls
  subst hdeclarations hwrapper
  have hways := hfilled.writes.ways
  have hafter : KeepsWays s'.files (made layout s) :=
    hinstalls.keepsWays.trans hways.symm.keepsWays
  have noLink {name : String} (hname : name ∈ i.outputNames) :
      v.EndsAtNoLink (layout.buildDir.child name) :=
    (hlinks i hnames name hname).of_keepsWays hways.symm.keepsWays
  have kept {name : String} {content : ByteArray}
      (hname : name = i.sourceName ∨ name = i.sharedLibraryName)
      (hholds : v.Holds (layout.buildDir.child name) content) :
      Deployment.Placed (made layout s) s'.files (layout.buildDir.child name) content :=
    (hinstalls.placed_of_holds hholds fun f hf =>
      Deployment.built_apart v layout.buildDir i modules shared hname hf).of_keepsWays
        hways.symm.keepsWays hafter
  have installed {f : DeployedFile} {content : ByteArray}
      (hf : f ∈ Deployment.targets (.within layout.buildDir i) i modules shared)
      (hlink : v.EndsAtNoLink f.source) (hholds : v.Holds f.source content) :
      Deployment.Placed (made layout s) s'.files f.destination content :=
    (hinstalls.placed_target hf hlink hholds).of_keepsWays hways.symm.keepsWays hafter
  -- the library is what the first installation read, as no device is in its place
  have hlibrary : ∃ content, v.Holds (layout.buildDir.child i.sharedLibraryName) content := by
    cases hinstalls with
    | cons head =>
      obtain ⟨_, content, _, hreads, -⟩ := Deployment.install_eq_ok head
      exact ⟨content,
        Deployment.holds_of_reads hreads (noLink i.sharedLibraryName_mem) hfilled.library⟩
  obtain ⟨library, hlinked⟩ := hlibrary
  -- the SQL definition is copied after the build directory is made, which leaves it as it was
  obtain ⟨content, mode, hcopied, hscript⟩ := hfilled.script
  obtain ⟨before, beforeMode, hreads⟩ := exists_reads_of_readText htext
  have hkept := (ensureDirectory_scaffold s.files layout.buildDir).reads hreads
  obtain ⟨rfl, -⟩ := hkept.unique hcopied
  refine ⟨hnames, rfl, ⟨sql, tokens, htext, htokens, rfl, kept (.inl rfl) hfilled.source⟩,
    _, _, ?_, Text.Utf8.decode_toUTF8 _, described_of_render hlines ?_ ?_⟩
  · exact installed (.tail _ (.tail _ (.head _))) (noLink i.controlName_mem) hfilled.control
  · exact ⟨library, kept (.inr rfl) hlinked,
      installed (.head _) (noLink i.sharedLibraryName_mem) hlinked⟩
  · exact ⟨before, beforeMode, hreads,
      installed (.tail _ (.head _)) (noLink i.scriptName_mem) hscript⟩

/-- Where no file is installed in the place of a link a run changes no way that there is once the
    build directory is made. -/
theorem run_sameWays {result : PipelineResult}
    (h : Ends (run layout host tools extra) s (.ok result) s') (htidy : tools.runner.Tidy)
    (hserves : host.Serves modules shared) (hlinks : NoOutputLink layout s)
    (hdevices : NoOutputDevice layout s)
    (hdestinations : ∀ p ∈ Deployment.destinations result.identity modules shared,
      (made layout s).EndsAtNoLink p) : SameWays (made layout s) s'.files := by
  obtain ⟨found, v, deployed, -, rfl, hfilled, hinstalls⟩ := run_ok h htidy hserves hlinks hdevices
  have hways := hfilled.writes.ways
  refine hways.trans (hinstalls.sameWays fun f hf => ?_)
  refine (hdestinations _ ?_).of_keepsWays hways.symm.keepsWays
  rw [← Deployment.targets_destinations (.within layout.buildDir found.identity)]
  exact List.mem_map_of_mem hf

/-- A run that succeeds installs a coherent extension: what the descriptor names was installed at
    the entries that the paths named, and each path still leads to its entry or nowhere, since a
    file can be installed in the place of a link on the way. Where no destination is a link every
    path leads there. -/
theorem run_installs_coherently {result : PipelineResult}
    (h : Ends (run layout host tools extra) s (.ok result) s') (htidy : tools.runner.Tidy)
    (hserves : host.Serves modules shared) (hlinks : NoOutputLink layout s)
    (hdevices : NoOutputDevice layout s) (hlines : result.identity.SingleLine) :
    Coherent (Deployment.Placed (made layout s) s'.files) layout s modules shared result ∧
      ((∀ p ∈ Deployment.destinations result.identity modules shared,
          (made layout s).EndsAtNoLink p) →
        Coherent s'.files.Holds layout s modules shared result) := by
  have hplaced := run_placed h htidy hserves hlinks hdevices hlines
  refine ⟨hplaced, fun hdestinations => hplaced.mono fun path content hpath => ?_⟩
  exact hpath.holds (run_sameWays h htidy hserves hlinks hdevices hdestinations)

theorem NoOutputDevice.of_no_devices
    (h : ∀ e ∈ s.files.entries, ∀ endless, e.2 ≠ .device endless) : NoOutputDevice layout s :=
  fun _ _ _ _ _ endless _ hget => h _ (mem_entries_of_made hget rfl) endless rfl

/-- An SQL definition with one native function. -/
def sampleScript : String :=
  "CREATE FUNCTION f() RETURNS int AS \x27MODULE_PATHNAME\x27 LANGUAGE c;\n"

theorem exists_ends_run {i : Identity}
    (h : (Id.run ((run layout host tools extra).run.run s)).1.toOption.map (·.identity) = some i) :
    ∃ result s', Ends (run layout host tools extra) s (.ok result) s' ∧ result.identity = i := by
  obtain ⟨result, hresult, hidentity⟩ := Option.map_eq_some_iff.mp h
  obtain ⟨s', hends⟩ := exists_ends_ok hresult
  exact ⟨result, s', hends, hidentity⟩

/-- The files of the project with that definition once its build directory is made. -/
def sampleTree : FileTree :=
  (((sampleState sampleScript).files.put ["p", "target"] (.directory 0o755)).put
    ["p", "target", "release"] (.directory 0o755)).put
    ["p", "target", "release", "postgres"] (.directory 0o755)

theorem sampleState_made :
    (sampleState sampleScript).files.ensureDirectory (sampleLayout "release").buildDir =
      (.ok (), sampleTree) := by
  have hmade : ((sampleState sampleScript).files.ensureDirectory
        (sampleLayout "release").buildDir).1.toOption = some () ∧
      ((sampleState sampleScript).files.ensureDirectory
        (sampleLayout "release").buildDir).2.entries = sampleTree.entries := by decide +kernel
  have hscaffold :=
    ensureDirectory_scaffold (sampleState sampleScript).files (sampleLayout "release").buildDir
  exact Prod.ext (eq_ok_of_toOption hmade.1)
    (FileTree.ext hmade.2 hscaffold.current hscaffold.draws)

theorem sampleState_run : ∃ result s',
    Ends (run (sampleLayout "release") sampleHost sampleTools none) (sampleState sampleScript)
      (.ok result) s' ∧ result.identity = sampleIdentity :=
  exists_ends_run (by decide +kernel)

theorem sampleIdentity_singleLine : sampleIdentity.SingleLine :=
  ⟨by decide, by decide, by decide⟩

theorem run_installs_coherently_sample :
    ∃ result s', Ends (run (sampleLayout "release") sampleHost sampleTools none)
        (sampleState sampleScript) (.ok result) s' ∧
      Coherent s'.files.Holds (sampleLayout "release") (sampleState sampleScript) (.ofString "/m")
        (.ofString "/s") result := by
  obtain ⟨result, s', hends, hidentity⟩ := sampleState_run
  refine ⟨result, s', hends, (run_installs_coherently hends sampleRunner_tidy sampleHost_serves
    (sampleState_noOutputLink _ _) (.of_no_devices (by simp [sampleState]))
    (hidentity ▸ sampleIdentity_singleLine)).2 ?_⟩
  exact fun p _ => made_endsAtNoLink (by simp [sampleState]) p

/-- What is at the path of the library that an installed descriptor names. -/
def describedModule? (t : FileTree) (control modules : Path) : Option Entry := do
  let l ← (t.resolve .link control.toString).toOption
  match t.get? l with
  | some (.file octets _) =>
    let text ← (Text.Utf8.decode octets).toOption
    let pathname ← (Control.parseEntries text).lookup "module_pathname"
    let library ← (t.resolve .link
      (modules.child (Control.withoutLibraryDirectory pathname ++ ".so")).toString).toOption
    t.get? library
  | _ => none

theorem Coherent.describedModule? {t : FileTree} {result : PipelineResult}
    (h : Coherent t.Holds layout s modules shared result) :
    ∃ content mode, describedModule? t
      ((shared.child Deployment.extensionSubdirectory).child result.identity.controlName) modules =
        some (.file content mode) := by
  obtain ⟨octets, text, ⟨l, _, hcontrol, hfile⟩, hdecode, hdescribed⟩ := h.descriptor
  obtain ⟨pathname, content, hlookup, -, k, mode, hresolve, hget⟩ := hdescribed.library
  refine ⟨content, mode, ?_⟩
  simp [Pipeline.describedModule?, hcontrol, hfile, hdecode, hlookup, hresolve, hget,
    Except.toOption]

/-- A run that succeeds and does not install a coherent extension. -/
def InstallsIncoherently (layout : ProjectLayout) (host : HostLayout) (tools : Toolchain.Tools)
    (s : BuildState) (modules shared : Path) : Prop :=
  ∃ result s', Ends (run layout host tools none) s (.ok result) s' ∧ result.identity.SingleLine ∧
    ¬ Coherent s'.files.Holds layout s modules shared result

/-- What evaluating a run shows: that it succeeds, and that the descriptor it installs names no
    library. -/
def LosesModule (i : Identity) (m : Build PipelineResult) (s : BuildState) (modules shared : Path) :
    Prop :=
  (Id.run (m.run.run s)).1.toOption.map (·.identity) = some i ∧
    describedModule? (Id.run (m.run.run s)).2.files
      ((shared.child Deployment.extensionSubdirectory).child i.controlName) modules = none

instance (i : Identity) (m : Build PipelineResult) (s : BuildState) (modules shared : Path) :
    Decidable (LosesModule i m s modules shared) :=
  inferInstanceAs (Decidable (_ ∧ _))

theorem LosesModule.installsIncoherently {i : Identity} (hlines : i.SingleLine)
    (h : LosesModule i (run layout host tools none) s modules shared) :
    InstallsIncoherently layout host tools s modules shared := by
  obtain ⟨hidentity, hmodule⟩ := h
  obtain ⟨result, s', hends, rfl⟩ := exists_ends_run hidentity
  refine ⟨result, s', hends, hlines, fun hcoherent => ?_⟩
  obtain ⟨content, mode, hfile⟩ := hcoherent.describedModule?
  rw [hends] at hmodule
  simp [hmodule] at hfile

/-- The project in `/p` where the descriptor of an earlier version is a link to the directory of
    modules. -/
def descriptorLinkState : BuildState :=
  { sampleState "" with
    files := (sampleState "").files.put ["s", "extension", "foo.control"] (.link "/m") }

/-- The failure with which a result ends. -/
def failure? {α : Type} : Except Failure α → Option Failure
  | .ok _ => none
  | .error failure => some failure

/-- What evaluating a run shows: that it fails on the files that it leaves. -/
def FailsAgain (m : Build PipelineResult) (s : BuildState) : Prop :=
  failure? (Id.run (m.run.run { s with files := (Id.run (m.run.run s)).2.files })).1 ≠ none

instance (m : Build PipelineResult) (s : BuildState) : Decidable (FailsAgain m s) :=
  inferInstanceAs (Decidable (_ ≠ _))

theorem descriptorLinkState_evaluated :
    Surveyed "release" "/s/extension/foo.control" "/s" descriptorLinkState
      ["p", "target", "release", "postgres"] ["m"] ["s"] ∧
    (descriptorLinkState.files.resolve .target
      (sampleLayout "release").buildDir.toString).toOption = none ∧
    LosesModule sampleIdentity
      (run (sampleLayout "release") (knownHost "/s/extension/foo.control" "/s") sampleTools none)
      descriptorLinkState (.ofString "/s/extension/foo.control") (.ofString "/s") ∧
    FailsAgain
      (run (sampleLayout "release") (knownHost "/s/extension/foo.control" "/s") sampleTools none)
      descriptorLinkState := by
  decide +kernel

/-- The library is installed through a link that the descriptor then replaces. -/
theorem incoherent_behind_descriptor :
    LooselyApart (sampleLayout "release") (knownHost "/s/extension/foo.control" "/s") sampleTools
        descriptorLinkState "/s/extension/foo.control" "/s" ∧
      InstallsIncoherently (sampleLayout "release") (knownHost "/s/extension/foo.control" "/s")
        sampleTools descriptorLinkState (.ofString "/s/extension/foo.control")
        (.ofString "/s") := by
  obtain ⟨hsurveyed, hmissing, hloses, -⟩ := descriptorLinkState_evaluated
  exact ⟨hsurveyed.looselyApart sampleRunner_tidy (fun _ => endsAtNoLink_of_missing hmissing)
    (by decide), hloses.installsIncoherently sampleIdentity_singleLine⟩

/-- The files of the project in `/p` with an entry in the build directory of the profile `y`. -/
def withBuilt (name : String) (e : Entry) : BuildState :=
  { sampleState "" with
    files := ((((sampleState "").files.put ["p", "target"] (.directory 0o755)).put
      ["p", "target", "y"] (.directory 0o755)).put
      ["p", "target", "y", "postgres"] (.directory 0o755)).put
      ["p", "target", "y", "postgres", name] e }

theorem builtDevice_evaluated :
    Surveyed "y" "/m" "/s" (withBuilt "foo.control" (.device false))
      ["p", "target", "y", "postgres"] ["m"] ["s"] ∧
    LosesModule sampleIdentity (run (sampleLayout "y") (knownHost "/m" "/s") sampleTools none)
      (withBuilt "foo.control" (.device false)) (.ofString "/m") (.ofString "/s") := by
  decide +kernel

/-- A device in the place of the descriptor keeps nothing of what is written to it. -/
theorem incoherent_with_device :
    LooselyApart (sampleLayout "y") (knownHost "/m" "/s") sampleTools
        (withBuilt "foo.control" (.device false)) "/m" "/s" ∧
      InstallsIncoherently (sampleLayout "y") (knownHost "/m" "/s") sampleTools
        (withBuilt "foo.control" (.device false)) (.ofString "/m") (.ofString "/s") := by
  obtain ⟨hsurveyed, hloses⟩ := builtDevice_evaluated
  refine ⟨hsurveyed.looselyApart sampleRunner_tidy (fun _ _ => ?_) (by decide),
    hloses.installsIncoherently sampleIdentity_singleLine⟩
  exact endsAtNoLink_of_no_links (by simp [withBuilt, sampleState, put]) _

theorem builtLink_evaluated :
    Surveyed "x/../y" "/m" "/s" (withBuilt "foo.control" (.link "foo.c"))
      ["p", "target", "y", "postgres"] ["m"] ["s"] ∧
    ((withBuilt "foo.control" (.link "foo.c")).files.resolve .target
      (sampleLayout "x/../y").buildDir.toString).toOption = none ∧
    LosesModule sampleIdentity (run (sampleLayout "x/../y") (knownHost "/m" "/s") sampleTools none)
      (withBuilt "foo.control" (.link "foo.c")) (.ofString "/m") (.ofString "/s") := by
  decide +kernel

/-- A link in the place of the descriptor can come into view only when the build directory is
    made. -/
theorem incoherent_behind_link :
    LooselyApart (sampleLayout "x/../y") (knownHost "/m" "/s") sampleTools
        (withBuilt "foo.control" (.link "foo.c")) "/m" "/s" ∧
      InstallsIncoherently (sampleLayout "x/../y") (knownHost "/m" "/s") sampleTools
        (withBuilt "foo.control" (.link "foo.c")) (.ofString "/m") (.ofString "/s") := by
  obtain ⟨hsurveyed, hmissing, hloses⟩ := builtLink_evaluated
  exact ⟨hsurveyed.looselyApart sampleRunner_tidy (fun _ => endsAtNoLink_of_missing hmissing)
    (by decide), hloses.installsIncoherently sampleIdentity_singleLine⟩

/-- The conditions are needed: a run that succeeds can have replaced a link on the way to the
    library, and what it builds can go to a device or through a link that came into view when the
    build directory was made. -/
theorem run_installs_incoherently :
    (LooselyApart (sampleLayout "release") (knownHost "/s/extension/foo.control" "/s") sampleTools
        descriptorLinkState "/s/extension/foo.control" "/s" ∧
      InstallsIncoherently (sampleLayout "release") (knownHost "/s/extension/foo.control" "/s")
        sampleTools descriptorLinkState (.ofString "/s/extension/foo.control") (.ofString "/s")) ∧
    (LooselyApart (sampleLayout "y") (knownHost "/m" "/s") sampleTools
        (withBuilt "foo.control" (.device false)) "/m" "/s" ∧
      InstallsIncoherently (sampleLayout "y") (knownHost "/m" "/s") sampleTools
        (withBuilt "foo.control" (.device false)) (.ofString "/m") (.ofString "/s")) ∧
    LooselyApart (sampleLayout "x/../y") (knownHost "/m" "/s") sampleTools
        (withBuilt "foo.control" (.link "foo.c")) "/m" "/s" ∧
      InstallsIncoherently (sampleLayout "x/../y") (knownHost "/m" "/s") sampleTools
        (withBuilt "foo.control" (.link "foo.c")) (.ofString "/m") (.ofString "/s") :=
  ⟨incoherent_behind_descriptor, incoherent_with_device, incoherent_behind_link⟩

end Pipeline

end NativeExtension

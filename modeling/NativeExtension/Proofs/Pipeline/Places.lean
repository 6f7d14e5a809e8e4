import Mathlib.Data.List.Forall2
import NativeExtension.Proofs.Pipeline.Freshness

namespace NativeExtension

open Build FileTree

namespace Path

/-- A path that starts at a root. -/
def Absolute (p : Path) : Prop := p.anchor ≠ .relative

instance (p : Path) : Decidable p.Absolute := inferInstanceAs (Decidable (p.anchor ≠ .relative))

/-- A path to the entry of a directory under a name: that name as it is stands behind the directory
    and for one entry, and in every file system the entry is in that directory. -/
structure IsEntryOf (p directory : Path) (name : String) : Prop where
  plain : PlainName name
  parent_eq : p.parent = directory
  name_eq : p.name = name
  stands : ∀ (t : FileTree) (l : Location), t.resolve .link p.toString = .ok l →
    ∃ d, t.resolve .target directory.toString = .ok d ∧ l = d ++ [name]

variable {directory : Path} {name : String}

theorem Absolute.toString_ne_empty {p : Path} (h : p.Absolute) : p.toString ≠ "" := by
  obtain ⟨anchor, parts⟩ := p
  cases anchor with
  | relative => exact absurd rfl h
  | root => simp [Path.toString, Anchor.slashes]
  | doubleRoot => simp [Path.toString, Anchor.slashes]

theorem Absolute.child (h : directory.Absolute) (hname : PlainName name) :
    (directory.child name).Absolute := by
  rw [hname.child_eq]
  exact h

theorem isEntryOf_child (hname : PlainName name) (h : directory.Absolute) :
    (directory.child name).IsEntryOf directory name where
  plain := hname
  parent_eq := by simp [hname.child_eq, parent]
  name_eq := by simp [hname.child_eq, Path.name]
  stands _ _ := resolve_child hname h.toString_ne_empty

end Path

/-- Paths that are different, and name no entry together in any file system. -/
def NeverMeet (p q : Path) : Prop := p ≠ q ∧ ∀ t : FileTree, t.Apart p q

theorem neverMeet_child {name other : String} (hname : PlainName name) (hother : PlainName other)
    (hne : name ≠ other) (directory directory' : Path) :
    NeverMeet (directory.child name) (directory'.child other) := by
  refine ⟨fun heq => hne ?_, fun t => apart_child hname hother hne directory directory'⟩
  have hparts := congrArg Path.name heq
  simpa [hname.child_eq, hother.child_eq, Path.name] using hparts

/-- Entries with different names never meet, in whatever directories they are. -/
theorem pairwise_neverMeet {places : List (Path × String)}
    (hplain : ∀ place ∈ places, PlainName place.2)
    (hne : places.Pairwise fun place other => place.2 ≠ other.2) :
    (places.map fun place => place.1.child place.2).Pairwise NeverMeet := by
  refine List.pairwise_map.mpr (hne.imp_of_mem ?_)
  intro place other hplace hother hne
  exact neverMeet_child (hplain place hplace) (hplain other hother) hne _ _

theorem Identity.archiveName_plainName (i : Identity) : PlainName i.archiveName := by
  have hname := no_slash_of_hasSeparator i.name_plain
  refine .of_length ?_ ?_
  · simp only [archiveName, String.length_append]
    have hfront : "lib".length = 3 := rfl
    omega
  · simp only [archiveName, libraryName, String.toList_append, String.toList_map, List.mem_append,
      List.mem_map, not_or, not_exists, not_and]
    refine ⟨⟨by decide, fun c hc => ?_⟩, by decide⟩
    split
    · decide
    · rintro rfl
      exact hname hc

/-- The files that a build makes are entries of the build directory under their names, and no two of
    them meet. -/
structure BuildArtifacts.BuiltIn (a : BuildArtifacts) (buildDir : Path) (i : Identity) : Prop where
  script : a.script.IsEntryOf buildDir (i.name ++ "--" ++ i.version ++ ".sql")
  control : a.control.IsEntryOf buildDir (i.name ++ ".control")
  source : a.source.IsEntryOf buildDir (i.name ++ ".c")
  object : a.object.IsEntryOf buildDir (i.name ++ ".o")
  sharedLibrary : a.sharedLibrary.IsEntryOf buildDir ("lib" ++ i.name ++ ".so")
  apart : [a.script, a.control, a.source, a.object, a.sharedLibrary].Pairwise NeverMeet

theorem BuildArtifacts.within_builtIn (i : Identity) {buildDir : Path} (h : buildDir.Absolute) :
    (within buildDir i).BuiltIn buildDir i where
  script := Path.isEntryOf_child i.scriptName_plainName h
  control := Path.isEntryOf_child i.controlName_plainName h
  source := Path.isEntryOf_child i.sourceName_plainName h
  object := Path.isEntryOf_child i.objectName_plainName h
  sharedLibrary := Path.isEntryOf_child i.sharedLibraryName_plainName h
  apart := by
    have hendings : i.outputNames.Pairwise fun name other =>
        Identity.ending name ≠ Identity.ending other := by simp [Identity.outputNames]
    have hpaths : ((i.outputNames.map (buildDir, ·)).map fun place => place.1.child place.2).Pairwise
        NeverMeet := by
      refine pairwise_neverMeet ?_ (List.pairwise_map.mpr ?_)
      · intro place hplace
        obtain ⟨name, hname, rfl⟩ := List.mem_map.mp hplace
        exact Identity.plainName_of_mem_outputNames hname
      · exact hendings.imp fun hne heq => hne (congrArg Identity.ending heq)
    exact hpaths

/-- The installed files are entries of the directories of the server under their names, and no two of
    them meet, also where the directories are the same. -/
structure Deployment.InstalledIn (files : List DeployedFile) (modules extensions : Path)
    (i : Identity) : Prop where
  entries : List.Forall₂ (fun f (place : Path × String) => f.destination.IsEntryOf place.1 place.2)
    files [(modules, i.name ++ ".so"), (extensions, i.name ++ "--" ++ i.version ++ ".sql"),
      (extensions, i.name ++ ".control")]
  apart : (files.map DeployedFile.destination).Pairwise NeverMeet

theorem Deployment.targets_installedIn (artifacts : BuildArtifacts) (i : Identity)
    {modules shared : Path} (hmodules : modules.Absolute) (hshared : shared.Absolute) :
    InstalledIn (targets artifacts i modules shared) modules (shared.child extensionSubdirectory)
      i where
  entries := by
    have hextensions : (shared.child extensionSubdirectory).Absolute :=
      hshared.child Pipeline.extensionSubdirectory_plainName
    exact .cons (Path.isEntryOf_child i.moduleName_plainName hmodules)
      (.cons (Path.isEntryOf_child i.scriptName_plainName hextensions)
        (.cons (Path.isEntryOf_child i.controlName_plainName hextensions) .nil))
  apart := by
    let extensions := shared.child extensionSubdirectory
    let places := [(modules, i.moduleName), (extensions, i.scriptName), (extensions, i.controlName)]
    have hplain : ∀ place ∈ places, PlainName place.2 := by
      simp [places, i.moduleName_plainName, i.scriptName_plainName, i.controlName_plainName]
    have hendings : places.Pairwise fun place other =>
        Identity.ending place.2 ≠ Identity.ending other.2 := by simp [places]
    exact pairwise_neverMeet hplain (hendings.imp fun hne heq => hne (congrArg Identity.ending heq))

section Runs

variable {s s' : BuildState}

theorem Toolchain.writeMetadata_ok {buildDir script : Path} {i : Identity} {written : Path × Path}
    (h : Ends (writeMetadata buildDir script i) s (.ok written) s') :
    written = (buildDir.child i.scriptName, buildDir.child i.controlName) := by
  obtain ⟨_, _, -, h⟩ := ends_bind_ok_iff.mp h
  obtain ⟨_, _, -, h⟩ := ends_bind_ok_iff.mp h
  obtain ⟨_, _, -, h⟩ := ends_bind_ok_iff.mp h
  obtain ⟨_, _, -, h⟩ := ends_bind_ok_iff.mp h
  obtain ⟨_, _, -, h⟩ := ends_bind_ok_iff.mp h
  obtain ⟨_, _, -, h⟩ := ends_bind_ok_iff.mp h
  obtain ⟨_, _, -, h⟩ := ends_bind_ok_iff.mp h
  simpa using (ends_pure_iff.mp h).1

theorem Deployment.deploy_targets {artifacts : BuildArtifacts} {i : Identity} {host : HostLayout}
    {deployed : List DeployedFile} (h : Ends (deploy artifacts i host) s (.ok deployed) s') :
    ∃ modules shared t u, host.Asked modules shared t u ∧
      deployed = targets artifacts i modules shared := by
  obtain ⟨modules, s₁, hmodules, h⟩ := ends_bind_ok_iff.mp h
  obtain ⟨shared, s₂, hshared, h⟩ := ends_bind_ok_iff.mp h
  obtain ⟨-, ⟨hdone, -⟩ | ⟨_, _, _, _, -, ⟨⟩, -⟩⟩ := installAll_cases h
  exact ⟨modules, shared, s.files, s₂.files, ⟨s, s₁, s₂, rfl, hmodules, hshared, rfl⟩,
    by simpa using hdone⟩

namespace Pipeline

variable {layout : ProjectLayout} {host : HostLayout} {tools : Toolchain.Tools}
  {extra : Option String}

/-- A run of the linker on the object file of a build and the static archive of its library. -/
def Linked (layout : ProjectLayout) (tools : Toolchain.Tools) (extra : Option String)
    (a : BuildArtifacts) (i : Identity) : Prop :=
  ∃ t u, tools.runner.Ran ⟨Command.link tools.compiler a.object a.sharedLibrary
    (Command.archivePath layout.libraryDir i) extra, tools.limit⟩ t u

/-- The paths that a run has come to work with: the files in the build directory, the archive that
    is linked, and the installed files in the directories that the host was asked for. -/
structure WorksWith (layout : ProjectLayout) (host : HostLayout) (tools : Toolchain.Tools)
    (extra : Option String) (result : PipelineResult) : Prop where
  built : result.artifacts = .within layout.buildDir result.identity
  linked : Linked layout tools extra result.artifacts result.identity
  deployed : ∃ modules shared t u, host.Asked modules shared t u ∧
    result.deployed = Deployment.targets result.artifacts result.identity modules shared

theorem fill_within {found : Found} {made : BuildArtifacts}
    (h : Ends (fill layout host tools extra found) s (.ok made) s') :
    made = .within layout.buildDir found.identity ∧
      Linked layout tools extra made found.identity := by
  obtain ⟨written, s₁, hmetadata, h⟩ := ends_bind_ok_iff.mp h
  obtain ⟨source, s₂, hsource, h⟩ := ends_bind_ok_iff.mp h
  obtain ⟨headers, s₃, -, h⟩ := ends_bind_ok_iff.mp h
  obtain ⟨object, s₄, hcompile, h⟩ := ends_bind_ok_iff.mp h
  obtain ⟨library, s₅, hlink, h⟩ := ends_bind_ok_iff.mp h
  obtain rfl := Toolchain.writeMetadata_ok hmetadata
  obtain rfl := Toolchain.writeSource_ok hsource
  obtain ⟨rfl, -, -⟩ := Toolchain.compileObject_ran hcompile
  obtain rfl := Toolchain.linkSharedLibrary_ok hlink
  obtain ⟨hmade, -⟩ := ends_pure_iff.mp h
  obtain rfl : made = .within layout.buildDir found.identity := by
    simpa [BuildArtifacts.within] using hmade
  exact ⟨rfl, _, _, Toolchain.linkSharedLibrary_ran hlink⟩

theorem run_worksWith {result : PipelineResult}
    (h : Ends (run layout host tools extra) s (.ok result) s') :
    WorksWith layout host tools extra result := by
  rw [run_eq] at h
  obtain ⟨found, s₁, -, h⟩ := ends_bind_ok_iff.mp h
  obtain ⟨made, s₂, hfill, h⟩ := ends_bind_ok_iff.mp h
  obtain ⟨deployed, s₃, hdeploy, h⟩ := ends_bind_ok_iff.mp h
  obtain ⟨_, _, -, h⟩ := ends_bind_ok_iff.mp h
  obtain ⟨⟨⟩, -⟩ := ends_pure_iff.mp h
  obtain ⟨hmade, hlinked⟩ := fill_within hfill
  exact ⟨hmade, hlinked, Deployment.deploy_targets hdeploy⟩

/-- Whatever the name and the version of an extension are, each path that a run works with is an
    entry of its directory under the very name made from them: the files in the build directory,
    the archive in the directory of the library, and the installed files in the directories of the
    server. No two files that are built, and no two that are installed, meet in any file system,
    also where the modules are in the directory of the extensions. -/
theorem paths_in_place (i : Identity) {buildDir libraryDir modules shared : Path}
    (hbuild : buildDir.Absolute) (hlibrary : libraryDir.Absolute) (hmodules : modules.Absolute)
    (hshared : shared.Absolute) :
    let built := BuildArtifacts.within buildDir i
    let extensions := shared.child Deployment.extensionSubdirectory
    built.BuiltIn buildDir i ∧
      (Command.archivePath libraryDir i).IsEntryOf libraryDir ("lib" ++ i.libraryName ++ ".a") ∧
      extensions.IsEntryOf shared "extension" ∧
      Deployment.InstalledIn (Deployment.targets built i modules shared) modules extensions i ∧
      ∀ {layout host tools extra s s'} {result : PipelineResult},
        Ends (run layout host tools extra) s (.ok result) s' →
          WorksWith layout host tools extra result :=
  ⟨BuildArtifacts.within_builtIn i hbuild, Path.isEntryOf_child i.archiveName_plainName hlibrary,
    Path.isEntryOf_child extensionSubdirectory_plainName hshared,
    Deployment.targets_installedIn _ i hmodules hshared, run_worksWith⟩

/-- An extension whose name and version are those of directories on the way. -/
def dotted : Identity where
  name := ".."
  description := "."
  version := "."
  name_nonempty := by decide
  description_nonempty := by decide
  version_nonempty := by decide
  name_plain := by decide
  version_plain := by decide

/-- The files of such an extension stay in their directories and apart, where the modules are in the
    directory of the extensions. -/
theorem paths_in_place_dotted :
    let buildDir : Path := .ofString "/p/target/release/postgres"
    let libraryDir : Path := .ofString "/p/target/release"
    let shared : Path := .ofString "/s"
    let extensions := shared.child Deployment.extensionSubdirectory
    let built := BuildArtifacts.within buildDir dotted
    (buildDir.Absolute ∧ libraryDir.Absolute ∧ extensions.Absolute ∧ shared.Absolute) ∧
      built.BuiltIn buildDir dotted ∧
      (Command.archivePath libraryDir dotted).IsEntryOf libraryDir "lib...a" ∧
      Deployment.InstalledIn (Deployment.targets built dotted extensions shared) extensions
        extensions dotted := by
  intro buildDir libraryDir shared extensions built
  have habsolute : buildDir.Absolute ∧ libraryDir.Absolute ∧ extensions.Absolute ∧
      shared.Absolute := by decide +kernel
  obtain ⟨hbuild, hlibrary, hextensions, hshared⟩ := habsolute
  obtain ⟨hbuilt, harchive, -, hinstalled, -⟩ :=
    paths_in_place dotted hbuild hlibrary hextensions hshared
  have hname : "lib" ++ dotted.libraryName ++ ".a" = "lib...a" := by decide +kernel
  exact ⟨⟨hbuild, hlibrary, hextensions, hshared⟩, hbuilt, hname ▸ harchive, hinstalled⟩

end Pipeline

end Runs

end NativeExtension

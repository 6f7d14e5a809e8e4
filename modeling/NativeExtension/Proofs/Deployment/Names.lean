import NativeExtension.Proofs.Deployment.Installs
import NativeExtension.Proofs.Files.Child

namespace NativeExtension

namespace Identity

theorem sourceName_plainName (i : Identity) : PlainName i.sourceName :=
  i.plainName_append (by decide) (by decide)

theorem objectName_plainName (i : Identity) : PlainName i.objectName :=
  i.plainName_append (by decide) (by decide)

theorem sharedLibraryName_plainName (i : Identity) : PlainName i.sharedLibraryName := by
  have hname := no_slash_of_hasSeparator i.name_plain
  refine .of_length ?_ (by simp [sharedLibraryName, hname])
  simp only [sharedLibraryName, String.length_append]
  have hfront : "lib".length = 3 := rfl
  omega

/-- The names of the files that a build makes in its directory. -/
def outputNames (i : Identity) : List String :=
  [i.scriptName, i.controlName, i.sourceName, i.objectName, i.sharedLibraryName]

section Membership

variable (i : Identity)

theorem scriptName_mem : i.scriptName ∈ i.outputNames := by simp [outputNames]

theorem controlName_mem : i.controlName ∈ i.outputNames := by simp [outputNames]

theorem sourceName_mem : i.sourceName ∈ i.outputNames := by simp [outputNames]

theorem objectName_mem : i.objectName ∈ i.outputNames := by simp [outputNames]

theorem sharedLibraryName_mem : i.sharedLibraryName ∈ i.outputNames := by simp [outputNames]

end Membership

theorem plainName_of_mem_outputNames {i : Identity} {name : String} (h : name ∈ i.outputNames) :
    PlainName name := by
  simp only [outputNames, List.mem_cons, List.not_mem_nil, or_false] at h
  obtain rfl | rfl | rfl | rfl | rfl := h
  · exact i.scriptName_plainName
  · exact i.controlName_plainName
  · exact i.sourceName_plainName
  · exact i.objectName_plainName
  · exact i.sharedLibraryName_plainName

/-- The names of the files that are installed. -/
def installedNames (i : Identity) : List String := [i.moduleName, i.scriptName, i.controlName]

theorem plainName_of_mem_installedNames {i : Identity} {name : String}
    (h : name ∈ i.installedNames) : PlainName name := by
  simp only [installedNames, List.mem_cons, List.not_mem_nil, or_false] at h
  obtain rfl | rfl | rfl := h
  · exact i.moduleName_plainName
  · exact i.scriptName_plainName
  · exact i.controlName_plainName

/-- The last two characters of a name, the last one first. -/
def ending (name : String) : List Char := name.toList.reverse.take 2

section Ending

variable (i : Identity)

@[simp] theorem ending_scriptName : ending i.scriptName = ['l', 'q'] := by simp [ending, scriptName]

@[simp] theorem ending_controlName : ending i.controlName = ['l', 'o'] := by
  simp [ending, controlName]

@[simp] theorem ending_sourceName : ending i.sourceName = ['c', '.'] := by simp [ending, sourceName]

@[simp] theorem ending_objectName : ending i.objectName = ['o', '.'] := by simp [ending, objectName]

@[simp] theorem ending_sharedLibraryName : ending i.sharedLibraryName = ['o', 's'] := by
  simp [ending, sharedLibraryName]

@[simp] theorem ending_moduleName : ending i.moduleName = ['o', 's'] := by simp [ending, moduleName]

end Ending

theorem sharedLibraryName_ne_moduleName (i : Identity) : i.sharedLibraryName ≠ i.moduleName := by
  intro heq
  have hlengths := congrArg String.length heq
  simp only [sharedLibraryName, moduleName, String.length_append] at hlengths
  have hfront : "lib".length = 3 := rfl
  omega

end Identity

/-- Names that end differently are different, whatever the name and the version of the extension
    are. -/
theorem apart_of_ending {t : FileTree} {name other : String} (hname : PlainName name)
    (hother : PlainName other) (hending : Identity.ending name ≠ Identity.ending other)
    (directory directory' : Path) : t.Apart (directory.child name) (directory'.child other) :=
  FileTree.apart_child hname hother (fun heq => hending (congrArg Identity.ending heq)) _ _

/-- The paths of the files that a build makes in a directory. -/
def BuildArtifacts.within (buildDir : Path) (i : Identity) : BuildArtifacts where
  source := buildDir.child i.sourceName
  object := buildDir.child i.objectName
  sharedLibrary := buildDir.child i.sharedLibraryName
  script := buildDir.child i.scriptName
  control := buildDir.child i.controlName

namespace Deployment

open FileTree

/-- Where the files of an extension are installed, in the order in which they are. -/
def destinations (i : Identity) (modules shared : Path) : List Path :=
  [modules.child i.moduleName, (shared.child extensionSubdirectory).child i.scriptName,
    (shared.child extensionSubdirectory).child i.controlName]

theorem targets_destinations (artifacts : BuildArtifacts) (i : Identity) (modules shared : Path) :
    (targets artifacts i modules shared).map DeployedFile.destination =
      destinations i modules shared :=
  rfl

/-- A file is installed in the place of no source but its own, also where the directories are the
    same. -/
theorem targets_apart (t : FileTree) (buildDir : Path) (i : Identity) (modules shared : Path)
    {f g : DeployedFile} (hf : f ∈ targets (.within buildDir i) i modules shared)
    (hg : g ∈ targets (.within buildDir i) i modules shared) (hne : g ≠ f) :
    t.Apart f.source g.destination := by
  simp only [targets, BuildArtifacts.within, List.mem_cons, List.not_mem_nil, or_false] at hf hg
  have hlibrary := i.moduleName_plainName
  have hscript := i.scriptName_plainName
  have hcontrol := i.controlName_plainName
  have hshared := i.sharedLibraryName_plainName
  obtain rfl | rfl | rfl := hf <;> obtain rfl | rfl | rfl := hg
  · exact absurd rfl hne
  · exact apart_of_ending hshared hscript (by simp) _ _
  · exact apart_of_ending hshared hcontrol (by simp) _ _
  · exact apart_of_ending hscript hlibrary (by simp) _ _
  · exact absurd rfl hne
  · exact apart_of_ending hscript hcontrol (by simp) _ _
  · exact apart_of_ending hcontrol hlibrary (by simp) _ _
  · exact apart_of_ending hcontrol hscript (by simp) _ _
  · exact absurd rfl hne

/-- Neither the generated source nor the library in the build directory is in the place of an
    installed file. -/
theorem built_apart (t : FileTree) (buildDir : Path) (i : Identity) (modules shared : Path)
    {name : String} (hname : name = i.sourceName ∨ name = i.sharedLibraryName) {f : DeployedFile}
    (hf : f ∈ targets (.within buildDir i) i modules shared) :
    t.Apart (buildDir.child name) f.destination := by
  simp only [targets, List.mem_cons, List.not_mem_nil, or_false] at hf
  have hsource := i.sourceName_plainName
  have hshared := i.sharedLibraryName_plainName
  obtain rfl | rfl := hname <;> obtain rfl | rfl | rfl := hf
  · exact apart_of_ending hsource i.moduleName_plainName (by simp) _ _
  · exact apart_of_ending hsource i.scriptName_plainName (by simp) _ _
  · exact apart_of_ending hsource i.controlName_plainName (by simp) _ _
  · exact apart_child hshared i.moduleName_plainName i.sharedLibraryName_ne_moduleName _ _
  · exact apart_of_ending hshared i.scriptName_plainName (by simp) _ _
  · exact apart_of_ending hshared i.controlName_plainName (by simp) _ _

theorem exists_directory_of_mem_destinations {i : Identity} {modules shared p : Path}
    (h : p ∈ destinations i modules shared) :
    ∃ directory ∈ [modules, shared.child extensionSubdirectory], ∃ name ∈ i.installedNames,
      p = directory.child name := by
  simp only [destinations, List.mem_cons, List.not_mem_nil, or_false] at h
  obtain rfl | rfl | rfl := h
  · exact ⟨_, by simp, _, by simp [Identity.installedNames], rfl⟩
  · exact ⟨_, by simp, _, by simp [Identity.installedNames], rfl⟩
  · exact ⟨_, by simp, _, by simp [Identity.installedNames], rfl⟩

/-- No two files are installed in one place, also where the directories are the same. -/
theorem destinations_apart (t : FileTree) (i : Identity) (modules shared : Path) :
    (destinations i modules shared).Pairwise t.Apart := by
  have hlibrary := i.moduleName_plainName
  have hscript := i.scriptName_plainName
  have hcontrol := i.controlName_plainName
  refine .cons ?_ (.cons ?_ (.cons (by simp) .nil))
  · rw [List.forall_mem_cons, List.forall_mem_singleton]
    exact ⟨apart_of_ending hlibrary hscript (by simp) _ _,
      apart_of_ending hlibrary hcontrol (by simp) _ _⟩
  · rw [List.forall_mem_singleton]
    exact apart_of_ending hscript hcontrol (by simp) _ _

end Deployment

end NativeExtension

import NativeExtension.Proofs.Build.Change
import NativeExtension.Proofs.Build.Preserves
import NativeExtension.Proofs.Command.Tidy
import NativeExtension.Proofs.Deployment.Names
import NativeExtension.Proofs.Files.Scaffold
import NativeExtension.Toolchain

namespace NativeExtension

open Build FileTree

namespace Build.Preserves

variable {paths : List Path} {t : FileTree} {path : Path}

theorem writeFile (hpath : path ∈ paths) (hlink : t.EndsAtNoLink path) (content : ByteArray) :
    Preserves (WritesOnly paths t) (Build.change (·.writeFile path.toString content)) := by
  refine .change fun u v hu hv => hu.trans ?_
  have hwrites := (writeFile_writes (hlink.of_keepsWays hu.ways.symm.keepsWays) hv).1
  exact hwrites.mono (by simpa using hpath)

theorem copyFile (hpath : path ∈ paths) (hlink : t.EndsAtNoLink path) (source : Path) :
    Preserves (WritesOnly paths t) (Build.change (·.copyFile source path.toString)) := by
  refine .change fun u v hu hv => hu.trans ?_
  have hwrites := (copyFile_writes (hlink.of_keepsWays hu.ways.symm.keepsWays) hv).1
  exact hwrites.mono (by simpa using hpath)

/-- A tidy runner that is given a command writes no file but the one that the command makes. -/
theorem runTidy {runner : Command.Runner} (htidy : runner.Tidy) {args : List String}
    (houtput : Command.output? args = some path.toString) (hpath : path ∈ paths)
    (hlink : t.EndsAtNoLink path) (stage : ToolStage) (limit : Option Seconds) :
    Preserves (WritesOnly paths t) (Build.runTool runner args stage limit) := by
  refine .runTool stage fun earlier u hu => hu.trans ?_
  have hwrites : WritesOnly [path] u (runner earlier ⟨args, limit⟩ u).2 :=
    htidy.writes houtput (hlink.of_keepsWays hu.ways.symm.keepsWays)
  exact hwrites.mono (by simpa using hpath)

end Build.Preserves

namespace Toolchain

variable {buildDir : Path} {i : Identity} {s s' : BuildState} {paths : List Path} {t : FileTree}

/-- Writing the metadata makes the build directory and writes two files, whatever it ends with. -/
theorem writeMetadata_writes {script : Path} {r : Except Failure (Path × Path)}
    (h : Ends (writeMetadata buildDir script i) s r s')
    (hmade : (s.files.ensureDirectory buildDir).2 = t)
    (hscript : buildDir.child i.scriptName ∈ paths ∧ t.EndsAtNoLink (buildDir.child i.scriptName))
    (hcontrol : buildDir.child i.controlName ∈ paths ∧
      t.EndsAtNoLink (buildDir.child i.controlName)) :
    WritesOnly paths t s'.files := by
  obtain ⟨fault, -, rfl, -⟩ | ⟨-, h⟩ := changeAnywayOr_cases h
  · exact hmade ▸ .refl _ _
  · rw [hmade] at h
    refine Preserves.files ?_ h (.refl _ _)
    refine .bind (.copyFile hscript.1 hscript.2 _) fun _ => .bind (.orSystem ..) fun _ => ?_
    refine .bind (.writeFile hcontrol.1 hcontrol.2 _) fun _ => .bind (.orSystem ..) fun _ => ?_
    exact .bind (.say ..) fun _ => .pure _

theorem writeSource_preserves (hpath : buildDir.child i.sourceName ∈ paths)
    (hlink : t.EndsAtNoLink (buildDir.child i.sourceName)) (source : String) :
    Preserves (WritesOnly paths t) (writeSource buildDir i source) := by
  refine .bind (.writeFile hpath hlink _) fun _ => .bind (.orSystem ..) fun _ => ?_
  exact .bind (.say ..) fun _ => .pure _

theorem compileObject_preserves {tools : Tools} (htidy : tools.runner.Tidy)
    (hpath : buildDir.child i.objectName ∈ paths)
    (hlink : t.EndsAtNoLink (buildDir.child i.objectName)) (source includeDir libraryDir : Path) :
    Preserves (WritesOnly paths t)
      (compileObject tools buildDir source i includeDir libraryDir) := by
  refine .bind ?_ fun _ => .need (.pure _)
  exact .runTidy htidy (Command.output?_compile ..) hpath hlink ..

theorem linkSharedLibrary_preserves {tools : Tools} (htidy : tools.runner.Tidy)
    (hpath : buildDir.child i.sharedLibraryName ∈ paths)
    (hlink : t.EndsAtNoLink (buildDir.child i.sharedLibraryName)) (object libraryDir : Path)
    (extra : Option String) :
    Preserves (WritesOnly paths t)
      (linkSharedLibrary tools buildDir object i libraryDir extra) := by
  refine .need (.bind ?_ fun _ => .pure _)
  exact .runTidy htidy (Command.output?_link ..) hpath hlink ..

/-- Metadata that is written holds what it should: the SQL definition as it was found, and the
    descriptor. -/
theorem writeMetadata_holds {script : Path} {written : Path × Path}
    (h : Ends (writeMetadata buildDir script i) s (.ok written) s')
    (hmade : (s.files.ensureDirectory buildDir).2 = t)
    (hlinks : ∀ name ∈ i.outputNames, t.EndsAtNoLink (buildDir.child name))
    (hdevices : ∀ name ∈ i.outputNames, t.EndsAtNoDevice (buildDir.child name)) :
    written = (buildDir.child i.scriptName, buildDir.child i.controlName) ∧
      s'.files.Holds (buildDir.child i.controlName) (Control.render i).toUTF8 ∧
      ∃ content mode, t.Reads script content mode ∧
        s'.files.Holds (buildDir.child i.scriptName) content := by
  have hscript := i.scriptName_mem
  have hcontrol := i.controlName_mem
  have hne := i.scriptName_ne_controlName
  obtain ⟨_, -, -, ⟨⟩⟩ | ⟨-, h⟩ := changeAnywayOr_cases h
  rw [hmade] at h
  obtain ⟨_, -, -, ⟨⟩⟩ | ⟨u, hcopy, h⟩ := changeOr_cases h
  obtain ⟨_, -, -, ⟨⟩⟩ | ⟨v, hwrite, h⟩ := changeOr_cases h
  obtain ⟨_, _, hsay, h⟩ := ends_bind_ok_iff.mp h
  obtain ⟨-, rfl⟩ := ends_say_iff.mp hsay
  obtain ⟨hwritten, rfl⟩ := ends_pure_iff.mp h
  obtain ⟨hfirst, content, mode, hreads, hcopied⟩ := copyFile_writes (hlinks _ hscript) hcopy
  have hlink := (hlinks _ hcontrol).of_keepsWays hfirst.ways.symm.keepsWays
  obtain ⟨hsecond, hrendered⟩ := writeFile_writes hlink hwrite
  have hdevice : u.EndsAtNoDevice (buildDir.child i.controlName) := by
    refine hfirst.endsAtNoDevice ?_ (hdevices _ hcontrol)
    rw [List.forall_mem_singleton]
    exact apart_child i.controlName_plainName i.scriptName_plainName hne.symm _ _
  refine ⟨by simpa using hwritten, hrendered hdevice, content, mode, hreads, ?_⟩
  refine hsecond.holds ?_ (hcopied (hdevices _ hscript))
  rw [List.forall_mem_singleton]
  exact apart_child i.scriptName_plainName i.controlName_plainName hne _ _

theorem writeSource_holds {source : String} {path : Path}
    (h : Ends (writeSource buildDir i source) s (.ok path) s')
    (hlink : s.files.EndsAtNoLink (buildDir.child i.sourceName))
    (hdevice : s.files.EndsAtNoDevice (buildDir.child i.sourceName)) :
    s'.files.Holds (buildDir.child i.sourceName) source.toUTF8 := by
  obtain ⟨_, -, -, ⟨⟩⟩ | ⟨u, hwrite, h⟩ := changeOr_cases h
  obtain ⟨_, _, hsay, h⟩ := ends_bind_ok_iff.mp h
  obtain ⟨-, rfl⟩ := ends_say_iff.mp hsay
  obtain ⟨-, rfl⟩ := ends_pure_iff.mp h
  exact (writeFile_writes hlink hwrite).2 hdevice

end Toolchain

end NativeExtension

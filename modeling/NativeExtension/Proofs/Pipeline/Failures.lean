import NativeExtension.Proofs.Build.Fails
import NativeExtension.Proofs.Host.Serves
import NativeExtension.Proofs.Pipeline.Course

namespace NativeExtension

open Build

variable {Q : Fault → Prop}

namespace Toolchain

theorem writeMetadata_fails (hprogram : ∀ fault : Fault, fault.OfProgram → Q fault)
    (buildDir script : Path) (i : Identity) :
    FailsWith (·.stage = "metadata") Q (writeMetadata buildDir script i) := by
  refine .changeAnywayOr (fun _ => rfl) hprogram (fun _ => FileTree.ensureDirectory_ofFiles _) ?_
  refine .changeOr (fun _ => rfl) hprogram (fun _ => FileTree.copyFile_ofFiles _ _) ?_
  refine .changeOr (fun _ => rfl) hprogram (fun _ => FileTree.writeFile_ofFiles _ _) ?_
  exact .bind (.say ..) fun _ => .pure _

theorem writeSource_fails (hprogram : ∀ fault : Fault, fault.OfProgram → Q fault)
    (buildDir : Path) (i : Identity) (source : String) :
    FailsWith (·.stage = "source") Q (writeSource buildDir i source) := by
  refine .changeOr (fun _ => rfl) hprogram (fun _ => FileTree.writeFile_ofFiles _ _) ?_
  exact .bind (.say ..) fun _ => .pure _

variable {tools : Tools} (hasking : ∀ fault : Fault, fault.OfAsking → Q fault)
  (hrunner : FailsWith.RunnerFaults Q tools.runner)

include hasking hrunner

theorem compileObject_fails (buildDir source : Path) (i : Identity) (includeDir libraryDir : Path) :
    FailsWith (·.stage = "compile") Q
      (compileObject tools buildDir source i includeDir libraryDir) := by
  refine .bind (.runTool (by simp [Command.compile]) (fun _ => rfl) hrunner) fun _ => ?_
  exact .need rfl (fun _ => (FileTree.isFile_ofAsking _).mono hasking) (.pure _)

theorem linkSharedLibrary_fails (buildDir object : Path) (i : Identity) (libraryDir : Path)
    (extra : Option String) :
    FailsWith (·.stage = "link") Q
      (linkSharedLibrary tools buildDir object i libraryDir extra) := by
  refine .need rfl (fun _ => (FileTree.isFile_ofAsking _).mono hasking) ?_
  refine .bind (.runTool (by simp [Command.link]) (fun _ => rfl) hrunner) fun _ => .pure _

end Toolchain

namespace Pipeline

/-- The stages that fill the build directory. -/
def fillingStages : List String := ["metadata", "source", "host-config", "compile", "link"]

theorem fill_fails {layout : ProjectLayout} {host : HostLayout} {tools : Toolchain.Tools}
    (hprogram : ∀ fault : Fault, fault.OfProgram → Q fault)
    (hasking : ∀ fault : Fault, fault.OfAsking → Q fault)
    (hrunner : FailsWith.RunnerFaults Q tools.runner)
    (hheaders : FailsWith (·.stage = "host-config") Q host.headers) (extra : Option String)
    (found : Found) :
    FailsWith (·.stage ∈ fillingStages) Q (fill layout host tools extra found) := by
  have stage {name : String} (hname : name ∈ fillingStages) (e : BuildError) (he : e.stage = name) :
      e.stage ∈ fillingStages := he ▸ hname
  refine .bind ((Toolchain.writeMetadata_fails hprogram ..).mono (stage (by decide))) fun _ => ?_
  refine .bind ((Toolchain.writeSource_fails hprogram ..).mono (stage (by decide))) fun _ => ?_
  refine .bind (hheaders.mono (stage (by decide))) fun _ => ?_
  refine .bind ((Toolchain.compileObject_fails hasking hrunner ..).mono (stage (by decide)))
    fun _ => ?_
  refine .bind ((Toolchain.linkSharedLibrary_fails hasking hrunner ..).mono (stage (by decide)))
    fun _ => ?_
  exact .pure _

end Pipeline

end NativeExtension

import NativeExtension.Proofs.Host.Printed
import NativeExtension.Proofs.Pipeline.Coherence

namespace NativeExtension

open Build HostLayout

section Steps

variable {asked : List (List String)} {runner inner : Command.Runner}

theorem Manifest.readIdentity_mirrors (path : Path) :
    Mirrors asked (readIdentity path) (readIdentity path) :=
  .bind (.look _) fun _ => .bind (.orRead ..) fun _ => .bind (.ofResult _) fun _ =>
    .bind (.say ..) fun _ => .pure _

theorem Scan.declarations_mirrors (sql : String) :
    Mirrors asked (declarations sql) (declarations sql) := by
  unfold declarations
  split
  · exact .failWith _
  · exact .bind (.say ..) fun _ => .pure _

theorem Scan.wrapper_mirrors (names : List String) :
    Mirrors asked (wrapper names) (wrapper names) := by
  unfold wrapper
  split
  · exact .bind (.say ..) fun _ => .pure _
  · exact .pure _

theorem Toolchain.writeMetadata_mirrors (buildDir script : Path) (i : Identity) :
    Mirrors asked (writeMetadata buildDir script i) (writeMetadata buildDir script i) := by
  refine .bind (.changeAnyway _) fun _ => .bind (.orSystem ..) fun _ => ?_
  refine .bind (.change _) fun _ => .bind (.orSystem ..) fun _ => ?_
  refine .bind (.change _) fun _ => .bind (.orSystem ..) fun _ => ?_
  exact .bind (.say ..) fun _ => .pure _

theorem Toolchain.writeSource_mirrors (buildDir : Path) (i : Identity) (source : String) :
    Mirrors asked (writeSource buildDir i source) (writeSource buildDir i source) := by
  refine .bind (.change _) fun _ => .bind (.orSystem ..) fun _ => ?_
  exact .bind (.say ..) fun _ => .pure _

/-- Up to the generated source nothing is asked of the host, and no tool runs. -/
theorem Pipeline.prepare_mirrors (layout : ProjectLayout) :
    Mirrors asked (prepare layout) (prepare layout) := by
  refine .bind (Manifest.readIdentity_mirrors _) fun _ => .bind (.look _) fun _ => ?_
  refine .bind (.orRead ..) fun _ => .bind (Scan.declarations_mirrors _) fun _ => ?_
  refine .bind (Scan.wrapper_mirrors _) fun _ => .bind (Toolchain.writeMetadata_mirrors ..) fun _ => ?_
  exact .bind (Toolchain.writeSource_mirrors ..) fun _ => .pure _

theorem Deployment.installAll_mirrors (files : List DeployedFile) :
    Mirrors asked (installAll files) (installAll files) := by
  induction files with
  | nil => exact .pure _
  | cons f rest ih =>
    have hone : Mirrors asked (installOne f) (installOne f) :=
      .bind (.changeAnyway _) fun _ => .bind (.orSystem ..) fun _ => .bind (.say ..) fun _ => .pure _
    exact .bind hone fun _ => .bind ih fun _ => .pure _

theorem Deployment.deploy_mirrors {host host' : HostLayout} (h : Mirrored asked host host')
    (artifacts : BuildArtifacts) (i : Identity) :
    Mirrors asked (deploy artifacts i host) (deploy artifacts i host') :=
  .bind h.modules fun _ => .bind h.shared fun _ => installAll_mirrors _

variable (hinner : Behind asked runner inner) (hshort : ∀ args ∈ asked, args.length < 8)
  (compiler : String) (limit : Option Seconds)

include hinner hshort

/-- What is asked for a directory is shorter than any command that compiles. -/
theorem Toolchain.compileObject_mirrors (buildDir source : Path) (i : Identity)
    (includeDir libraryDir : Path) :
    Mirrors asked (compileObject ⟨runner, compiler, limit⟩ buildDir source i includeDir libraryDir)
      (compileObject ⟨inner, compiler, limit⟩ buildDir source i includeDir libraryDir) := by
  have hargs : Command.compile compiler source (buildDir.child i.objectName) i includeDir
      libraryDir ∉ asked := by
    intro hmem
    have hlength := hshort _ hmem
    simp [Command.compile] at hlength
  exact .bind (.runTool hinner hargs ..) fun _ => .need _ _ (.pure _)

theorem Toolchain.linkSharedLibrary_mirrors (buildDir object : Path) (i : Identity)
    (libraryDir : Path) (extra : Option String) :
    Mirrors asked (linkSharedLibrary ⟨runner, compiler, limit⟩ buildDir object i libraryDir extra)
      (linkSharedLibrary ⟨inner, compiler, limit⟩ buildDir object i libraryDir extra) := by
  have hargs : Command.link compiler object (buildDir.child i.sharedLibraryName)
      (Command.archivePath libraryDir i) extra ∉ asked := by
    intro hmem
    have hlength := hshort _ hmem
    simp [Command.link] at hlength
    omega
  exact .need _ _ (.bind (.runTool hinner hargs ..) fun _ => .pure _)

theorem Pipeline.run_mirrors {host host' : HostLayout} (h : Mirrored asked host host')
    (layout : ProjectLayout) (extra : Option String) :
    Mirrors asked (run layout host ⟨runner, compiler, limit⟩ extra)
      (run layout host' ⟨inner, compiler, limit⟩ extra) := by
  refine .bind (prepare_mirrors layout) fun _ => .bind h.headers fun _ => ?_
  refine .bind (Toolchain.compileObject_mirrors hinner hshort ..) fun _ => ?_
  refine .bind (Toolchain.linkSharedLibrary_mirrors hinner hshort ..) fun _ => ?_
  exact .bind (Deployment.deploy_mirrors h ..) fun _ => .bind (.say ..) fun _ => .pure _

end Steps

namespace Pipeline

theorem length_questions {executable : String} :
    ∀ args ∈ questions executable, args.length < 8 := by
  simp [questions]

/-- Asking for the directories of the server and knowing them comes to the same. Where the runner
    tells the directories to the executable and is otherwise another runner, a run that asks ends
    as the run with that other runner that knows the directories: with the same result or the same
    failure, the same files, and the same calls but for those that ask. -/
theorem run_queried_fixed {runner inner : Command.Runner}
    {executable headers modules shared : String}
    (htells : Tells runner inner executable headers modules shared) (hheaders : Printable headers)
    (hmodules : Printable modules) (hshared : Printable shared) (layout : ProjectLayout)
    (compiler : String) (limit hostLimit : Option Seconds) (extra : Option String)
    (s : BuildState) :
    ∃ result t t',
      Ends (run layout (.queried executable runner hostLimit) ⟨runner, compiler, limit⟩ extra) s
        result t ∧
      Ends (run layout (.fixed ⟨.ofString headers, .ofString modules, .ofString shared⟩)
        ⟨inner, compiler, limit⟩ extra)
        { s with calls := withoutCalls (questions executable) s.calls } result t' ∧
      t'.files = t.files ∧ t'.calls = withoutCalls (questions executable) t.calls := by
  have hmirrored := htells.mirrored hheaders hmodules hshared hostLimit
  have hrun := run_mirrors htells.other length_questions compiler limit hmirrored layout extra
  have hwithout : Without (questions executable) s
      { s with calls := withoutCalls (questions executable) s.calls } := ⟨rfl, rfl⟩
  obtain ⟨result, t, t', ht, ht', hafter⟩ := hrun.ends hwithout
  exact ⟨result, t, t', ht, ht', hafter.files, hafter.calls⟩

/-- The runner of the sample build, told to answer for `pg_config`. -/
def tellingRunner : Command.Runner :=
  telling (.writing "ELF".toUTF8 fun _ => "") "pg_config" "/s" "/m" "/s"

/-- The run of the sample that asks for its directories succeeds, so that both do. -/
theorem run_queried_fixed_sample :
    ∃ result t t',
      Ends (run (sampleLayout "release") (.queried "pg_config" tellingRunner none)
        ⟨tellingRunner, "gcc", none⟩ none) (sampleState sampleScript) (.ok result) t ∧
      Ends (run (sampleLayout "release")
        (.fixed ⟨.ofString "/s", .ofString "/m", .ofString "/s"⟩)
        ⟨.writing "ELF".toUTF8 fun _ => "", "gcc", none⟩ none) (sampleState sampleScript)
        (.ok result) t' ∧
      t'.files = t.files ∧ t'.calls = withoutCalls (questions "pg_config") t.calls := by
  have hs : Printable "/s" := ⟨by decide, by decide, by rintro c ⟨⟩; rfl, by rintro c ⟨⟩; rfl⟩
  have hm : Printable "/m" := ⟨by decide, by decide, by rintro c ⟨⟩; rfl, by rintro c ⟨⟩; rfl⟩
  obtain ⟨r, t, t', ht, ht', hfiles, hcalls⟩ := run_queried_fixed (telling_tells ..) hs hm hs
    (sampleLayout "release") "gcc" none none none (sampleState sampleScript)
  have hrun : (Id.run ((run (sampleLayout "release") (.queried "pg_config" tellingRunner none)
      ⟨tellingRunner, "gcc", none⟩ none).run.run (sampleState sampleScript))).1.toOption.map
        (·.identity) = some sampleIdentity := by
    decide +kernel
  obtain ⟨result, t₁, hends, -⟩ := exists_ends_run hrun
  obtain ⟨rfl, rfl⟩ := ht.unique hends
  exact ⟨result, t, t', ht, ht', hfiles, hcalls⟩

end Pipeline

end NativeExtension

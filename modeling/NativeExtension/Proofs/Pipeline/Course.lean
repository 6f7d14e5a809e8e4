import NativeExtension.Proofs.Deployment.Effect
import NativeExtension.Proofs.Pipeline.Outputs
import NativeExtension.Proofs.Pipeline.Preparation
import NativeExtension.Proofs.Registration.Repeated

namespace NativeExtension

open Build FileTree

section Reading

variable {P : FileTree → Prop}

theorem Manifest.readIdentity_preserves (path : Path) : Preserves P (readIdentity path) :=
  .bind (.look _) fun _ => .bind (.orRead ..) fun _ => .bind (.ofResult _) fun _ =>
    .bind (.say ..) fun _ => .pure _

theorem Scan.declarations_preserves (sql : String) : Preserves P (declarations sql) := by
  unfold declarations
  split
  · exact .failWith _
  · exact .bind (.say ..) fun _ => .pure _

theorem Scan.wrapper_preserves (names : List String) : Preserves P (wrapper names) := by
  unfold wrapper
  split
  · exact .bind (.say ..) fun _ => .pure _
  · exact .pure _

end Reading

namespace Pipeline

/-- The extension that the manifest of a project names. -/
def Names (layout : ProjectLayout) (s : BuildState) (i : Identity) : Prop :=
  ∃ s₁, Ends (Manifest.readIdentity layout.manifest) s (.ok i) s₁

/-- The files of a project once its build directory is made. -/
def made (layout : ProjectLayout) (s : BuildState) : FileTree :=
  (s.files.ensureDirectory layout.buildDir).2

/-- The files that a build makes in the build directory. -/
def outputs (layout : ProjectLayout) (i : Identity) : List Path :=
  i.outputNames.map layout.buildDir.child

/-- No file that a build makes has a link in its place, once the build directory is made. -/
def NoOutputLink (layout : ProjectLayout) (s : BuildState) : Prop :=
  ∀ i, Names layout s i → ∀ name ∈ i.outputNames,
    (made layout s).EndsAtNoLink (layout.buildDir.child name)

/-- The stages that only read. -/
def readingStages : List String := ["manifest", "project", "scan"]

/-- What is known of an extension before any file is written. -/
structure Found where
  identity : Identity
  declarations : List Declaration
  wrapper : String

/-- The part of a run that only reads. -/
def read (layout : ProjectLayout) : Build Found := do
  let identity ← Manifest.readIdentity layout.manifest
  let sql ← Build.orRead (fun e => .project (.unreadableScript layout.script e))
    (← Build.look (·.readText layout.script))
  let declarations ← Scan.declarations sql
  let wrapper ← Scan.wrapper (declarations.map Declaration.functionName)
  pure { identity, declarations, wrapper }

/-- The part of a run that fills the build directory. -/
def fill (layout : ProjectLayout) (host : HostLayout) (tools : Toolchain.Tools)
    (extra : Option String) (found : Found) : Build BuildArtifacts := do
  let (script, control) ← Toolchain.writeMetadata layout.buildDir layout.script found.identity
  let source ← Toolchain.writeSource layout.buildDir found.identity found.wrapper
  let headers ← host.headers
  let object ← Toolchain.compileObject tools layout.buildDir source found.identity headers
    layout.libraryDir
  let sharedLibrary ← Toolchain.linkSharedLibrary tools layout.buildDir object found.identity
    layout.libraryDir extra
  pure { source, object, sharedLibrary, script, control }

/-- A run reads, fills the build directory and deploys what it made there. -/
theorem run_eq (layout : ProjectLayout) (host : HostLayout) (tools : Toolchain.Tools)
    (extra : Option String) :
    run layout host tools extra = (do
      let found ← read layout
      let artifacts ← fill layout host tools extra found
      let deployed ← Deployment.deploy artifacts found.identity host
      Build.say .info
        ("Extension " ++ found.identity.name ++ " " ++ found.identity.version ++ " installed")
      pure {
        identity := found.identity
        declarations := found.declarations
        artifacts
        deployed }) := by
  simp only [run, prepare, read, fill, bind_assoc, pure_bind]

theorem read_preserves (P : FileTree → Prop) (layout : ProjectLayout) :
    Preserves P (read layout) := by
  refine .bind (Manifest.readIdentity_preserves _) fun _ => .bind (.look _) fun _ => ?_
  refine .bind (.orRead ..) fun _ => .bind (Scan.declarations_preserves _) fun _ => ?_
  exact .bind (Scan.wrapper_preserves _) fun _ => .pure _

theorem orRead_eq_ok {α : Type} {wrap : ReadError → BuildError} {result : Except Fault α} {a : α}
    {s s' : BuildState} (h : Ends (orRead wrap result) s (.ok a) s') : result = .ok a ∧ s' = s := by
  cases result with
  | ok b => simpa [eq_comm] using ends_pure_iff.mp h
  | error fault => cases fault <;> simp [orRead] at h

theorem Scan.declarations_ok {sql : String} {found : List Declaration} {s s' : BuildState}
    (h : Ends (Scan.declarations sql) s (.ok found) s') :
    ∃ tokens, Sql.tokenize sql = .ok tokens ∧ found = Declaration.ofTokens tokens := by
  unfold Scan.declarations at h
  split at h
  next => simp at h
  next tokens htokens =>
    obtain ⟨_, _, -, h⟩ := ends_bind_ok_iff.mp h
    exact ⟨tokens, htokens, by simpa using (ends_pure_iff.mp h).1⟩

theorem Scan.wrapper_ok {names : List String} {source : String} {s s' : BuildState}
    (h : Ends (Scan.wrapper names) s (.ok source) s') : source = Registration.source names :=
  Except.ok.inj (h.unique (Scan.wrapper_ends names s)).1

/-- What is found where reading succeeds. -/
theorem read_ok {layout : ProjectLayout} {found : Found} {s s' : BuildState}
    (h : Ends (read layout) s (.ok found) s') :
    Names layout s found.identity ∧ ∃ sql tokens, s.files.readText layout.script = .ok sql ∧
      Sql.tokenize sql = .ok tokens ∧ found.declarations = Declaration.ofTokens tokens ∧
      found.wrapper = Registration.source (found.declarations.map Declaration.functionName) := by
  obtain ⟨i, s₁, hidentity, h⟩ := ends_bind_ok_iff.mp h
  have hfiles : s₁.files = s.files :=
    (Manifest.readIdentity_preserves (P := (· = s.files)) _).files hidentity rfl
  obtain ⟨result, s₂, hlook, h⟩ := ends_bind_ok_iff.mp h
  obtain ⟨hresult, -⟩ := ends_look_iff.mp hlook
  obtain ⟨sql, s₃, hread, h⟩ := ends_bind_ok_iff.mp h
  obtain ⟨hsql, -⟩ := orRead_eq_ok hread
  obtain ⟨declarations, s₄, hscan, h⟩ := ends_bind_ok_iff.mp h
  obtain ⟨tokens, htokens, rfl⟩ := Scan.declarations_ok hscan
  obtain ⟨wrapper, s₅, hwrapper, h⟩ := ends_bind_ok_iff.mp h
  obtain rfl := Scan.wrapper_ok hwrapper
  obtain ⟨⟨⟩, -⟩ := ends_pure_iff.mp h
  have htext : s.files.readText layout.script = .ok sql := by
    rw [← hfiles, ← hsql]
    simpa using hresult.symm
  exact ⟨⟨s₁, hidentity⟩, sql, tokens, htext, htokens, rfl, rfl⟩

variable {layout : ProjectLayout} {host : HostLayout} {tools : Toolchain.Tools}
  {extra : Option String} {found : Found} {modules shared : Path} {s s' : BuildState}

/-- However filling the build directory ends, it writes no more than the files that a build makes
    there. -/
theorem fill_writes {r : Except Failure BuildArtifacts}
    (h : Ends (fill layout host tools extra found) s r s') (htidy : tools.runner.Tidy)
    (hserves : host.Serves modules shared) {t : FileTree}
    (hmade : (s.files.ensureDirectory layout.buildDir).2 = t)
    (hlinks : ∀ name ∈ found.identity.outputNames, t.EndsAtNoLink (layout.buildDir.child name)) :
    WritesOnly (outputs layout found.identity) t s'.files := by
  have output {name : String} (hname : name ∈ found.identity.outputNames) :
      layout.buildDir.child name ∈ outputs layout found.identity ∧
        t.EndsAtNoLink (layout.buildDir.child name) :=
    ⟨List.mem_map_of_mem hname, hlinks name hname⟩
  have hscript := output found.identity.scriptName_mem
  have hcontrol := output found.identity.controlName_mem
  have hsource := output found.identity.sourceName_mem
  have hobject := output found.identity.objectName_mem
  have hlibrary := output found.identity.sharedLibraryName_mem
  obtain ⟨failure, hmetadata, -⟩ | ⟨_, s₁, hmetadata, h⟩ := ends_bind_iff.mp h
  · exact Toolchain.writeMetadata_writes hmetadata hmade hscript hcontrol
  have hwritten := Toolchain.writeMetadata_writes hmetadata hmade hscript hcontrol
  refine Preserves.files ?_ h hwritten
  refine .bind (Toolchain.writeSource_preserves hsource.1 hsource.2 _) fun _ => ?_
  refine .bind hserves.headers.preserves fun _ => ?_
  refine .bind (Toolchain.compileObject_preserves htidy hobject.1 hobject.2 ..)
    fun _ => ?_
  exact .bind (Toolchain.linkSharedLibrary_preserves htidy hlibrary.1 hlibrary.2 ..)
    fun _ => .pure _

end Pipeline

end NativeExtension

import NativeExtension.Proofs.Deployment.Alongside

namespace NativeExtension.Pipeline

open Build FileTree

/-- What the tools read besides the object file that is linked: the generated source and the static
    archive. -/
def inputs (layout : ProjectLayout) (i : Identity) : List String :=
  [(layout.buildDir.child i.sourceName).toString,
    (Command.archivePath layout.libraryDir i).toString]

/-- Two states that are the same but for what earlier runs of a project left, and for how much of its
    build directory there is. What was left is not what a run reads: not the manifest, the SQL
    definition or the static archive. -/
structure DifferInLeftovers (layout : ProjectLayout) (modules shared : Path) (s s' : BuildState) :
    Prop where
  calls : s'.calls = s.calls
  messages : s'.messages = s.messages
  manifest : s'.files.find layout.manifest.toString = s.files.find layout.manifest.toString
  script : s'.files.find layout.script.toString = s.files.find layout.script.toString
  directory : (s'.files.ensureDirectory layout.buildDir).1 =
    (s.files.ensureDirectory layout.buildDir).1
  leftovers : ∀ i, Names layout s i →
    (places layout i modules shared).Leftovers (made layout s) (made layout s')

/-- Two trees in which every path leads to the same content. -/
def SameContent (t u : FileTree) : Prop := ∀ text, u.content? text = t.content? text

theorem readText_congr {t u : FileTree} {path : Path}
    (h : u.find path.toString = t.find path.toString) : u.readText path = t.readText path := by
  unfold readText readFile readUpTo readsEndlessly
  rw [h]

section Reading

variable {x y : FileTree}

theorem readIdentity_agrees {path : Path} (h : y.find path.toString = x.find path.toString) :
    Agrees (fun t u => t = x ∧ u = y) (Manifest.readIdentity path) fun _ t u => t = x ∧ u = y := by
  refine .bind (.look ?_) fun _ => .bind (.orRead ..) fun _ => ?_
  · rintro _ _ ⟨rfl, rfl⟩
    exact readText_congr h
  · exact .bind (.ofResult fun _ _ _ _ => id) fun _ => .bind (.say ..) fun _ => .pure fun _ _ => id

theorem declarations_agrees {P : FileTree → FileTree → Prop} (sql : String) :
    Agrees P (Scan.declarations sql) fun _ => P := by
  unfold Scan.declarations
  split
  · exact .failWith _
  · exact .bind (.say ..) fun _ => .pure fun _ _ => id

theorem wrapper_agrees {P : FileTree → FileTree → Prop} (names : List String) :
    Agrees P (Scan.wrapper names) fun _ => P := by
  unfold Scan.wrapper
  split
  · exact .bind (.say ..) fun _ => .pure fun _ _ => id
  · exact .pure fun _ _ => id

theorem read_agrees {layout : ProjectLayout}
    (hmanifest : y.find layout.manifest.toString = x.find layout.manifest.toString)
    (hscript : y.find layout.script.toString = x.find layout.script.toString) :
    Agrees (fun t u => t = x ∧ u = y) (read layout) fun _ t u => t = x ∧ u = y := by
  refine .bind (readIdentity_agrees hmanifest) fun _ => .bind (.look ?_) fun _ => ?_
  · rintro _ _ ⟨rfl, rfl⟩
    exact readText_congr hscript
  refine .bind (.orRead ..) fun _ => .bind (declarations_agrees _) fun _ => ?_
  exact .bind (wrapper_agrees _) fun _ => .pure fun _ _ => id

end Reading

variable {layout : ProjectLayout} {host : HostLayout} {tools : Toolchain.Tools}
  {found : Found} {modules shared : Path} {s s' : BuildState}

/-- What filling the build directory and deploying needs of the tools and of the host. -/
structure Reproducible (layout : ProjectLayout) (host : HostLayout) (tools : Toolchain.Tools)
    (modules shared : Path) (i : Identity) : Prop where
  tidy : tools.runner.Tidy
  determined : tools.runner.Determined (inputs layout i)
  serves : host.Serves modules shared
  steady : host.Steady (inputs layout i)

theorem fill_agrees (h : Reproducible layout host tools modules shared found.identity)
    (hdirectory : (s'.files.ensureDirectory layout.buildDir).1 =
      (s.files.ensureDirectory layout.buildDir).1)
    (hleft : (places layout found.identity modules shared).Leftovers (made layout s)
      (made layout s'))
    (hscript : Matching FoundAlike ((made layout s).find layout.script.toString)
      ((made layout s').find layout.script.toString)) (extra : Option String) :
    Agrees (fun t u => t = s.files ∧ u = s'.files) (fill layout host tools extra found)
      fun artifacts t u => artifacts = .within layout.buildDir found.identity ∧
        (places layout found.identity modules shared).Installing (made layout s) [] t u := by
  have output {name : String} (hname : name ∈ found.identity.outputNames) :
      layout.buildDir.child name ∈ (places layout found.identity modules shared).outputs :=
    List.mem_map_of_mem hname
  have hscriptName := output found.identity.scriptName_mem
  have hcontrol := output found.identity.controlName_mem
  have hsource := output found.identity.sourceName_mem
  have hobject := output found.identity.objectName_mem
  have hlibrary := output found.identity.sharedLibraryName_mem
  refine .bind (Toolchain.writeMetadata_agrees hdirectory rfl hleft hscript hscriptName hcontrol)
    (.of_value ?_)
  refine .bind (Toolchain.writeSource_agrees hsource _) (.of_value ?_)
  refine .bind (h.serves.headers.agrees h.steady.headers (fun t u h => h.sameContents (.head _))
    fun t u t' u' h ht hu => h.of_writesNothing ht hu) fun headers => ?_
  refine .bind ((Toolchain.compileObject_agrees h.tidy h.determined hobject
    (fun t u h => h.sameContents (.head _)) ..).mono (fun _ _ h => h.2) fun _ _ _ => id)
    (.of_value ?_)
  refine .bind (Toolchain.linkSharedLibrary_agrees h.tidy h.determined hobject (.head _) hlibrary
    (fun t u h => h.sameContents (.tail _ (.head _))) ..) (.of_value (.pure fun t u h => ⟨rfl, ?_⟩))
  refine h.installing fun p hp => ?_
  obtain ⟨name, hname, rfl⟩ := List.mem_map.mp hp
  simp only [Identity.outputNames, List.mem_cons, List.not_mem_nil, or_false] at hname
  obtain rfl | rfl | rfl | rfl | rfl := hname <;> simp

/-- What a run reads it finds also once the build directory is made. -/
theorem made_find {path : Path} {text : String} (h : s.files.readText path = .ok text) :
    ∃ x, s.files.find path.toString = .ok x ∧ (made layout s).find path.toString = .ok x := by
  obtain ⟨content, mode, l, hfile | ⟨hdevice, -⟩⟩ := exists_reads_of_readText h
  · exact ⟨_, hfile, (ensureDirectory_scaffold s.files layout.buildDir).find_eq_ok (by simp) hfile⟩
  · exact ⟨_, hdevice,
      (ensureDirectory_scaffold s.files layout.buildDir).find_eq_ok (by simp) hdevice⟩

/-- What is installed was made in the build directory. -/
theorem source_mem_outputs {i : Identity} {f : DeployedFile}
    (h : f ∈ Deployment.targets (.within layout.buildDir i) i modules shared) :
    f.source ∈ outputs layout i := by
  simp only [Deployment.targets, BuildArtifacts.within, List.mem_cons, List.not_mem_nil,
    or_false] at h
  obtain rfl | rfl | rfl := h
  · exact List.mem_map_of_mem i.sharedLibraryName_mem
  · exact List.mem_map_of_mem i.scriptName_mem
  · exact List.mem_map_of_mem i.controlName_mem

/-- Runs that begin with the same but for leftovers end alike. -/
theorem run_endsAlike (hrun : ∀ i, Names layout s i →
      Reproducible layout host tools modules shared i)
    (h : DifferInLeftovers layout modules shared s s') (extra : Option String) :
    EndsAlike (fun _ => SameContent) (run layout host tools extra) s s' := by
  rw [run_eq]
  have hread := (read_agrees h.manifest h.script).ends ⟨h.calls, h.messages, rfl, rfl⟩
  refine hread.bind fun found t ht => ?_
  obtain ⟨hnames, sql, -, hsql, -⟩ := read_ok ht
  have hscript : Matching FoundAlike ((made layout s).find layout.script.toString)
      ((made layout s').find layout.script.toString) := by
    obtain ⟨x, hx, hmade⟩ := made_find hsql
    obtain ⟨y, hy, hmade'⟩ := made_find ((readText_congr h.script).trans hsql)
    obtain rfl : y = x := by simpa [h.script, hx, eq_comm] using hy
    exact .of_eq (fun _ => ⟨rfl, rfl⟩) (hmade'.trans hmade.symm)
  have hfound := hrun _ hnames
  refine .bind (fill_agrees hfound h.directory (h.leftovers _ hnames) hscript extra) (.of_value ?_)
  have hsource : layout.buildDir.child found.identity.sourceName ∈
      (places layout found.identity modules shared).outputs :=
    List.mem_map_of_mem found.identity.sourceName_mem
  refine .bind (Deployment.deploy_agrees hfound.serves hfound.steady rfl hsource fun f hf => ?_)
    fun _ => .bind (.say ..) fun _ => .pure fun _ _ => id
  exact source_mem_outputs hf

end NativeExtension.Pipeline

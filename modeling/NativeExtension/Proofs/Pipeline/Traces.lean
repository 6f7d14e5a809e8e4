import NativeExtension.Proofs.Pipeline.Leftovers

namespace NativeExtension

open Build FileTree

namespace Pipeline.Places

/-- Places at which files are installed in the place of no link and of no file that is made. -/
structure Settled (places : Places) (t : FileTree) : Prop where
  links : ∀ p ∈ places.destinations, t.EndsAtNoLink p
  apart : ∀ p ∈ places.outputs, ∀ q ∈ places.destinations, ∀ l,
    t.resolve .newFile p.toString = .ok l → t.resolve .link q.toString ≠ .ok l

namespace Traces

variable {places : Places} {start t u : FileTree} {p : Path} {l : Location}

theorem refl (places : Places) (t : FileTree) : places.Traces t t :=
  ⟨.refl t, fun _ => .inl rfl, fun _ _ l _ => .refl t l⟩

/-- A run that changes one entry, where it may. -/
theorem step (h : places.Traces start t) (hways : SameWays t u)
    (hspot : Spot start places.outputs places.destinations l)
    (hothers : ∀ m ≠ l, u.get? m = t.get? m)
    (hwritten : ∀ p ∈ places.outputs, start.resolve .newFile p.toString = .ok l →
      WrittenAlike t u l) : places.Traces start u := by
  refine ⟨h.ways.trans hways, fun m => ?_, fun p hp m hm => (h.written p hp m hm).trans ?_⟩
  · by_cases hml : m = l
    · exact .inr (hml ▸ hspot)
    · rw [hothers m hml]
      exact h.entries m
  · by_cases hml : m = l
    · subst hml
      exact hwritten p hp hm
    · exact .of_get? hways (hothers m hml)

/-- A file that a run may leave where nothing was: installed with any rights, or made with those of
    a new file where one can be made. -/
theorem put (h : places.Traces start t)
    (hspot : Spot start places.outputs places.destinations l) (hnone : t.get? l = none)
    (content : ByteArray) {mode : Nat}
    (hmode : t.mayChange l = true ∧ ownerRights mode = ownerRights newFileMode ∨
      ∀ p ∈ places.outputs, start.resolve .newFile p.toString ≠ .ok l) :
    places.Traces start (t.put l (.file content mode)) := by
  have hstop : wayOf (t.get? l) = .stop := by simp [hnone, wayOf]
  have hl := ne_root_of_stop hstop
  refine h.step (Deployment.sameWays_put_file hl content mode hstop) hspot
    (fun m hm => get?_put_of_ne hm _) fun p hp hmade => ?_
  obtain ⟨hchange, hrights⟩ | hapart := hmode
  · refine .inr ⟨ownerRights newFileMode, ?_, ?_⟩
    · rw [writtenRights, hnone, if_pos hchange]
    · rw [writtenRights, get?_put_self hl]
      exact congrArg some hrights
  · exact absurd hmade (hapart p hp)

theorem of_writesNothing (h : places.Traces start t) (ht : WritesOnly [] t u) :
    places.Traces start u := by
  have hget (l : Location) : u.get? l = t.get? l := ht.others l (by simp)
  refine ⟨h.ways.trans ht.ways, fun l => ?_, fun p hp l hl => ?_⟩
  · rw [hget]
    exact h.entries l
  · exact (h.written p hp l hl).trans (.of_get? ht.ways (hget l))

theorem putContent (h : places.Traces start t) (hp : p ∈ places.outputs) (content : ByteArray)
    (hopen : t.openForWriting p.toString = .ok (l, t.get? l)) :
    places.Traces start (t.putContent l content (t.get? l)) := by
  have hstart := h.ways.symm.resolve_eq_ok (openForWriting_eq_ok hopen).1
  exact h.step (putContent_sameWays content (openForWriting_stop hopen)) (.inl ⟨p, hp, hstart⟩)
    (fun m hm => putContent_get?_of_ne content _ hm)
    fun _ _ _ => putContent_writtenAlike content hopen l

theorem run {runner : Command.Runner} {c : Command.Call} (h : places.Traces start t)
    (htidy : runner.Tidy) (hkeeps : runner.KeepsRights) (hp : p ∈ places.outputs)
    (houtput : Command.output? c.args = some p.toString) (earlier : List Command.Call) :
    places.Traces start (runner earlier c t).2 := by
  refine ⟨h.ways.trans htidy.sameWays, fun l => ?_,
    fun q hq l hl => (h.written q hq l hl).trans (hkeeps earlier c t l)⟩
  obtain hsame | ⟨output, hmakes, hresolve, -⟩ := htidy.entries earlier c t l
  · rw [hsame]
    exact h.entries l
  · obtain rfl : p.toString = output := by simpa [houtput] using hmakes
    exact .inr (.inl ⟨p, hp, h.ways.symm.resolve_eq_ok hresolve⟩)

theorem installs {files : List DeployedFile} (h : places.Traces start t)
    (hsettled : places.Settled start) (hinstalls : Deployment.Installs t files u)
    (hfiles : ∀ f ∈ files, f.destination ∈ places.destinations) : places.Traces start u := by
  induction hinstalls with
  | nil => exact h
  | @cons t v _ f rest head _ ih =>
    obtain ⟨hfirst, hrest⟩ := List.forall_mem_cons.mp hfiles
    refine ih ?_ hrest
    obtain ⟨d, _, _, -, hresolve, -, hothers, -, hways, -⟩ := Deployment.install_eq_ok head
    have hlink := (hsettled.links _ hfirst).of_keepsWays h.ways.symm.keepsWays
    have hstart := h.ways.symm.resolve_eq_ok hresolve
    exact h.step (hways hlink) (.inr ⟨_, hfirst, hstart⟩) hothers
      fun p hp hmade => absurd hstart (hsettled.apart p hp _ hfirst d hmade)

end Traces

end Pipeline.Places

section Filling

variable {places : Pipeline.Places} {start : FileTree} {p : Path}

theorem Build.Preserves.writesOutput (hp : p ∈ places.outputs) (content : ByteArray) :
    Preserves (places.Traces start) (Build.change (·.writeFile p.toString content)) := by
  refine .change fun t u h hwrite => ?_
  obtain ⟨l, hopen, rfl⟩ := writeFile_eq_ok hwrite
  exact h.putContent hp content hopen

theorem Build.Preserves.copiesOutput (hp : p ∈ places.outputs) (source : Path) :
    Preserves (places.Traces start) (Build.change (·.copyFile source p.toString)) := by
  refine .change fun t u h hcopy => ?_
  obtain ⟨-, content, _, l, -, hopen, rfl⟩ := copyFile_eq_ok hcopy
  exact h.putContent hp content hopen

theorem Build.Preserves.runsTool {runner : Command.Runner} {args : List String}
    (htidy : runner.Tidy) (hkeeps : runner.KeepsRights) (hp : p ∈ places.outputs)
    (houtput : Command.output? args = some p.toString) (stage : ToolStage)
    (limit : Option Seconds) :
    Preserves (places.Traces start) (Build.runTool runner args stage limit) :=
  .runTool stage fun earlier _ h => h.run htidy hkeeps hp houtput earlier

theorem HostLayout.Question.traces {allowed : Path → Prop} {m : Build Path}
    (h : Question allowed m) : Preserves (places.Traces start) m :=
  ⟨fun hends htraces => htraces.of_writesNothing (h.files hends)⟩

namespace Pipeline

variable {layout : ProjectLayout} {host : HostLayout} {tools : Toolchain.Tools}
  {extra : Option String} {found : Found} {modules shared : Path} {s s' : BuildState}

/-- However filling the build directory ends, once the directory is made it leaves traces only. -/
theorem fill_traces {r : Except Failure BuildArtifacts}
    (h : Ends (fill layout host tools extra found) s r s') (htidy : tools.runner.Tidy)
    (hkeeps : tools.runner.KeepsRights) (hserves : host.Serves modules shared)
    (houtputs : places.outputs = outputs layout found.identity) :
    places.Traces (s.files.ensureDirectory layout.buildDir).2 s'.files := by
  have output {name : String} (hname : name ∈ found.identity.outputNames) :
      layout.buildDir.child name ∈ places.outputs :=
    houtputs ▸ List.mem_map_of_mem hname
  have hmetadata {r : Except Failure (Path × Path)} {t : BuildState}
      (h : Ends (Toolchain.writeMetadata layout.buildDir layout.script found.identity) s r t) :
      places.Traces (s.files.ensureDirectory layout.buildDir).2 t.files := by
    obtain ⟨fault, -, rfl, -⟩ | ⟨-, h⟩ := changeAnywayOr_cases h
    · exact .refl _ _
    · refine Preserves.files ?_ h (.refl _ _)
      refine .bind (.copiesOutput (output found.identity.scriptName_mem) _) fun _ => ?_
      refine .bind (.orSystem ..) fun _ => ?_
      refine .bind (.writesOutput (output found.identity.controlName_mem) _) fun _ => ?_
      exact .bind (.orSystem ..) fun _ => .bind (.say ..) fun _ => .pure _
  obtain ⟨failure, hwritten, -⟩ | ⟨_, t, hwritten, h⟩ := ends_bind_iff.mp h
  · exact hmetadata hwritten
  refine Preserves.files ?_ h (hmetadata hwritten)
  refine .bind (.bind (.writesOutput (output found.identity.sourceName_mem) _) fun _ =>
    .bind (.orSystem ..) fun _ => .bind (.say ..) fun _ => .pure _) fun _ => ?_
  refine .bind hserves.headers.traces fun _ => ?_
  refine .bind (.bind (.runsTool htidy hkeeps (output found.identity.objectName_mem)
    (Command.output?_compile ..) ..) fun _ => .need (.pure _)) fun _ => ?_
  refine .bind (.need (.bind (.runsTool htidy hkeeps (output found.identity.sharedLibraryName_mem)
    (Command.output?_link ..) ..) fun _ => .pure _)) fun _ => .pure _

/-- However a run ends, it changes nothing or leaves traces only. -/
theorem run_traces {r : Except Failure PipelineResult}
    (h : Ends (run layout host tools extra) s r s') (htidy : tools.runner.Tidy)
    (hkeeps : tools.runner.KeepsRights) (hserves : host.Serves modules shared)
    (hsettled : ∀ i, Names layout s i →
      (Pipeline.places layout i modules shared).Settled (made layout s)) :
    s'.files = s.files ∨ ∃ i sql, Names layout s i ∧ s.files.readText layout.script = .ok sql ∧
      (Pipeline.places layout i modules shared).Traces (made layout s) s'.files := by
  rw [run_eq] at h
  obtain ⟨failure, hread, -⟩ | ⟨found, s₁, hread, h⟩ := ends_bind_iff.mp h
  · exact .inl ((read_preserves (· = s.files) layout).files hread rfl)
  right
  have hfiles : s₁.files = s.files := (read_preserves (· = s.files) layout).files hread rfl
  obtain ⟨hnames, sql, -, hsql, -⟩ := read_ok hread
  refine ⟨found.identity, sql, hnames, hsql, ?_⟩
  have hfilled {r : Except Failure BuildArtifacts} {t : BuildState}
      (hfill : Ends (fill layout host tools extra found) s₁ r t) :
      (Pipeline.places layout found.identity modules shared).Traces (made layout s) t.files := by
    have hplaces : (Pipeline.places layout found.identity modules shared).outputs =
      outputs layout found.identity := rfl
    have htraces := fill_traces hfill htidy hkeeps hserves hplaces
    rwa [hfiles] at htraces
  obtain ⟨failure, hfill, -⟩ | ⟨artifacts, s₂, hfill, h⟩ := ends_bind_iff.mp h
  · exact hfilled hfill
  have hdeployed {r : Except Failure (List DeployedFile)} {t : BuildState}
      (hdeploy : Ends (Deployment.deploy artifacts found.identity host) s₂ r t) :
      (Pipeline.places layout found.identity modules shared).Traces (made layout s) t.files := by
    obtain ⟨v, done, hasked, hinstalls, hdone, -⟩ := Deployment.deploy_cases hserves hdeploy
    refine ((hfilled hfill).of_writesNothing hasked).installs (hsettled _ hnames) hinstalls
      fun f hf => ?_
    change f.destination ∈ Deployment.destinations found.identity modules shared
    rw [← Deployment.targets_destinations artifacts]
    exact List.mem_map_of_mem (hdone.subset hf)
  obtain ⟨failure, hdeploy, -⟩ | ⟨deployed, s₃, hdeploy, h⟩ := ends_bind_iff.mp h
  · exact hdeployed hdeploy
  · have htraces := hdeployed hdeploy
    simp only [ends_bind_iff, ends_say_iff, ends_pure_iff] at h
    obtain ⟨_, ⟨⟨⟩, _⟩, _⟩ | ⟨_, _, ⟨_, rfl⟩, -, rfl⟩ := h
    exact htraces

end Pipeline

end Filling

end NativeExtension

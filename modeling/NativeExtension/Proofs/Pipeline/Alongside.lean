import NativeExtension.Proofs.Host.Steady
import NativeExtension.Proofs.Pipeline.Leftovers

namespace NativeExtension

open Build FileTree

theorem FileTree.Alike.of_writesNothing {a : Accord} {t u t' u' : FileTree} (h : Alike a t u)
    (ht : WritesOnly [] t t') (hu : WritesOnly [] u u') : Alike a t' u' := by
  have hstep : Alike (a.with []) t' u' :=
    h.step ((ht.ways.symm.trans h.ways).trans hu.ways) ht.ways.symm.keepsWays ht.ways.mayChange
      (by simp [FileTree.plain?, get?]) (fun l _ => ht.others l (by simp))
      (fun l _ => hu.others l (by simp))
  exact hstep.mono (fun _ hl => .inl hl) fun _ htext => .inl htext

namespace Pipeline.Places

variable {places : Places} {start t u t' u' : FileTree} {made installed : List Path} {p : Path}

theorem Filling.of_writesNothing (h : places.Filling start made t u) (ht : WritesOnly [] t t')
    (hu : WritesOnly [] u u') : places.Filling start made t' u' :=
  ⟨h.ways.trans ht.ways, h.alike.of_writesNothing ht hu⟩

theorem Installing.of_writesNothing (h : places.Installing start installed t u)
    (ht : WritesOnly [] t t') (hu : WritesOnly [] u u') :
    places.Installing start installed t' u' :=
  ⟨ht.ways.symm.keepsWays.trans h.ways, h.alike.of_writesNothing ht hu⟩

theorem Filling.content? (h : places.Filling start made t u) (hp : p ∈ made) :
    u.content? p.toString = t.content? p.toString :=
  h.alike.content?_eq (.inr ⟨p, hp, rfl⟩)

/-- What the tools read is the same once the generated source is made. -/
theorem Filling.sameContents (h : places.Filling start made t u) {source : Path}
    (hsource : source ∈ made) :
    SameContents [source.toString, places.archive.toString] t u := by
  intro text htext
  simp only [List.mem_cons, List.not_mem_nil, or_false] at htext
  obtain rfl | rfl := htext
  · exact h.content? hsource
  · exact h.alike.content?_eq (.inl rfl)

theorem Installing.sameContents (h : places.Installing start installed t u) {source : Path}
    (hsource : source ∈ places.outputs) :
    SameContents [source.toString, places.archive.toString] t u := by
  intro text htext
  simp only [List.mem_cons, List.not_mem_nil, or_false] at htext
  obtain rfl | rfl := htext
  · exact h.alike.content?_eq (.inr ⟨source, hsource, rfl⟩)
  · exact h.alike.content?_eq (.inl rfl)

/-- A command makes one more file, unless it goes wrong in both runs. -/
theorem Filling.run {runner : Command.Runner} {inputs args : List String} {limit : Option Seconds}
    (h : places.Filling start made t u) (htidy : runner.Tidy) (hdetermined : runner.Determined inputs)
    (hp : p ∈ places.outputs) (houtput : Command.output? args = some p.toString)
    (hinputs : SameContents inputs t u)
    (hobject : ∀ text, Command.linked? args = some text → u.content? text = t.content? text)
    (earlier : List Command.Call) :
    (runner earlier ⟨args, limit⟩ u).1 = (runner earlier ⟨args, limit⟩ t).1 ∧
      ∀ outcome, (runner earlier ⟨args, limit⟩ t).1 = .ok outcome → outcome.ok = true →
        places.Filling start (p :: made) (runner earlier ⟨args, limit⟩ t).2
          (runner earlier ⟨args, limit⟩ u).2 := by
  have hsame : Command.SameTo inputs ⟨args, limit⟩ t u := by
    refine ⟨hinputs, hobject, fun text htext => ?_, fun text l htext hl => ?_⟩
    · obtain rfl : p.toString = text := by simpa [houtput] using htext
      exact h.alike.used _ (.output hp) .newFile
    · obtain rfl : p.toString = text := by simpa [houtput] using htext
      exact h.opened hp l hl
  refine ⟨hdetermined.answer earlier _ t u hsame, fun outcome hok hzero => ?_⟩
  -- what is at the output is the same now, whatever was there before; all else is kept
  obtain ⟨l, hl, hplain⟩ := hdetermined.written earlier _ t u _ outcome hsame houtput hok hzero
  have others {v : FileTree} (hv : v.resolve .newFile p.toString = .ok l) (m : Location)
      (hm : m ≠ l) : (runner earlier ⟨args, limit⟩ v).2.get? m = v.get? m := by
    obtain hkept | ⟨text, htext, hresolve, -⟩ := htidy.entries earlier ⟨args, limit⟩ v m
    · exact hkept
    · obtain rfl : p.toString = text := by simpa [houtput] using htext
      exact absurd (resolve_unique hresolve hv) hm
  have hways : SameWays t (runner earlier ⟨args, limit⟩ t).2 := htidy.sameWays
  refine h.make hl hways
    (h.alike.step ?_ hways.symm.keepsWays hways.mayChange hplain (others hl) (others ?_))
  · exact (hways.symm.trans h.alike.ways).trans htidy.sameWays
  · exact h.alike.ways.resolve_eq_ok hl

end Pipeline.Places

open Pipeline (Places)

section Filling

variable {places : Places} {start : FileTree} {made : List Path} {buildDir : Path} {i : Identity}
  {β : Type} {R : β → FileTree → FileTree → Prop}

/-- A step that ends with a value that is known goes on with that value. -/
theorem Build.Agrees.of_value {P : FileTree → FileTree → Prop} {α : Type} {a : α} {f : α → Build β}
    (h : Agrees P (f a) R) (b : α) : Agrees (fun t u => b = a ∧ P t u) (f b) R where
  ends hs := by
    obtain ⟨hcalls, hmessages, rfl, hP⟩ := hs
    exact h.ends ⟨hcalls, hmessages, hP⟩

theorem Build.Agrees.writeFile {p : Path} (hp : p ∈ places.outputs) (content : ByteArray)
    {wrap : SystemError → BuildError} {rest : Build β}
    (hrest : Agrees (places.Filling start (p :: made)) rest R) :
    Agrees (places.Filling start made) (do
      Build.orSystem wrap (← Build.change (·.writeFile p.toString content))
      rest) R := by
  refine .changeOr (fun t u h => ?_) hrest
  refine (h.alike.writeFile (.output hp) (h.opened hp) content).mono fun t' u' hwrote => ?_
  obtain ⟨l, hl, hways, halike⟩ := hwrote
  exact h.make hl hways halike

/-- The metadata is written in both runs, or the same goes wrong, where making the build directory
    ends alike and leaves the same but for leftovers. -/
theorem Toolchain.writeMetadata_agrees {x y : FileTree} {script : Path}
    (hdirectory : (y.ensureDirectory buildDir).1 = (x.ensureDirectory buildDir).1)
    (hstart : (x.ensureDirectory buildDir).2 = start)
    (hleft : places.Leftovers start (y.ensureDirectory buildDir).2)
    (hscript : Matching FoundAlike (start.find script.toString)
      ((y.ensureDirectory buildDir).2.find script.toString))
    (hcopy : buildDir.child i.scriptName ∈ places.outputs)
    (hcontrol : buildDir.child i.controlName ∈ places.outputs) :
    Agrees (fun t u => t = x ∧ u = y) (writeMetadata buildDir script i) fun written t u =>
      written = (buildDir.child i.scriptName, buildDir.child i.controlName) ∧
        places.Filling start [buildDir.child i.controlName, buildDir.child i.scriptName] t u := by
  refine .changeAnywayOr (S := fun t u => t = start ∧ u = (y.ensureDirectory buildDir).2) ?_
    (.changeOr ?_ (.writeFile hcontrol _ (.bind (.say ..) fun _ => .pure fun _ _ h => ⟨rfl, h⟩)))
  · rintro _ _ ⟨rfl, rfl⟩
    exact ⟨hdirectory, fun _ => ⟨hstart, rfl⟩⟩
  · rintro _ _ ⟨rfl, rfl⟩
    have h := hleft.filling
    refine (h.alike.copyFile hscript (.output hcopy) (h.opened hcopy) fun e he => ?_).mono
      fun t' u' hcopied => ?_
    · exact h.alike.copyFault (.output hcopy) hleft.current he
    · obtain ⟨l, hl, hways, halike⟩ := hcopied
      exact h.make hl hways halike

theorem Toolchain.writeSource_agrees (hsource : buildDir.child i.sourceName ∈ places.outputs)
    (source : String) :
    Agrees (places.Filling start made) (writeSource buildDir i source) fun path t u =>
      path = buildDir.child i.sourceName ∧
        places.Filling start (buildDir.child i.sourceName :: made) t u :=
  .writeFile hsource _ (.bind (.say ..) fun _ => .pure fun _ _ h => ⟨rfl, h⟩)

section Tools

variable {tools : Toolchain.Tools} {inputs : List String}

/-- A tool makes one more file, unless it goes wrong in both runs. -/
theorem Build.Agrees.runTool_makes {p : Path} {args : List String} {limit : Option Seconds}
    (htidy : tools.runner.Tidy) (hdetermined : tools.runner.Determined inputs)
    (hp : p ∈ places.outputs) (houtput : Command.output? args = some p.toString)
    (hinputs : ∀ t u, places.Filling start made t u → SameContents inputs t u)
    (hobject : ∀ text, Command.linked? args = some text → ∃ q ∈ made, text = q.toString)
    (stage : ToolStage) :
    Agrees (places.Filling start made) (Build.runTool tools.runner args stage limit) fun _ =>
      places.Filling start (p :: made) := by
  refine .runTool stage fun earlier t u h => ?_
  refine h.run htidy hdetermined hp houtput (hinputs t u h) (fun text htext => ?_) earlier
  obtain ⟨q, hq, rfl⟩ := hobject text htext
  exact h.content? hq

theorem Toolchain.compileObject_agrees (htidy : tools.runner.Tidy)
    (hdetermined : tools.runner.Determined inputs)
    (hobject : buildDir.child i.objectName ∈ places.outputs)
    (hinputs : ∀ t u, places.Filling start made t u → SameContents inputs t u)
    (source includeDir libraryDir : Path) :
    Agrees (places.Filling start made)
      (compileObject tools buildDir source i includeDir libraryDir) fun object t u =>
        object = buildDir.child i.objectName ∧
          places.Filling start (buildDir.child i.objectName :: made) t u := by
  refine .bind (.runTool_makes htidy hdetermined hobject (Command.output?_compile ..) hinputs
    (by simp [Command.linked?_compile]) _) fun _ => ?_
  refine .need (fun t u h => ?_) (.pure fun _ _ h => ⟨rfl, h⟩)
  exact h.alike.isFile (.output hobject) (.inr ⟨_, .head _, rfl⟩)

theorem Toolchain.linkSharedLibrary_agrees {object : Path} (htidy : tools.runner.Tidy)
    (hdetermined : tools.runner.Determined inputs)
    (hobject : object ∈ places.outputs) (hmade : object ∈ made)
    (hlibrary : buildDir.child i.sharedLibraryName ∈ places.outputs)
    (hinputs : ∀ t u, places.Filling start made t u → SameContents inputs t u)
    (libraryDir : Path) (extra : Option String) :
    Agrees (places.Filling start made)
      (linkSharedLibrary tools buildDir object i libraryDir extra) fun library t u =>
        library = buildDir.child i.sharedLibraryName ∧
          places.Filling start (buildDir.child i.sharedLibraryName :: made) t u := by
  refine .need (fun t u h => h.alike.isFile (.output hobject) (.inr ⟨object, hmade, rfl⟩)) ?_
  refine .bind (.runTool_makes htidy hdetermined hlibrary (Command.output?_link ..) hinputs ?_ _)
    fun _ => .pure fun _ _ h => ⟨rfl, h⟩
  simp only [Command.linked?_link, Option.some.injEq, forall_eq']
  exact ⟨object, hmade, rfl⟩

end Tools

end Filling

end NativeExtension

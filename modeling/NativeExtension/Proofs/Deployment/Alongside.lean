import NativeExtension.Proofs.Deployment.StagingName
import NativeExtension.Proofs.Pipeline.Alongside

namespace NativeExtension

open Build FileTree

/-- Trees in which the same file was put at one location are alike if they were. -/
theorem FileTree.Alike.installed {a : Accord} {t u t' u' : FileTree} {source p : Path}
    (h : Alike a t u) (hsource : a.used source.toString ∧ a.found source.toString)
    (hdestination : a.used p.toString) (ht : t.install source p = (.ok (), t'))
    (hu : u.install source p = (.ok (), u')) :
    ∃ d, t.resolve .link p.toString = .ok d ∧ KeepsWays t' t ∧ Alike (a.with d) t' u' := by
  obtain ⟨d, c, m, hreads, hd, hget, hothers, hways, -, hchange⟩ :=
    Deployment.install_eq_ok (f := ⟨.control, source, p⟩) ht
  obtain ⟨d', c', m', hreads', hd', hget', hothers', hways', -⟩ :=
    Deployment.install_eq_ok (f := ⟨.control, source, p⟩) hu
  obtain rfl : d' = d := by simpa [h.used _ hdestination, hd, eq_comm] using hd'
  obtain ⟨rfl, hrights⟩ := reads_alike (h.find hsource.1 hsource.2) hreads hreads'
  have hsame : SameWays t' u' := by
    refine ⟨fun l => ?_, hways'.current.symm.trans (h.ways.current.trans hways.current),
      hways'.draws.symm.trans (h.ways.draws.trans hways.draws)⟩
    by_cases hl : l = d'
    · rw [hl, hget, hget']
      rfl
    · rw [hothers l hl, hothers' l hl]
      exact h.ways.ways l
  have hplain : u'.plain? d' = t'.plain? d' := by
    simp [FileTree.plain?, hget, hget', Entry.plain, hrights]
  exact ⟨d', hd, hways, h.step hsame hways hchange hplain hothers hothers'⟩

namespace Pipeline.Places

variable {places : Places} {start t u : FileTree} {installed : List Path}

/-- One more file is installed, unless it goes wrong in both runs. -/
theorem Installing.install {i : Identity} {modules shared source p : Path}
    (h : places.Installing start installed t u)
    (hplaces : places.destinations = Deployment.destinations i modules shared)
    (hsource : source ∈ places.outputs) (hp : p ∈ places.destinations) :
    (u.install source p).1 = (t.install source p).1 ∧
      ((t.install source p).1 = .ok () →
        places.Installing start (p :: installed) (t.install source p).2
          (u.install source p).2) := by
  have hread : (places.accord start places.outputs installed).used source.toString ∧
      (places.accord start places.outputs installed).found source.toString :=
    ⟨.output hsource, .inr ⟨source, hsource, rfl⟩⟩
  have hstaging (n : Nat) : t.stagingPath p n = start.stagingPath p n := by
    unfold stagingPath
    rw [h.ways.current, h.ways.draws]
  have hresult : (u.install source p).1 = (t.install source p).1 := by
    refine h.alike.install hread (.destination hp) (fun n => ?_) fun n l hl hspot => ?_
    · rw [hstaging n]
      exact .staging hp n
    · rw [hstaging n] at hl
      obtain hmade | ⟨q, hq, hdestination⟩ := hspot
      · exact .inl hmade
      · rw [hplaces] at hp hq
        have hstart := h.ways.resolve_eq_ok hl (.inl rfl)
        exact absurd hdestination (Deployment.destination_ne_staging hp hq hstart)
  refine ⟨hresult, fun hok => ?_⟩
  obtain ⟨d, hd, hways, halike⟩ :=
    h.alike.installed hread (.destination hp) (Prod.ext hok rfl) (Prod.ext (hresult.trans hok) rfl)
  refine ⟨hways.trans h.ways, halike.mono (fun l hknown => ?_) fun text hfound => .inl hfound⟩
  by_cases hl : l = d
  · exact .inr hl
  refine .inl fun hspot => ?_
  obtain hmade | ⟨q, hq, hresolve⟩ := hknown hspot
  · exact .inl hmade
  obtain rfl | hq := List.mem_cons.mp hq
  · exact absurd (resolve_unique hresolve (h.ways.resolve_eq_ok hd (.inl rfl))) hl
  · exact .inr ⟨q, hq, hresolve⟩

end Pipeline.Places

namespace Deployment

variable {places : Pipeline.Places} {start : FileTree} {installed : List Path} {i : Identity}
  {modules shared : Path}

theorem installOne_agrees {f : DeployedFile}
    (hplaces : places.destinations = destinations i modules shared)
    (hsource : f.source ∈ places.outputs) (hdestination : f.destination ∈ places.destinations) :
    Agrees (places.Installing start installed) (installOne f) fun _ =>
      places.Installing start (f.destination :: installed) :=
  .changeAnywayOr (fun _ _ h => h.install hplaces hsource hdestination)
    (.bind (.say ..) fun _ => .pure fun _ _ => id)

theorem installAll_agrees {files : List DeployedFile}
    (hplaces : places.destinations = destinations i modules shared)
    (hfiles : ∀ f ∈ files, f.source ∈ places.outputs ∧ f.destination ∈ places.destinations) :
    Agrees (places.Installing start installed) (installAll files) fun _ =>
      places.Installing start ((files.map DeployedFile.destination).reverse ++ installed) := by
  induction files generalizing installed with
  | nil => exact .pure fun _ _ => id
  | cons f rest ih =>
    obtain ⟨hfirst, hrest⟩ := List.forall_mem_cons.mp hfiles
    refine .bind (installOne_agrees hplaces hfirst.1 hfirst.2) fun _ => ?_
    refine .bind (ih hrest) fun _ => .pure fun _ _ h => ?_
    simpa using h

/-- Two deployments of the same files leave the same, or go wrong alike. -/
theorem deploy_agrees {host : HostLayout} {artifacts : BuildArtifacts} {source : Path}
    (hserves : host.Serves modules shared)
    (hsteady : host.Steady [source.toString, places.archive.toString])
    (hplaces : places.destinations = destinations i modules shared)
    (hsource : source ∈ places.outputs)
    (hsources : ∀ f ∈ targets artifacts i modules shared, f.source ∈ places.outputs) :
    Agrees (places.Installing start []) (deploy artifacts i host) fun _ t u =>
      ∀ text, u.content? text = t.content? text := by
  have asked {allowed : Path → Prop} {m : Build Path} (hquestion : HostLayout.Question allowed m)
      (h : HostLayout.SteadyQuestion [source.toString, places.archive.toString] m) :
      Agrees (places.Installing start []) m fun p t u =>
        allowed p ∧ places.Installing start [] t u :=
    hquestion.agrees h (fun t u h => h.sameContents hsource)
      fun t u t' u' h ht hu => h.of_writesNothing ht hu
  have hfiles : ∀ f ∈ targets artifacts i modules shared,
      f.source ∈ places.outputs ∧ f.destination ∈ places.destinations := by
    intro f hf
    refine ⟨hsources f hf, ?_⟩
    rw [hplaces, ← targets_destinations artifacts]
    exact List.mem_map_of_mem hf
  refine .bind (asked hserves.modules hsteady.modules) (.of_value ?_)
  refine .bind (asked hserves.shared hsteady.shared) (.of_value ?_)
  refine (installAll_agrees hplaces hfiles).mono (fun _ _ => id) fun _ t u h => h.content? ?_
  rw [hplaces, targets_destinations]
  simp

end Deployment

end NativeExtension

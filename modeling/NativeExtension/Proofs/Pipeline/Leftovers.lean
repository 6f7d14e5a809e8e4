import NativeExtension.Proofs.Command.Determined
import NativeExtension.Proofs.Files.StagedAlike
import NativeExtension.Proofs.Files.Standing
import NativeExtension.Proofs.Pipeline.Course

namespace NativeExtension.Pipeline

open FileTree

/-- The files that a run makes and those that it installs, and the archive that it reads. -/
structure Places where
  outputs : List Path
  destinations : List Path
  archive : Path

/-- The places of a project once its extension is known. -/
def places (layout : ProjectLayout) (i : Identity) (modules shared : Path) : Places where
  outputs := outputs layout i
  destinations := Deployment.destinations i modules shared
  archive := Command.archivePath layout.libraryDir i

/-- A location at which a file is made or installed. A file is made behind the links at its path, and
    installed in the place of one. -/
def Spot (t : FileTree) (outputs destinations : List Path) (l : Location) : Prop :=
  (∃ p ∈ outputs, t.resolve .newFile p.toString = .ok l) ∨
    ∃ p ∈ destinations, t.resolve .link p.toString = .ok l

namespace Places

/-- The texts with which a run names the files that it makes and installs, and the staging files
    beside the latter. -/
inductive Uses (places : Places) (t : FileTree) : String → Prop where
  | output {p : Path} (hp : p ∈ places.outputs) : Uses places t p.toString
  | destination {p : Path} (hp : p ∈ places.destinations) : Uses places t p.toString
  | staging {p : Path} (hp : p ∈ places.destinations) (n : Nat) :
      Uses places t (t.stagingPath p n).toString

/-- A tree that differs from another by what a run leaves where files are made and installed. It keeps
    no file from being made that could be made otherwise. -/
structure Traces (places : Places) (t u : FileTree) : Prop where
  ways : SameWays t u
  entries : ∀ l, u.get? l = t.get? l ∨ Spot t places.outputs places.destinations l
  written : ∀ p ∈ places.outputs, ∀ l, t.resolve .newFile p.toString = .ok l →
    WrittenAlike t u l

/-- Two trees that are the same to a run but for what earlier runs left. Its paths lead to the same
    in both, or to the same error, and the archive is none of the files that are made or installed. -/
structure Leftovers (places : Places) (t u : FileTree) : Prop extends Traces places t u where
  current : t.Standing t.current
  texts : ∀ text, places.Uses t text → ∀ aim, u.resolve aim text = t.resolve aim text
  archive : ∀ l, t.resolve .target places.archive.toString = .ok l →
    ¬ Spot t places.outputs places.destinations l

/-- What two runs have in common that began with the same files but for leftovers, once they have
    made and installed some files. -/
def accord (places : Places) (start : FileTree) (made installed : List Path) : Accord where
  known l := Spot start places.outputs places.destinations l → Spot start made installed l
  opened l := ∃ p ∈ places.outputs, start.resolve .newFile p.toString = .ok l
  found text := text = places.archive.toString ∨ ∃ p ∈ made, text = p.toString
  used := places.Uses start

/-- The files of two runs that have made some files and installed none. -/
structure Filling (places : Places) (start : FileTree) (made : List Path) (t u : FileTree) :
    Prop where
  ways : SameWays start t
  alike : Alike (places.accord start made []) t u

/-- The files of two runs that have made all files and installed some. -/
structure Installing (places : Places) (start : FileTree) (installed : List Path)
    (t u : FileTree) : Prop where
  ways : KeepsWays t start
  alike : Alike (places.accord start places.outputs installed) t u

variable {places : Places} {start t u t' u' : FileTree} {made installed : List Path} {p : Path}
  {l : Location}

theorem Leftovers.filling (h : places.Leftovers t u) : places.Filling t [] t u where
  ways := .refl t
  alike := by
    have plain {l : Location} (hl : ¬ Spot t places.outputs places.destinations l) :
        u.plain? l = t.plain? l := by
      rw [FileTree.plain?, FileTree.plain?, (h.entries l).resolve_right hl]
    refine ⟨h.ways, fun l hknown => plain fun hspot => ?_, fun l hopen => ?_,
      fun text hfound l hl => ?_, h.texts⟩
    · simpa [Spot] using hknown hspot
    · obtain ⟨p, hp, hl⟩ := hopen
      exact h.written p hp l hl
    · obtain rfl : text = places.archive.toString := by simpa [accord] using hfound
      exact plain (h.archive l hl)

namespace Filling

theorem opened (h : places.Filling start made t u) (hp : p ∈ places.outputs) (l : Location)
    (hl : t.resolve .newFile p.toString = .ok l) : WrittenAlike t u l :=
  h.alike.opened l ⟨p, hp, h.ways.symm.resolve_eq_ok hl⟩

/-- One more file is made. -/
theorem make (h : places.Filling start made t u) (hl : t.resolve .newFile p.toString = .ok l)
    (hways : SameWays t t') (halike : Alike ((places.accord start made []).with l) t' u') :
    places.Filling start (p :: made) t' u' where
  ways := h.ways.trans hways
  alike := by
    have hstart := h.ways.symm.resolve_eq_ok hl
    refine halike.mono (fun m hknown => ?_) fun text hfound => ?_
    · by_cases hm : m = l
      · exact .inr hm
      refine .inl fun hspot => ?_
      obtain ⟨q, hq, hresolve⟩ | ⟨q, hq, -⟩ := hknown hspot
      · obtain rfl | hq := List.mem_cons.mp hq
        · exact absurd (resolve_unique hresolve hstart) hm
        · exact .inl ⟨q, hq, hresolve⟩
      · cases hq
    · obtain rfl | ⟨q, hq, rfl⟩ := hfound
      · exact .inl (.inl rfl)
      obtain rfl | hq := List.mem_cons.mp hq
      · refine .inr fun m hm => .inr ?_
        exact resolve_unique hm (resolve_target_of_newFile (hways.resolve_eq_ok hl))
      · exact .inl (.inr ⟨q, hq, rfl⟩)

theorem installing (h : places.Filling start made t u) (hmade : ∀ p ∈ places.outputs, p ∈ made) :
    places.Installing start [] t u where
  ways := h.ways.symm.keepsWays
  alike := by
    refine h.alike.mono (fun l hknown hspot => ?_) fun text hfound => .inl ?_
    · obtain ⟨p, hp, hl⟩ | ⟨p, hp, -⟩ := hknown hspot
      · exact .inl ⟨p, hmade p hp, hl⟩
      · cases hp
    · obtain rfl | ⟨p, hp, rfl⟩ := hfound
      · exact .inl rfl
      · exact .inr ⟨p, hmade p hp, rfl⟩

end Filling

/-- Once all files are installed nothing that was left before is to be seen. -/
theorem Installing.content? (h : places.Installing start installed t u)
    (hinstalled : ∀ p ∈ places.destinations, p ∈ installed) (text : String) :
    u.content? text = t.content? text := by
  have hall (l : Location) : (places.accord start places.outputs installed).known l := by
    rintro (hmade | ⟨p, hp, hl⟩)
    · exact .inl hmade
    · exact .inr ⟨p, hinstalled p hp, hl⟩
  have hsame : Alike { places.accord start places.outputs installed with found := fun _ => True }
      t u := h.alike.mono (fun _ => id) fun _ _ => .inr fun l _ => hall l
  exact hsame.content?_eq trivial

end Places

end NativeExtension.Pipeline

import NativeExtension.Proofs.Command.Tidy
import NativeExtension.Proofs.Files.Matching

namespace NativeExtension

namespace FileTree

/-- Two trees in which some texts name files of the same content. -/
def SameContents (inputs : List String) (t u : FileTree) : Prop :=
  ∀ text ∈ inputs, u.content? text = t.content? text

/-- Writing a file takes no rights from its owner. -/
theorem writeFile_writtenAlike {t u : FileTree} {text : String} {content : ByteArray}
    (h : t.writeFile text content = .ok u) (l : Location) : WrittenAlike t u l := by
  obtain ⟨k, hopen, rfl⟩ := writeFile_eq_ok h
  exact putContent_writtenAlike content hopen l

end FileTree

namespace Command

open FileTree

/-- The object file that a link command reads. Other commands read none. -/
def linked? : List String → Option String
  | _ :: object :: "-shared" :: "-o" :: _ => some object
  | _ => none

theorem linked?_compile (compiler : String) (source object : Path) (i : Identity)
    (includeDir libraryDir : Path) :
    linked? (compile compiler source object i includeDir libraryDir) = none := by
  unfold linked? compile
  split
  next heq => simp at heq
  next => rfl

theorem linked?_link (compiler : String) (object shared archive : Path) (extra : Option String) :
    linked? (link compiler object shared archive extra) = some object.toString :=
  rfl

/-- Two trees that are the same to a command: what it reads has the same content, and the file that
    it is to make is in the same place and written alike there. -/
structure SameTo (inputs : List String) (c : Call) (t u : FileTree) : Prop where
  inputs : SameContents inputs t u
  object : ∀ text, linked? c.args = some text → u.content? text = t.content? text
  resolve : ∀ text, output? c.args = some text →
    u.resolve .newFile text = t.resolve .newFile text
  place : ∀ text l, output? c.args = some text → t.resolve .newFile text = .ok l →
    WrittenAlike t u l

/-- A runner whose answers, and the files that it makes where a command succeeds, depend on what the
    command says and reads only, and not on what was there before. -/
structure Runner.Determined (runner : Runner) (inputs : List String) : Prop where
  answer : ∀ earlier c t u, SameTo inputs c t u →
    (runner earlier c u).1 = (runner earlier c t).1
  written : ∀ earlier c t u text outcome, SameTo inputs c t u → output? c.args = some text →
    (runner earlier c t).1 = .ok outcome → outcome.ok = true →
    ∃ l, t.resolve .newFile text = .ok l ∧
      (runner earlier c u).2.plain? l = (runner earlier c t).2.plain? l

/-- A runner that takes no rights from the owner of a file. -/
def Runner.KeepsRights (runner : Runner) : Prop :=
  ∀ earlier c t l, WrittenAlike t (runner earlier c t).2 l

theorem Runner.writing_determined (content : ByteArray) (stdout : List String → String)
    (inputs : List String) : (writing content stdout).Determined inputs := by
  refine ⟨fun earlier c t u hsame => ?_, fun earlier c t u text outcome hsame houtput hok hzero => ?_⟩
  · unfold writing
    cases houtput : output? c.args with
    | none => rfl
    | some text =>
      obtain ⟨t', u', ht, hu, -⟩ | ⟨fault, ht, hu⟩ := (writeFile_matching
        (hsame.resolve text houtput) (fun l => hsame.place text l houtput) content).ok_or_error
      · simp only [ht, hu]
      · simp only [ht, hu]
  · unfold writing at hok ⊢
    rw [houtput] at hok ⊢
    obtain ⟨t', u', ht, hu, l, hopens, rfl, rfl⟩ | ⟨fault, ht, hu⟩ := (writeFile_matching
      (hsame.resolve text houtput) (fun l => hsame.place text l houtput) content).ok_or_error
    · simp only [ht, hu]
      exact ⟨l, hopens.resolve, hopens.plain? content⟩
    · simp only [ht, Except.ok.injEq] at hok
      rw [← hok] at hzero
      cases hzero

theorem Runner.writing_keepsRights (content : ByteArray) (stdout : List String → String) :
    (writing content stdout).KeepsRights := by
  intro earlier c t l
  unfold writing
  split
  · exact .refl t l
  · split
    next u hwrite => exact writeFile_writtenAlike hwrite l
    next => exact .refl t l

end Command

end NativeExtension

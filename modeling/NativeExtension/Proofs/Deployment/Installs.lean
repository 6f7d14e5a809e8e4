import NativeExtension.Deployment
import NativeExtension.Proofs.Files.EndName
import NativeExtension.Proofs.Files.Install

namespace NativeExtension

theorem no_slash_of_hasSeparator {s : String} (h : hasSeparator s = false) : '/' ∉ s.toList := by
  intro hmem
  simp only [hasSeparator, List.any_eq_false] at h
  exact h _ hmem (by decide)

namespace Identity

/-- A name and a suffix without a slash that is longer than a dot make a plain file name. -/
theorem plainName_append (i : Identity) {suffix : String} (hlong : 1 < suffix.length)
    (hslash : '/' ∉ suffix.toList) : PlainName (i.name ++ suffix) := by
  have hfirst : 0 < i.name.length :=
    Nat.pos_of_ne_zero fun hzero => i.name_nonempty (String.length_eq_zero_iff.mp hzero)
  have hname := no_slash_of_hasSeparator i.name_plain
  refine .of_length ?_ (by simp [hname, hslash])
  rw [String.length_append]
  omega

theorem moduleName_plainName (i : Identity) : PlainName i.moduleName :=
  i.plainName_append (by decide) (by decide)

theorem controlName_plainName (i : Identity) : PlainName i.controlName :=
  i.plainName_append (by decide) (by decide)

theorem scriptName_eq (i : Identity) : i.scriptName = i.name ++ ("--" ++ i.version ++ ".sql") := by
  simp [scriptName, String.append_assoc]

theorem scriptName_plainName (i : Identity) : PlainName i.scriptName := by
  have hversion := no_slash_of_hasSeparator i.version_plain
  rw [i.scriptName_eq]
  refine i.plainName_append ?_ (by simp [hversion])
  simp only [String.length_append]
  have hdashes : "--".length = 2 := rfl
  have hsuffix : ".sql".length = 4 := rfl
  omega

theorem moduleName_ne_controlName (i : Identity) : i.moduleName ≠ i.controlName := by
  intro heq
  have hlists := congrArg String.toList heq
  simp [moduleName, controlName] at hlists

theorem scriptName_ne_controlName (i : Identity) : i.scriptName ≠ i.controlName := by
  intro heq
  have hlists := congrArg String.toList heq
  simp [scriptName, controlName] at hlists

end Identity

namespace Deployment

/-- Files installed one after the other, each into what the ones before it left. -/
inductive Installs : FileTree → List DeployedFile → FileTree → Prop where
  | nil {t : FileTree} : Installs t [] t
  | cons {t u v : FileTree} {f : DeployedFile} {rest : List DeployedFile}
      (head : t.install f.source f.destination = (.ok (), u)) (tail : Installs u rest v) :
      Installs t (f :: rest) v

/-- Installing changes no entry whose name is not among those of the installed files, whatever
    their directories are. -/
theorem Installs.get?_eq {t u : FileTree} {files : List DeployedFile} {l : Location}
    (h : Installs t files u)
    (hnames : ∀ f ∈ files, ∃ directory name, PlainName name ∧
      f.destination = Path.child directory name ∧ l.getLast? ≠ some name) :
    u.get? l = t.get? l := by
  induction h with
  | nil => rfl
  | @cons t u v f rest head tail ih =>
    have hrest := ih fun g hg => hnames g (List.mem_cons_of_mem _ hg)
    obtain ⟨directory, name, hplain, hdestination, hname⟩ := hnames f List.mem_cons_self
    obtain ⟨d, content, mode, hinstall, -, hresolve, -⟩ | ⟨fault, hinstall⟩ :=
      t.install_cases f.source f.destination
    · obtain rfl : t.put d (.file content mode) = u := by simpa [hinstall] using head
      have hd : l ≠ d := by
        rintro rfl
        rw [hdestination] at hresolve
        exact hname (FileTree.getLast?_of_resolve_child hplain hresolve)
      rw [hrest, FileTree.get?_put_of_ne hd]
    · simp [hinstall] at head

end Deployment

end NativeExtension

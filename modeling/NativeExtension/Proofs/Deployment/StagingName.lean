import NativeExtension.Proofs.Deployment.Names

namespace NativeExtension

open FileTree

/-- The name of a staging file for a destination with a name. -/
def stagingName (name : String) (suffix : Suffix) : String := "." ++ name ++ "." ++ suffix.text

theorem length_stagingName (name : String) (suffix : Suffix) :
    (stagingName name suffix).length = name.length + 10 := by
  have hdot : ".".length = 1 := rfl
  simp only [stagingName, String.length_append, suffix.length_eq, hdot]
  omega

theorem stagingName_plainName {name : String} (h : PlainName name) (suffix : Suffix) :
    PlainName (stagingName name suffix) := by
  refine .of_length ?_ (by simp [stagingName, h.no_slash, suffix.no_slash])
  rw [length_stagingName]
  omega

/-- A staging file lies in the directory of its destination. -/
theorem stagingPath_child (t : FileTree) {directory : Path} {name : String} (hname : PlainName name)
    (n : Nat) : t.stagingPath (directory.child name) n =
      Path.child (Path.join ⟨.root, t.current⟩ directory).collapse
        (stagingName name (t.draws (directory.child name) n)) := by
  rw [(stagingName_plainName hname _).child_eq, stagingPath, hname.child_eq]
  simp [Path.name, Path.parent, stagingName]

theorem getLast?_of_resolve_staging {t : FileTree} {directory : Path} {name : String} {n : Nat}
    {l : Location} (hname : PlainName name)
    (h : t.resolve .link (t.stagingPath (directory.child name) n).toString = .ok l) :
    ∃ suffix, l.getLast? = some (stagingName name suffix) := by
  rw [stagingPath_child t hname] at h
  exact ⟨_, getLast?_of_resolve_child (stagingName_plainName hname _) h⟩

namespace Identity

/-- A text with a point in front of it is not continued like the text with a dash behind it. The
    induction moves the point along the text. -/
theorem point_append_ne (cs front back : List Char) : '.' :: (cs ++ front) ≠ cs ++ '-' :: back := by
  induction cs with
  | nil => simp
  | cons c cs ih =>
    intro heq
    obtain ⟨rfl, hrest⟩ := List.cons_eq_cons.mp heq
    exact ih hrest

/-- No staging file has the name of an installed one, whichever characters were drawn for it: it is
    too long for all but the script, which is told from it by what stands behind the name. -/
theorem stagingName_ne {i : Identity} {name other : String} (hname : name ∈ i.installedNames)
    (hother : other ∈ i.installedNames) (suffix : Suffix) : other ≠ stagingName name suffix := by
  intro heq
  have hlength := congrArg String.length heq
  rw [length_stagingName] at hlength
  have hmodule : i.moduleName.length = i.name.length + 3 := by
    rw [moduleName, String.length_append]
    rfl
  have hcontrol : i.controlName.length = i.name.length + 8 := by
    rw [controlName, String.length_append]
    rfl
  simp only [installedNames, List.mem_cons, List.not_mem_nil, or_false] at hname hother
  have hscript : other = i.scriptName → ∀ ending, name = i.name ++ ending → False := by
    rintro rfl ending rfl
    have hchars := congrArg String.toList heq
    simp only [scriptName, stagingName, String.toList_append, List.append_assoc] at hchars
    exact point_append_ne i.name.toList _ _ hchars.symm
  have hlong : i.name.length + 3 ≤ name.length := by
    obtain rfl | rfl | rfl := hname
    · omega
    · simp only [scriptName, String.length_append]
      have hdashes : "--".length = 2 := rfl
      have hending : ".sql".length = 4 := rfl
      omega
    · omega
  obtain rfl | rfl | rfl := hother
  · omega
  · obtain rfl | rfl | rfl := hname
    · exact hscript rfl _ rfl
    · omega
    · exact hscript rfl _ rfl
  · omega

end Identity

namespace Deployment

/-- No file is installed where a staging file is. -/
theorem destination_ne_staging {t : FileTree} {i : Identity} {modules shared p q : Path}
    {n : Nat} {l : Location} (hp : p ∈ destinations i modules shared)
    (hq : q ∈ destinations i modules shared)
    (hstaging : t.resolve .link (t.stagingPath p n).toString = .ok l) :
    t.resolve .link q.toString ≠ .ok l := by
  intro hdestination
  obtain ⟨directory, -, name, hname, rfl⟩ := exists_directory_of_mem_destinations hp
  obtain ⟨directory', -, other, hother, rfl⟩ := exists_directory_of_mem_destinations hq
  obtain ⟨suffix, hlast⟩ :=
    getLast?_of_resolve_staging (Identity.plainName_of_mem_installedNames hname) hstaging
  rw [getLast?_of_resolve_child (Identity.plainName_of_mem_installedNames hother) hdestination]
    at hlast
  exact Identity.stagingName_ne hname hother suffix (Option.some.inj hlast)

end Deployment

end NativeExtension

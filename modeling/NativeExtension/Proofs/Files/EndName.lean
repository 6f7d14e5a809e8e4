import NativeExtension.Identity
import NativeExtension.Proofs.Files.Leads

namespace NativeExtension

/-- A name that stands for an entry in whatever directory it is taken from, and not for a directory
    on the way or for more than one name. -/
structure PlainName (name : String) : Prop where
  ne_empty : name ≠ ""
  ne_here : name ≠ "."
  ne_up : name ≠ ".."
  no_slash : '/' ∉ name.toList

namespace PlainName

/-- Only names of one or two characters stand for a directory on the way. -/
theorem of_length {name : String} (hlong : 2 < name.length) (hslash : '/' ∉ name.toList) :
    PlainName name := by
  refine ⟨?_, ?_, ?_, hslash⟩ <;>
    · intro heq
      rw [heq] at hlong
      exact absurd hlong (by decide)

theorem slashParts_eq {name : String} (h : PlainName name) : slashParts name.toList = [name] := by
  rw [slashParts, List.splitOn_eq_singleton h.no_slash]
  simp

theorem ofString_eq {name : String} (h : PlainName name) :
    Path.ofString name = ⟨.relative, [name]⟩ := by
  have hanchor : Path.anchorOf name.toList = .relative := by
    have hslash := h.no_slash
    unfold Path.anchorOf
    split <;> simp_all
  simp [Path.ofString, hanchor, h.slashParts_eq, h.ne_empty, h.ne_here]

theorem child_eq {name : String} (h : PlainName name) (directory : Path) :
    directory.child name = { directory with parts := directory.parts ++ [name] } := by
  simp [Path.child, h.ofString_eq, Path.join]

/-- The text of a path to a plain name is that name, behind nothing or behind a slash. -/
theorem exists_toString_child {name : String} (h : PlainName name) (directory : Path) :
    (directory.child name).toString = name ∨
      ∃ front, (directory.child name).toString.toList = front ++ '/' :: name.toList := by
  obtain ⟨anchor, parts⟩ := directory
  have htext : (Path.child ⟨anchor, parts⟩ name).toString =
      anchor.slashes ++ "/".intercalate (parts ++ [name]) := by
    rw [h.child_eq]
    unfold Path.toString
    split
    next heq => simp at heq
    next => rfl
  rw [htext]
  by_cases hparts : parts = []
  · subst hparts
    cases anchor with
    | relative => exact .inl (by simp [Anchor.slashes])
    | root => exact .inr ⟨[], by simp [Anchor.slashes]⟩
    | doubleRoot => exact .inr ⟨['/'], by simp [Anchor.slashes]⟩
  · refine .inr ⟨(anchor.slashes ++ "/".intercalate parts).toList, ?_⟩
    rw [String.intercalate_append_of_ne_nil hparts (by simp)]
    simp

/-- The names in a text that ends in a plain name. -/
theorem pathNames_eq {name text : String} {front : List Char} {before : List String}
    (h : PlainName name) (htext : text.toList = front ++ name.toList)
    (hparts : slashParts text.toList = before ++ [name]) :
    FileTree.pathNames text = before.filter (· != "") ++ [name] := by
  have hend : text.toList.getLast? ≠ some '/' := by
    intro hlast
    rw [htext, List.getLast?_append, List.getLast?_eq_some_getLast (by simpa using h.ne_empty)]
      at hlast
    have hslash : name.toList.getLast (by simpa using h.ne_empty) = '/' := by simpa using hlast
    exact h.no_slash (hslash ▸ List.getLast_mem _)
  simp [FileTree.pathNames, hparts, hend, h.ne_empty]

theorem pathNames_self {name : String} (h : PlainName name) : FileTree.pathNames name = [name] :=
  by
  have hfront : name.toList = [] ++ name.toList := rfl
  have hbefore : slashParts name.toList = [] ++ [name] := h.slashParts_eq
  exact h.pathNames_eq hfront hbefore

theorem pathNames_append_slash {name text : String} {front : List Char} (h : PlainName name)
    (htext : text.toList = front ++ '/' :: name.toList) :
    FileTree.pathNames text = (slashParts front).filter (· != "") ++ [name] := by
  have hparts : slashParts text.toList = slashParts front ++ [name] := by
    rw [htext, slashParts, List.splitOn_append_cons_self, List.splitOn_eq_singleton h.no_slash]
    simp [slashParts]
  have happend : text.toList = (front ++ ['/']) ++ name.toList := by simp [htext]
  exact h.pathNames_eq happend hparts

theorem getLast?_pathNames_child {name : String} (h : PlainName name) (directory : Path) :
    (FileTree.pathNames (directory.child name).toString).getLast? = some name := by
  obtain htext | ⟨front, htext⟩ := h.exists_toString_child directory
  · rw [htext, h.pathNames_self]
    rfl
  · rw [h.pathNames_append_slash htext]
    simp

end PlainName

namespace FileTree

/-- A walk that does not follow the link at its end arrives at the last name it was given. -/
theorem Leads.getLast?_eq {t : FileTree} {links : Nat} {here l : Location} {names : List String}
    {name : String} (h : Leads t .link links here names l) (hname : PlainName name)
    (hlast : names.getLast? = some name) : l.getLast? = some name := by
  induction h with
  | done => simp at hlast
  | @same _ _ _ self rest hself tail ih =>
    cases rest with
    | nil =>
      obtain rfl : self = name := by simpa using hlast
      exact absurd hself (by simp [hname.ne_empty, hname.ne_here])
    | cons => exact ih (by simpa using hlast)
  | @up _ _ _ rest _ tail ih =>
    cases rest with
    | nil => exact absurd (by simpa using hlast) hname.ne_up.symm
    | cons => exact ih (by simpa using hlast)
  | @onward _ _ _ _ _ rest _ _ _ tail ih =>
    cases rest with
    | nil =>
      cases tail
      simpa using hlast
    | cons => exact ih (by simpa using hlast)
  | stop => simpa using hlast
  | link => simpa using hlast
  | @follow _ _ _ _ _ rest _ _ _ hend tail ih =>
    cases rest with
    | nil => simp at hend
    | cons => exact ih (by simpa [List.getLast?_append] using hlast)

/-- The entry that a path to a plain name stands for has that name, whatever the directory is and
    whichever links lead to it. -/
theorem getLast?_of_resolve_child {t : FileTree} {directory : Path} {name : String} {l : Location}
    (hname : PlainName name) (h : t.resolve .link (directory.child name).toString = .ok l) :
    l.getLast? = some name :=
  (resolve_eq_ok_iff.mp h).2.2.getLast?_eq hname (hname.getLast?_pathNames_child directory)

end FileTree

end NativeExtension

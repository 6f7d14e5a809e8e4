import NativeExtension.Proofs.Files.EndName
import NativeExtension.Proofs.Files.Write

namespace NativeExtension

namespace Path

theorem toString_of_parts_ne_nil {p : Path} (h : p.parts ≠ []) :
    p.toString = p.anchor.slashes ++ "/".intercalate p.parts := by
  obtain ⟨anchor, parts⟩ := p
  unfold toString
  split
  next heq => exact absurd heq h
  next => rfl

theorem toString_ne_empty {p : Path} (h : "" ∉ p.parts) : p.toString ≠ "" := by
  obtain ⟨anchor, parts⟩ := p
  cases parts with
  | nil => cases anchor <;> decide
  | cons first rest =>
    have hfirst : first ≠ "" := fun hempty => h (hempty ▸ List.mem_cons_self)
    rw [toString_of_parts_ne_nil (by simp)]
    cases rest with
    | nil => simp [hfirst]
    | cons => simp [String.intercalate_cons_cons, hfirst]

theorem toString_ofString_ne_empty (s : String) : (ofString s).toString ≠ "" :=
  toString_ne_empty (by simp [ofString])

end Path

namespace PlainName

variable {name : String}

theorem toString_child (h : PlainName name) {directory : Path} (hparts : directory.parts ≠ []) :
    (directory.child name).toString = directory.toString ++ "/" ++ name := by
  have hchild : (directory.child name).parts ≠ [] := by simp [h.child_eq]
  rw [Path.toString_of_parts_ne_nil hchild, Path.toString_of_parts_ne_nil hparts, h.child_eq,
    String.intercalate_append_of_ne_nil hparts (by simp)]
  simp [String.append_assoc]

theorem toString_child_ne_empty (h : PlainName name) {directory : Path} :
    (directory.child name).toString ≠ "" := by
  intro hempty
  obtain htext | ⟨front, htext⟩ := h.exists_toString_child directory
  · exact h.ne_empty (htext.symm.trans hempty)
  · simp [hempty] at htext

end PlainName

namespace FileTree

/-- Names that stand for the directory in which they are taken. -/
def Staying (names : List String) : Prop := ∀ name ∈ names, name = "" ∨ name = "."

theorem leads_staying {t : FileTree} {aim : Aim} {links : Nat} {here : Location}
    {names : List String} (hclosed : t.isClosed here = false) (h : Staying names) :
    Leads t aim links here names here := by
  induction names with
  | nil => exact .done
  | cons name rest ih =>
    have hself : name = "" ∨ name = "." ∧ t.isClosed here = false :=
      (h name List.mem_cons_self).imp_right fun hname => ⟨hname, hclosed⟩
    exact .same hself (ih fun other hother => h other (.tail _ hother))

/-- A walk over names and one plain name behind them goes through the directory that the names lead
    to, and ends right below it. -/
theorem Leads.parent {t : FileTree} {links : Nat} {here l : Location} {names : List String}
    {name : String} (hname : PlainName name) {staying : List String} (hstaying : Staying staying)
    (h : Leads t .link links here (names ++ [name]) l) :
    ∃ d, Leads t .target links here (names ++ staying) d ∧ l = d ++ [name] := by
  generalize hall : names ++ [name] = all at h
  induction h generalizing names with
  | done => simp at hall
  | @same _ _ _ self rest hself tail ih =>
    obtain ⟨rfl, heq⟩ | ⟨names, rfl, rfl⟩ := List.append_eq_cons_iff.mp hall
    · obtain rfl : name = self := by simpa using congrArg List.head? heq
      exact absurd hself (by simp [hname.ne_empty, hname.ne_here])
    · obtain ⟨d, hd, rfl⟩ := ih rfl
      exact ⟨d, .same hself hd, rfl⟩
  | @up _ _ _ rest hclosed tail ih =>
    obtain ⟨rfl, heq⟩ | ⟨names, rfl, rfl⟩ := List.append_eq_cons_iff.mp hall
    · obtain rfl : name = ".." := by simpa using congrArg List.head? heq
      exact absurd rfl hname.ne_up
    · obtain ⟨d, hd, rfl⟩ := ih rfl
      exact ⟨d, .up hclosed hd, rfl⟩
  | @onward _ _ _ _ first rest hfirst _ hway tail ih =>
    obtain ⟨rfl, heq⟩ | ⟨names, rfl, rfl⟩ := List.append_eq_cons_iff.mp hall
    · obtain ⟨rfl, rfl⟩ : name = first ∧ rest = [] := by simpa [eq_comm] using heq
      cases tail
      exact ⟨_, leads_staying hfirst.unclosed hstaying, rfl⟩
    · obtain ⟨d, hd, rfl⟩ := ih rfl
      exact ⟨d, .onward hfirst (by simp) hway hd, rfl⟩
  | stop hlast =>
    obtain ⟨rfl, rfl⟩ : names = [] ∧ _ := by simpa [List.append_eq_singleton_iff] using hall
    exact ⟨_, leads_staying hlast.unclosed hstaying, rfl⟩
  | link hlast =>
    obtain ⟨rfl, rfl⟩ : names = [] ∧ _ := by simpa [List.append_eq_singleton_iff] using hall
    exact ⟨_, leads_staying hlast.unclosed hstaying, rfl⟩
  | @follow _ _ _ first target rest hfirst _ hway hend tail ih =>
    obtain ⟨rfl, heq⟩ | ⟨names, rfl, rfl⟩ := List.append_eq_cons_iff.mp hall
    · obtain ⟨rfl, rfl⟩ : name = first ∧ rest = [] := by simpa [eq_comm] using heq
      exact absurd ⟨rfl, rfl⟩ hend
    · obtain ⟨d, hd, rfl⟩ := @ih (pathNames target ++ names) (by simp)
      refine ⟨d, .follow hfirst (by simp) hway (by simp) ?_, rfl⟩
      simpa using hd

/-- How the text of a path to an entry of a directory is walked: like that of the directory, and
    then on to the entry. -/
structure WalksBelow (directory child name : String) (names staying : List String) : Prop where
  child_names : pathNames child = names ++ [name]
  directory_names : pathNames directory = names ++ staying
  staying : Staying staying
  origin_eq : ∀ here, origin here child = origin here directory
  length_le : directory.utf8ByteSize ≤ child.utf8ByteSize

theorem walksBelow_append {directory name : String} (hname : PlainName name)
    (hdirectory : directory ≠ "") :
    ∃ names staying, WalksBelow directory (directory ++ "/" ++ name) name names staying := by
  have htext : (directory ++ "/" ++ name).toList = directory.toList ++ '/' :: name.toList := by simp
  have hhead : (directory ++ "/" ++ name).toList.head? = directory.toList.head? := by
    have hchars : directory.toList ≠ [] := by simpa using hdirectory
    obtain ⟨first, rest, hcons⟩ := List.exists_cons_of_ne_nil hchars
    rw [htext, hcons]
    rfl
  have horigin here : origin here (directory ++ "/" ++ name) = origin here directory := by
    simp only [origin, hhead]
  have hlength : directory.utf8ByteSize ≤ (directory ++ "/" ++ name).utf8ByteSize := by
    simp only [String.utf8ByteSize_append]
    omega
  have hnames := hname.pathNames_append_slash htext
  by_cases hslash : directory.toList.getLast? = some '/' ∧
      (slashParts directory.toList).filter (· != "") ≠ []
  · exact ⟨_, [""], hnames, by simp [pathNames, hslash], by simp [Staying], horigin, hlength⟩
  · refine ⟨_, [], hnames, ?_, by simp [Staying], horigin, hlength⟩
    simp only [pathNames, Bool.and_eq_true, beq_iff_eq, bne_iff_ne, List.append_nil]
    rw [if_neg hslash]

/-- The same below the directory without a name: the current one or a root. -/
theorem walksBelow_anchor (anchor : Anchor) {name : String} (hname : PlainName name) :
    ∃ names staying, WalksBelow (Path.mk anchor []).toString (Path.mk anchor [name]).toString name
      names staying := by
  have htext : (Path.mk anchor [name]).toString = anchor.slashes ++ name := by
    rw [Path.toString_of_parts_ne_nil (by simp)]
    simp
  rw [htext]
  have hpositive : 0 < name.utf8ByteSize := by
    simpa [Nat.pos_iff_ne_zero, String.utf8ByteSize_eq_zero_iff] using hname.ne_empty
  cases anchor with
  | relative =>
    have hslash : name.toList.head? ≠ some '/' :=
      fun hhead => hname.no_slash (List.mem_of_head? hhead)
    refine ⟨[], ["."], ?_, rfl, by simp [Staying], fun here => ?_, ?_⟩
    · simpa [Anchor.slashes] using hname.pathNames_self
    · simp [Anchor.slashes, Path.toString, origin, hslash]
    · rw [Anchor.slashes, String.empty_append]
      exact hpositive
  | root =>
    have hslashes : (Anchor.root.slashes ++ name).toList = [] ++ '/' :: name.toList := by
      simp [Anchor.slashes]
    refine ⟨[], [], hname.pathNames_append_slash hslashes, rfl, by simp [Staying],
      fun here => ?_, ?_⟩
    · simp [Anchor.slashes, Path.toString, origin]
    · simp [Anchor.slashes, Path.toString]
  | doubleRoot =>
    have hslashes : (Anchor.doubleRoot.slashes ++ name).toList = ['/'] ++ '/' :: name.toList := by
      simp [Anchor.slashes]
    refine ⟨[], [], hname.pathNames_append_slash hslashes, rfl, by simp [Staying],
      fun here => ?_, ?_⟩
    · simp [Anchor.slashes, Path.toString, origin]
    · simp [Anchor.slashes, Path.toString]

theorem walksBelow_child {directory : Path} {name : String} (hname : PlainName name)
    (hdirectory : directory.toString ≠ "") :
    ∃ names staying,
      WalksBelow directory.toString (directory.child name).toString name names staying := by
  by_cases hparts : directory.parts = []
  · obtain ⟨anchor, parts⟩ := directory
    obtain rfl : parts = [] := hparts
    rw [hname.child_eq]
    exact walksBelow_anchor anchor hname
  · rw [hname.toString_child hparts]
    exact walksBelow_append hname hdirectory

/-- An entry that is named by a directory and a plain name stands in that directory. -/
theorem resolve_child {t : FileTree} {directory : Path} {name : String} {l : Location}
    (hname : PlainName name) (hdirectory : directory.toString ≠ "")
    (h : t.resolve .link (directory.child name).toString = .ok l) :
    ∃ d, t.resolve .target directory.toString = .ok d ∧ l = d ++ [name] := by
  obtain ⟨names, staying, hwalks⟩ := walksBelow_child hname hdirectory
  obtain ⟨-, hshort, hleads⟩ := resolve_eq_ok_iff.mp h
  rw [hwalks.child_names, hwalks.origin_eq] at hleads
  obtain ⟨d, hd, rfl⟩ := hleads.parent hname hwalks.staying
  refine ⟨d, resolve_eq_ok_iff.mpr ⟨hdirectory, Nat.le_trans hwalks.length_le hshort, ?_⟩, rfl⟩
  rw [hwalks.directory_names]
  exact hd

/-- Entries with different names are different, in whatever directories they stand. -/
theorem apart_child {t : FileTree} {name other : String} (hname : PlainName name)
    (hother : PlainName other) (hne : name ≠ other) (directory directory' : Path) :
    t.Apart (directory.child name) (directory'.child other) := by
  intro l hl hl'
  have hlast := getLast?_of_resolve_child hname hl
  rw [getLast?_of_resolve_child hother hl'] at hlast
  exact hne (by simpa using hlast.symm)

end FileTree

end NativeExtension

import Mathlib.Data.List.Basic
import NativeExtension.Command.Build

namespace NativeExtension.Command

/-- A flag that can stand among others: it is not empty and holds no space. -/
structure IsFlag (text : String) : Prop where
  nonempty : text ≠ ""
  no_space : ' ' ∉ text.toList

/-- So many spaces. -/
def spaces (n : Nat) : String := String.ofList (List.replicate n ' ')

/-- Flags one behind the other, each with a number of spaces before it, and a number of spaces
    behind the last. -/
def spacedOut : List (Nat × String) → Nat → String
  | [], trail => spaces trail
  | (gap, flag) :: rest, trail => spaces gap ++ flag ++ spacedOut rest trail

/-- Flags of which any two are kept apart by spaces. Before the first there may be none. -/
structure Parted (pieces : List (Nat × String)) : Prop where
  isFlag : ∀ piece ∈ pieces, IsFlag piece.2
  apart : ∀ piece ∈ pieces.tail, 0 < piece.1

/-- The characters of a text that are no spaces. -/
def withoutSpaces (text : String) : String := String.ofList (text.toList.filter (· ≠ ' '))

/-- Where a flag before a text ends: at its end if that is empty, otherwise at a space. -/
def EndsFlag (text : String) : Prop := text = "" ∨ ∃ rest, text = " " ++ rest

theorem spaces_succ (n : Nat) : spaces (n + 1) = " " ++ spaces n := by
  rw [← String.toList_inj]
  simp [spaces, List.replicate_succ]

namespace Parted

variable {gap : Nat} {flag : String} {others : List (Nat × String)}

theorem cons (hflag : IsFlag flag) (hothers : Parted others)
    (happart : ∀ piece ∈ others, 0 < piece.1) : Parted ((gap, flag) :: others) where
  isFlag piece hpiece := by
    obtain rfl | hmem := List.mem_cons.mp hpiece
    · exact hflag
    · exact hothers.isFlag piece hmem
  apart := happart

theorem first (h : Parted ((gap, flag) :: others)) : IsFlag flag :=
  h.isFlag (gap, flag) List.mem_cons_self

theorem rest (h : Parted ((gap, flag) :: others)) : Parted others where
  isFlag piece hpiece := h.isFlag piece (List.mem_cons_of_mem _ hpiece)
  apart piece hpiece := h.apart piece (List.mem_of_mem_tail hpiece)

end Parted

section Split

variable {text flag : String} {pieces : List (Nat × String)} {trail : Nat}

/-- A space parts the flags before it from those behind it. Everything else about splitting follows
    from this. -/
theorem splitFlags_append_space (a b : String) :
    splitFlags (a ++ " " ++ b) = splitFlags a ++ splitFlags b := by
  have hspace : " ".toList = [' '] := by decide
  have hchars : (a ++ " " ++ b).toList = a.toList ++ ' ' :: b.toList := by
    rw [String.toList_append, String.toList_append, hspace, List.append_assoc]
    rfl
  rw [splitFlags, hchars, List.splitOn_append_cons_self, List.filter_append, List.map_append]
  rfl

theorem splitFlags_empty : splitFlags "" = [] := by decide

theorem splitFlags_of_isFlag (h : IsFlag flag) : splitFlags flag = [flag] := by
  have hne : flag.toList ≠ [] := mt String.toList_eq_nil_iff.mp h.nonempty
  rw [splitFlags, List.splitOn_eq_singleton h.no_space]
  simp [hne]

theorem splitFlags_space_append (text : String) : splitFlags (" " ++ text) = splitFlags text := by
  have hparted := splitFlags_append_space "" text
  rwa [String.empty_append, splitFlags_empty, List.nil_append] at hparted

theorem splitFlags_spaces_append (n : Nat) (text : String) :
    splitFlags (spaces n ++ text) = splitFlags text := by
  induction n with
  | zero => simp [spaces]
  | succ n ih => rw [spaces_succ, String.append_assoc, splitFlags_space_append, ih]

theorem splitFlags_flag_append (h : IsFlag flag) (hends : EndsFlag text) :
    splitFlags (flag ++ text) = flag :: splitFlags text := by
  obtain rfl | ⟨rest, rfl⟩ := hends
  · rw [String.append_empty, splitFlags_of_isFlag h, splitFlags_empty]
  · rw [← String.append_assoc, splitFlags_append_space, splitFlags_of_isFlag h,
      splitFlags_space_append]
    rfl

/-- A flag ends before flags that all have spaces before them. -/
theorem endsFlag_spacedOut (h : ∀ piece ∈ pieces, 0 < piece.1) :
    EndsFlag (spacedOut pieces trail) := by
  cases pieces with
  | nil =>
    cases trail with
    | zero => exact .inl rfl
    | succ trail => exact .inr ⟨spaces trail, spaces_succ trail⟩
  | cons piece rest =>
    obtain ⟨gap, flag⟩ := piece
    obtain ⟨n, rfl⟩ : ∃ n, gap = n + 1 := Nat.exists_eq_succ_of_ne_zero
      (Nat.ne_of_gt (h (gap, flag) List.mem_cons_self))
    refine .inr ⟨spaces n ++ flag ++ spacedOut rest trail, ?_⟩
    simp only [spacedOut, spaces_succ, String.append_assoc]

/-- Flags that are spaced out, in whatever way, are split into the same flags. -/
theorem splitFlags_spacedOut (h : Parted pieces) :
    splitFlags (spacedOut pieces trail) = pieces.map Prod.snd := by
  induction pieces with
  | nil =>
    have hspaces := splitFlags_spaces_append trail ""
    rwa [String.append_empty, splitFlags_empty] at hspaces
  | cons piece rest ih =>
    obtain ⟨gap, flag⟩ := piece
    have hends : EndsFlag (spacedOut rest trail) := endsFlag_spacedOut h.apart
    rw [spacedOut, String.append_assoc, splitFlags_spaces_append,
      splitFlags_flag_append h.first hends, ih h.rest]
    rfl

/-- A space more before flags that are spaced out widens the first gap, or the spaces at the end. -/
theorem exists_spacedOut_space (h : Parted pieces) :
    ∃ pieces' trail', Parted pieces' ∧
      spacedOut pieces' trail' = " " ++ spacedOut pieces trail := by
  cases pieces with
  | nil => exact ⟨[], trail + 1, h, spaces_succ trail⟩
  | cons piece rest =>
    obtain ⟨gap, flag⟩ := piece
    refine ⟨(gap + 1, flag) :: rest, trail, .cons h.first h.rest h.apart, ?_⟩
    simp only [spacedOut, spaces_succ, String.append_assoc]

theorem isFlag_singleton {c : Char} (hc : c ≠ ' ') : IsFlag (String.singleton c) where
  nonempty := by simp [← String.toList_inj]
  no_space := by simpa using hc.symm

/-- Another character before flags that are spaced out belongs to the first of them, or is a flag of
    its own if that has spaces before it. -/
theorem exists_spacedOut_char {c : Char} (hc : c ≠ ' ') (h : Parted pieces) :
    ∃ pieces' trail', Parted pieces' ∧
      spacedOut pieces' trail' = String.singleton c ++ spacedOut pieces trail := by
  by_cases happart : ∀ piece ∈ pieces, 0 < piece.1
  · refine ⟨(0, String.singleton c) :: pieces, trail, .cons (isFlag_singleton hc) h happart, ?_⟩
    simp [spacedOut, spaces]
  · cases pieces with
    | nil => simp at happart
    | cons piece rest =>
      obtain ⟨gap, flag⟩ := piece
      -- only the first flag can have no space before it
      obtain rfl : gap = 0 := by
        by_contra hgap
        refine happart fun piece hpiece => ?_
        obtain rfl | hmem := List.mem_cons.mp hpiece
        · exact Nat.pos_of_ne_zero hgap
        · exact h.apart piece hmem
      have hlonger : IsFlag (String.singleton c ++ flag) :=
        ⟨by simp [← String.toList_inj], by simpa [hc.symm] using h.first.no_space⟩
      refine ⟨(0, String.singleton c ++ flag) :: rest, trail, .cons hlonger h.rest h.apart, ?_⟩
      simp [spacedOut, spaces, String.append_assoc]

/-- Every text is made of flags that are spaced out. -/
theorem exists_spacedOut (text : String) :
    ∃ pieces trail, Parted pieces ∧ spacedOut pieces trail = text := by
  have hchars (cs : List Char) :
      ∃ pieces trail, Parted pieces ∧ spacedOut pieces trail = String.ofList cs := by
    induction cs with
    | nil => exact ⟨[], 0, ⟨by simp, by simp⟩, rfl⟩
    | cons c rest ih =>
      obtain ⟨pieces, trail, hparted, hrest⟩ := ih
      have hcons : String.ofList (c :: rest) = String.singleton c ++ spacedOut pieces trail := by
        rw [hrest, ← String.toList_inj]
        simp
      rw [hcons]
      by_cases hc : c = ' '
      · subst hc
        exact exists_spacedOut_space hparted
      · exact exists_spacedOut_char hc hparted
  simpa using hchars text.toList

theorem isFlag_of_mem_splitFlags (h : flag ∈ splitFlags text) : IsFlag flag := by
  obtain ⟨pieces, trail, hparted, rfl⟩ := exists_spacedOut text
  rw [splitFlags_spacedOut hparted] at h
  obtain ⟨piece, hpiece, rfl⟩ := List.mem_map.mp h
  exact hparted.isFlag piece hpiece

theorem withoutSpaces_append (a b : String) :
    withoutSpaces (a ++ b) = withoutSpaces a ++ withoutSpaces b := by
  simp [withoutSpaces]

theorem withoutSpaces_spaces (n : Nat) : withoutSpaces (spaces n) = "" := by
  simp [withoutSpaces, spaces]

theorem withoutSpaces_of_isFlag (h : IsFlag flag) : withoutSpaces flag = flag := by
  have hfilter : flag.toList.filter (· ≠ ' ') = flag.toList :=
    List.filter_eq_self.mpr fun c hc => by
      have hne : c ≠ ' ' := fun heq => h.no_space (heq ▸ hc)
      simpa using hne
  rw [withoutSpaces, hfilter, String.ofList_toList]

theorem withoutSpaces_spacedOut (h : Parted pieces) :
    withoutSpaces (spacedOut pieces trail) = String.join (pieces.map Prod.snd) := by
  induction pieces with
  | nil => exact withoutSpaces_spaces trail
  | cons piece rest ih =>
    obtain ⟨gap, flag⟩ := piece
    rw [spacedOut, withoutSpaces_append, withoutSpaces_append, withoutSpaces_spaces,
      withoutSpaces_of_isFlag h.first, ih h.rest, List.map_cons, String.join_cons,
      String.empty_append]

theorem join_splitFlags (text : String) : String.join (splitFlags text) = withoutSpaces text := by
  obtain ⟨pieces, trail, hparted, rfl⟩ := exists_spacedOut text
  rw [splitFlags_spacedOut hparted, withoutSpaces_spacedOut hparted]

end Split

/-- Splitting a text at its spaces takes nothing away but these. It goes part by part, and the flags
    make up the text without its spaces. Every text is made of flags that are spaced out. However
    they are, they are found again, and stand in the command that links behind the static archive.
    -/
theorem splitFlags_lossless :
    (∀ a b, splitFlags (a ++ " " ++ b) = splitFlags a ++ splitFlags b) ∧
    (∀ text, (∀ flag ∈ splitFlags text, IsFlag flag) ∧
      String.join (splitFlags text) = withoutSpaces text ∧
      ∃ pieces trail, Parted pieces ∧ spacedOut pieces trail = text) ∧
    ∀ pieces trail, Parted pieces →
      splitFlags (spacedOut pieces trail) = pieces.map Prod.snd ∧
      ∀ compiler object shared archive,
        link compiler object shared archive (some (spacedOut pieces trail)) =
          [compiler, object.toString, "-shared", "-o", shared.toString, "-Wl,--whole-archive",
            archive.toString, "-Wl,--no-whole-archive"] ++ pieces.map Prod.snd := by
  refine ⟨splitFlags_append_space, fun text => ?_, fun pieces trail hparted => ?_⟩
  · have hflags : ∀ flag ∈ splitFlags text, IsFlag flag := fun _ => isFlag_of_mem_splitFlags
    exact ⟨hflags, join_splitFlags text, exists_spacedOut text⟩
  · have hsplit : splitFlags (spacedOut pieces trail) = pieces.map Prod.snd :=
      splitFlags_spacedOut hparted
    refine ⟨hsplit, fun compiler object shared archive => ?_⟩
    rw [link, extraFlags, hsplit]

/-- Flags with a tab, quotes and a line feed in them, the last given twice. -/
def mixedFlags : List (Nat × String) :=
  [(2, "-lm"), (1, "-L\"/opt/my\tlib\""), (3, "a\nb"), (1, "-lm")]

/-- Tabs, quotes and line feeds stay within flags, and runs of spaces part them. -/
theorem splitFlags_lossless_mixed :
    Parted mixedFlags ∧
      splitFlags "  -lm -L\"/opt/my\tlib\"   a\nb -lm " =
        ["-lm", "-L\"/opt/my\tlib\"", "a\nb", "-lm"] := by
  have hnonempty : ∀ piece ∈ mixedFlags, piece.2 ≠ "" := by decide
  have hno_space : ∀ piece ∈ mixedFlags, ' ' ∉ piece.2.toList := by decide
  have hparted : Parted mixedFlags :=
    ⟨fun piece hpiece => ⟨hnonempty piece hpiece, hno_space piece hpiece⟩, by decide⟩
  exact ⟨hparted, (splitFlags_lossless.2.2 mixedFlags 1 hparted).1⟩

end NativeExtension.Command

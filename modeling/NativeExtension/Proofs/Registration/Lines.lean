import Mathlib.Data.List.Basic
import NativeExtension.Proofs.Text.Lines
import NativeExtension.Registration

namespace NativeExtension.Registration

open Text

/-- The macro that registers a function. -/
def registrar : String := "PG_FUNCTION_INFO_V1"

/-- What registers a function, without the line feeds behind it. -/
def statement (name : String) : String := registrar ++ "(" ++ name ++ ");"

/-- Whether a line begins with the macro that registers functions. -/
def registers (line : List Char) : Bool := registrar.toList.isPrefixOf line

theorem line_eq (name : String) : line name = statement name ++ "\n\n" := by
  have hfront : "PG_FUNCTION_INFO_V1(" = registrar ++ "(" := by simp [registrar]
  have hback : ");\n\n" = ");" ++ "\n\n" := by simp
  unfold line statement
  rw [hfront, hback, ← String.append_assoc]

theorem registers_statement (name : String) : registers (statement name).toList = true := by
  simp [registers, statement, String.append_assoc]

theorem unbroken_statement_iff {name : String} :
    Unbroken (statement name).toList ↔ Unbroken name.toList := by
  have hfront : Unbroken (registrar ++ "(").toList := by decide
  have hback : Unbroken ");".toList := by decide
  rw [statement, String.toList_append, String.toList_append, unbroken_append, unbroken_append]
  simp only [hfront, hback, true_and, and_true]

theorem getLast?_statement (name : String) : (statement name).toList.getLast? = some ';' := by
  have hback : ");".toList = [')'] ++ [';'] := by decide
  rw [statement, String.toList_append, hback, ← List.append_assoc, List.getLast?_concat]

/-- The line on which the preamble ends is followed by an empty one, and both end there. -/
theorem lines_preamble_append (rest : List Char) :
    lines (preamble.toList ++ rest) = lines preamble.toList ++ lines rest := by
  let front := "#include \"postgres.h\"\n#include \"fmgr.h\"\n\nPG_MODULE_MAGIC;".toList
  have hpreamble : preamble.toList = front ++ ['\n', '\n'] := by decide +kernel
  have hlast : front.getLast? = some ';' := by decide +kernel
  have hends (behind : List Char) : lines (preamble.toList ++ behind) =
      lines front ++ [] :: lines behind := by
    rw [hpreamble, List.append_assoc]
    exact lines_append_blank_append behind hlast (by decide)
  have halone := hends []
  rw [List.append_nil] at halone
  rw [hends, halone, List.append_assoc]
  rfl

theorem lines_line_append (name : String) (rest : List Char) :
    lines ((line name).toList ++ rest) =
      lines (statement name).toList ++ [[]] ++ lines rest := by
  have hfeeds : "\n\n".toList = ['\n', '\n'] := by decide
  rw [line_eq, String.toList_append, hfeeds, List.append_assoc, List.append_assoc]
  exact lines_append_blank_append rest (getLast?_statement name) (by decide)

/-- The lines of the source: those of the preamble, and for each function those of what registers
    it and an empty one. -/
theorem lines_source (names : List String) :
    lines (source names).toList = lines preamble.toList ++
      names.flatMap fun name => lines (statement name).toList ++ [[]] := by
  rw [source, String.toList_append, lines_preamble_append, String.toList_join, List.flatMap_map]
  congr 1
  induction names with
  | nil => rfl
  | cons name others ih => rw [List.flatMap_cons, lines_line_append, ih, List.flatMap_cons]

/-- A function is registered on one line for each name, in order, and the other lines are empty or
    those of the preamble. -/
structure OneLineEach (names : List String) : Prop where
  registrations : (lines (source names).toList).filter registers =
    names.map fun name => (statement name).toList
  others : ∀ text ∈ lines (source names).toList, registers text = false →
    text ∈ lines preamble.toList ∨ text = []

theorem OneLineEach.unbroken {names : List String} (h : OneLineEach names) {name : String}
    (hname : name ∈ names) : Unbroken name.toList := by
  have hmem : (statement name).toList ∈ (lines (source names).toList).filter registers := by
    rw [h.registrations]
    exact List.mem_map_of_mem hname
  exact unbroken_statement_iff.mp (unbroken_of_mem_lines (List.mem_filter.mp hmem).1)

theorem lines_statement {name : String} (h : Unbroken name.toList) :
    lines (statement name).toList = [(statement name).toList] := by
  have hne : (statement name).toList ≠ [] := by
    intro hnil
    have hlast := getLast?_statement name
    simp [hnil] at hlast
  exact lines_of_unbroken hne (unbroken_statement_iff.mpr h)

theorem oneLineEach_of_unbroken {names : List String}
    (h : ∀ name ∈ names, Unbroken name.toList) : OneLineEach names := by
  have hempty : registers [] = false := by decide
  have hpreamble : (lines preamble.toList).filter registers = [] := by decide +kernel
  have hlines : (names.flatMap fun name => lines (statement name).toList ++ [[]]) =
      names.flatMap fun name => [(statement name).toList, []] :=
    List.flatMap_congr fun name hname => by rw [lines_statement (h name hname)]; rfl
  constructor
  · rw [lines_source, hlines, List.filter_append, hpreamble, List.nil_append, List.filter_flatMap,
      List.map_eq_flatMap]
    simp [registers_statement, hempty]
  · intro text htext hregisters
    rw [lines_source, hlines] at htext
    obtain hpreamble | hnames := List.mem_append.mp htext
    · exact .inl hpreamble
    · obtain ⟨name, -, hname⟩ := List.mem_flatMap.mp hnames
      obtain rfl | rfl : text = (statement name).toList ∨ text = [] := by simpa using hname
      · rw [registers_statement] at hregisters
        cases hregisters
      · exact .inr rfl

/-- The names of which each is registered on one line and on no other: those that hold no line
    boundary. -/
theorem oneLineEach_iff {names : List String} :
    OneLineEach names ↔ ∀ name ∈ names, Unbroken name.toList :=
  ⟨fun h _ => h.unbroken, oneLineEach_of_unbroken⟩

end NativeExtension.Registration

import NativeExtension.Proofs.Control.Keys
import NativeExtension.Proofs.Control.RoundTrip

namespace NativeExtension.Control

open Text

/-- The keys that a text gives values, one for each line that is an entry. -/
def definedKeys (cs : List Char) : List String := (lines cs).filterMap lineKey?

/-- The keys that a text gives values in lines behind its first one. -/
def laterKeys (cs : List Char) : List String := (lines cs).tail.filterMap lineKey?

theorem filterMap_lineKey?_cons (first : List Char) (others : List (List Char)) :
    (first :: others).filterMap lineKey? = (lineKey? first).toList ++ others.filterMap lineKey? := by
  cases hkey : lineKey? first <;> simp [hkey]

theorem laterKeys_of_leaveOpen {cs first last : List Char} {others : List (List Char)}
    (h : LeaveOpen (lines cs) (first :: others) last) :
    laterKeys cs = (others ++ [last]).filterMap lineKey? := by
  have hnil : lineKey? [] = none := lineKey?_of_not_mem (by simp)
  obtain hlines | ⟨hlines, rfl⟩ := h
  · rw [laterKeys, hlines]
    rfl
  · rw [laterKeys, hlines, List.filterMap_append]
    simp [hnil]

/-- A text between the front of a line and the back of one: the front makes the key of the first
    line, and the back makes no entry of the last. -/
theorem definedKeys_enclosed {front back : List Char} {key : Option String} (hne : front ≠ [])
    (hfront : Unbroken front) (hkey : ∀ rest, lineKey? (front ++ rest) = key) (hend : back ≠ [])
    (hback : Unbroken back) (hsign : '=' ∉ back) (cs : List Char) :
    definedKeys (front ++ (cs ++ back)) = key.toList ++ laterKeys cs := by
  have hhead : back.head? ≠ some '\n' := by
    intro h
    have hfeed := hback _ (List.mem_of_head? h)
    exact absurd hfeed (by decide)
  obtain ⟨before, last, hopen, hlines⟩ := exists_lines_append cs hend hhead
  rw [lines_of_unbroken hend hback] at hlines
  rw [definedKeys, lines_append_of_unbroken _ hne hfront, hlines]
  cases before with
  | nil =>
    have hlater : laterKeys cs = [] := by
      obtain hcs | ⟨hcs, -⟩ := hopen <;> simp [laterKeys, hcs]
    rw [hlater, List.nil_append, List.headD_cons, List.tail_cons, filterMap_lineKey?_cons, hkey]
    rfl
  | cons first others =>
    have hlast : [last ++ back].filterMap lineKey? = [last].filterMap lineKey? := by
      rw [filterMap_lineKey?_cons, filterMap_lineKey?_cons, lineKey?_append_of_not_mem last hsign]
    rw [List.cons_append, List.headD_cons, List.tail_cons, filterMap_lineKey?_cons, hkey,
      laterKeys_of_leaveOpen hopen, List.filterMap_append, List.filterMap_append]
    simp only [List.headD_cons, List.tail_cons, hlast]

theorem definedKeys_append_newline {cs : List Char} (rest : List Char) {c : Char}
    (hlast : cs.getLast? = some c) (h : isLineBoundary c = false) :
    definedKeys (cs ++ '\n' :: rest) = definedKeys cs ++ definedKeys rest := by
  rw [definedKeys, lines_append_newline_append rest hlast h, List.filterMap_append]
  rfl

/-- Lines that are written one after the other define what each of them defines, also where they
    run over several lines. -/
theorem definedKeys_flatMap_newline {ls : List (List Char)}
    (h : ∀ line ∈ ls, ∃ c, line.getLast? = some c ∧ isLineBoundary c = false) :
    definedKeys (ls.flatMap (· ++ ['\n'])) = ls.flatMap definedKeys := by
  induction ls with
  | nil => rfl
  | cons line rest ih =>
    obtain ⟨c, hlast, hc⟩ := h line List.mem_cons_self
    have hrest := ih fun other hother => h other (List.mem_cons_of_mem line hother)
    rw [List.flatMap_cons, List.flatMap_cons, List.append_assoc, List.singleton_append,
      definedKeys_append_newline _ hlast hc, hrest]

theorem laterKeys_append {front : List Char} (hne : front ≠ []) (h : Unbroken front)
    (cs : List Char) : laterKeys (front ++ cs) = laterKeys cs := by
  rw [laterKeys, lines_append_of_unbroken cs hne h, List.tail_cons]
  rfl

theorem definedKeys_title (name : List Char) :
    definedKeys ("# ".toList ++ name ++ " extension".toList) = laterKeys name := by
  have hcomment : ∀ rest, lineKey? ("# ".toList ++ rest) = none := fun rest =>
    lineKey?_of_comment rfl
  rw [List.append_assoc]
  exact definedKeys_enclosed (by decide) (by decide) hcomment (by decide) (by decide) (by decide) name

theorem definedKeys_keyed {key : List Char} (h : Key key) (hkey : Unbroken key)
    (value : List Char) :
    definedKeys (key ++ ' ' :: '=' :: ' ' :: quote value) =
      String.ofList key :: laterKeys (doubleQuotes value) := by
  have hsplit (cs : List Char) : key ++ ' ' :: '=' :: ' ' :: quote cs =
      (key ++ [' ', '=', ' ', '\x27']) ++ (doubleQuotes cs ++ ['\x27']) := by simp [quote]
  have hmem : '=' ∈ key ++ [' ', '=', ' ', '\x27'] := by simp
  have hfront (rest : List Char) :
      lineKey? ((key ++ [' ', '=', ' ', '\x27']) ++ rest) = some (String.ofList key) := by
    have hempty := congrArg (·.map Prod.fst) (lineEntry?_quoted h [])
    rw [hsplit] at hempty
    rw [lineKey?_append_of_mem hmem]
    exact (lineKey?_append_of_mem hmem _).symm.trans hempty
  have hunbroken : Unbroken (key ++ [' ', '=', ' ', '\x27']) :=
    unbroken_append.mpr ⟨hkey, by decide⟩
  rw [hsplit]
  exact definedKeys_enclosed (by simp) hunbroken hfront (by decide) (by decide) (by decide) _

theorem laterKeys_pathname (name : String) :
    laterKeys (doubleQuotes (libraryDirectory ++ name).toList) =
      laterKeys (doubleQuotes name.toList) := by
  have hdirectory : doubleQuotes libraryDirectory.toList = libraryDirectory.toList := by decide
  rw [String.toList_append, doubleQuotes_append, hdirectory]
  exact laterKeys_append (by decide) (by decide) _

theorem descriptorLines_getLast? (i : Identity) :
    ∀ line ∈ descriptorLines i, ∃ c, line.getLast? = some c ∧ isLineBoundary c = false := by
  have hkeyed (key value : List Char) :
      (key ++ ' ' :: '=' :: ' ' :: quote value).getLast? = some '\x27' := by
    simp [List.getLast?_append, List.getLast?_cons, getLast?_quote]
  have htitle : ("# ".toList ++ i.name.toList ++ " extension".toList).getLast? = some 'n' := by
    rw [List.getLast?_append]
    rfl
  rw [descriptorLines_eq]
  intro line hline
  simp only [List.mem_cons, List.not_mem_nil, or_false] at hline
  obtain rfl | rfl | rfl | rfl | rfl := hline
  · exact ⟨_, htitle, by decide⟩
  · exact ⟨_, hkeyed _ _, by decide⟩
  · exact ⟨_, hkeyed _ _, by decide⟩
  · exact ⟨_, hkeyed _ _, by decide⟩
  · exact ⟨'e', by decide, by decide⟩

/-- The keys of a descriptor: its own, and those that later lines of the fields define, the name
    twice over. -/
theorem definedKeys_render (i : Identity) :
    definedKeys (render i).toList =
      laterKeys i.name.toList ++ "comment" ::
        (laterKeys (doubleQuotes i.description.toList) ++ "default_version" ::
          (laterKeys (doubleQuotes i.version.toList) ++ "module_pathname" ::
            (laterKeys (doubleQuotes i.name.toList) ++ ["relocatable"]))) := by
  have hlast : definedKeys "relocatable=true".toList = ["relocatable"] := by decide +kernel
  rw [render, String.toList_ofList, definedKeys_flatMap_newline (descriptorLines_getLast? i),
    descriptorLines_eq]
  simp only [List.flatMap_cons, List.flatMap_nil, definedKeys_title,
    definedKeys_keyed comment_key (by decide), definedKeys_keyed version_key (by decide),
    definedKeys_keyed pathname_key (by decide), laterKeys_pathname, hlast, String.ofList_toList,
    List.cons_append, List.append_nil]

end NativeExtension.Control

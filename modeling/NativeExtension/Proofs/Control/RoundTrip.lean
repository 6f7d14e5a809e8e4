import NativeExtension.Proofs.Control.Entries

namespace NativeExtension.Control

open Text

/-- The entries of a descriptor that is rendered from a name, a description and a version. -/
def entriesOf (i : Identity) : Entries :=
  [("comment", i.description), ("default_version", i.version),
    ("module_pathname", libraryDirectory ++ i.name), ("relocatable", "true")]

theorem descriptorLines_eq (i : Identity) :
    descriptorLines i =
      ["# ".toList ++ i.name.toList ++ " extension".toList,
       "comment".toList ++ ' ' :: '=' :: ' ' :: quote i.description.toList,
       "default_version".toList ++ ' ' :: '=' :: ' ' :: quote i.version.toList,
       "module_pathname".toList ++ ' ' :: '=' :: ' ' :: quote (libraryDirectory ++ i.name).toList,
       "relocatable=true".toList] := by
  have hcomment : "comment = ".toList = "comment".toList ++ [' ', '=', ' '] := by decide
  have hversion : "default_version = ".toList = "default_version".toList ++ [' ', '=', ' '] := by
    decide
  have hpathname : "module_pathname = ".toList = "module_pathname".toList ++ [' ', '=', ' '] := by
    decide
  simp only [descriptorLines, hcomment, hversion, hpathname, List.append_assoc, List.cons_append,
    List.nil_append, String.toList_append]

/-- The line with the name of the extension stays a comment, whatever the name is. -/
theorem lineEntry?_title (name : List Char) :
    lineEntry? ("# ".toList ++ name ++ " extension".toList) = none := by
  have hhead : "# ".toList ++ name ++ " extension".toList =
      '#' :: ' ' :: (name ++ " extension".toList) := rfl
  have hlast : ("# ".toList ++ name ++ " extension".toList).getLast? = some 'n' := by
    rw [List.getLast?_append]
    rfl
  have htrim : trim ("# ".toList ++ name ++ " extension".toList) =
      '#' :: ' ' :: (name ++ " extension".toList) := by
    refine trim_eq_self ?_ ?_
    · intro c hc
      obtain rfl : '#' = c := by simpa [hhead] using hc
      decide
    · intro c hc
      rw [hlast] at hc
      obtain rfl : 'n' = c := by simpa using hc
      decide
  unfold lineEntry?
  rw [htrim]
  rfl

theorem descriptorLines_unbroken {i : Identity} (h : i.SingleLine) :
    ∀ line ∈ descriptorLines i, Unbroken line := by
  have hkeyed {key value : List Char} (hkey : Unbroken key) (hvalue : Unbroken value) :
      Unbroken (key ++ ' ' :: '=' :: ' ' :: quote value) := by
    have hspace : isLineBoundary ' ' = false := by decide
    have hsign : isLineBoundary '=' = false := by decide
    simp [hkey, hspace, hsign, quote_unbroken hvalue]
  have htitle : Unbroken ("# ".toList ++ i.name.toList ++ " extension".toList) := by
    have hfront : Unbroken "# ".toList := by decide
    have hend : Unbroken " extension".toList := by decide
    exact unbroken_append.mpr ⟨unbroken_append.mpr ⟨hfront, h.name⟩, hend⟩
  have hpathname : Unbroken (libraryDirectory ++ i.name).toList := by
    have hdirectory : Unbroken libraryDirectory.toList := by decide
    rw [String.toList_append]
    exact unbroken_append.mpr ⟨hdirectory, h.name⟩
  rw [descriptorLines_eq]
  intro line hline
  simp only [List.mem_cons, List.not_mem_nil, or_false] at hline
  obtain rfl | rfl | rfl | rfl | rfl := hline
  · exact htitle
  · exact hkeyed (by decide) h.description
  · exact hkeyed (by decide) h.version
  · exact hkeyed (by decide) hpathname
  · decide

theorem parseEntries_ofList (cs : List Char) : parseEntries (String.ofList cs) =
    ((lines cs).filterMap lineEntry?).foldl (fun entries (k, v) => Entries.put entries k v) [] := by
  rw [parseEntries, String.toList_ofList]

theorem lines_render {i : Identity} (h : i.SingleLine) :
    lines (render i).toList = descriptorLines i := by
  rw [render, String.toList_ofList]
  exact lines_flatMap_newline (descriptorLines_unbroken h)

theorem parseEntries_render {i : Identity} (h : i.SingleLine) :
    parseEntries (render i) = entriesOf i := by
  have hlast : lineEntry? "relocatable=true".toList = some ("relocatable", "true") := by decide
  rw [parseEntries, lines_render h, descriptorLines_eq]
  simp only [List.filterMap_cons, List.filterMap_nil, lineEntry?_title,
    lineEntry?_quoted comment_key, lineEntry?_quoted version_key, lineEntry?_quoted pathname_key,
    hlast, String.ofList_toList]
  rfl

theorem withoutLibraryDirectory_append (name : String) :
    withoutLibraryDirectory (libraryDirectory ++ name) = name := by
  simp [withoutLibraryDirectory]

theorem withoutLibraryDirectory_subset (s : String) :
    (withoutLibraryDirectory s).toList ⊆ s.toList := by
  unfold withoutLibraryDirectory
  dsimp only
  split
  · rw [String.toList_ofList]
    exact List.drop_subset _ _
  · exact List.Subset.refl _

theorem ofFields_eq_ok {name description version : String} {i : Identity}
    (h : Identity.ofFields (.text name) (.text description) (.text version) = .ok i) :
    i.name = name ∧ i.description = description ∧ i.version = version := by
  unfold Identity.ofFields at h
  dsimp only at h
  split at h
  · cases h
    exact ⟨rfl, rfl, rfl⟩
  · cases h

theorem ofFields_eq (i : Identity) :
    Identity.ofFields (.text i.name) (.text i.description) (.text i.version) = .ok i := by
  have hvalid : (i.name ≠ "" ∧ hasSeparator i.name = false) ∧ i.description ≠ "" ∧
      i.version ≠ "" ∧ hasSeparator i.version = false :=
    ⟨⟨i.name_nonempty, i.name_plain⟩, i.description_nonempty, i.version_nonempty, i.version_plain⟩
  simp [Identity.ofFields, hvalid]

/-- Whatever a descriptor is made of, the identity that is read from it is on single lines: each of
    its fields stands in one line of the descriptor. -/
theorem singleLine_of_parse {text : String} {i : Identity} (h : parse text = .ok i) :
    i.SingleLine := by
  unfold parse at h
  dsimp only at h
  split at h
  next => cases h
  next => cases h
  next => cases h
  next comment version pathname hcomment hversion hpathname =>
    cases hfields : Identity.ofFields (.text (withoutLibraryDirectory pathname)) (.text comment)
      (.text version) with
    | error r =>
      rw [hfields] at h
      cases h
    | ok j =>
      rw [hfields] at h
      obtain rfl : j = i := Except.ok.inj h
      obtain ⟨hname, hdescription, hvalue⟩ := ofFields_eq_ok hfields
      refine ⟨?_, ?_, ?_⟩
      · rw [hname]
        exact (unbroken_of_lookup hpathname).of_subset (withoutLibraryDirectory_subset _)
      · rw [hdescription]
        exact unbroken_of_lookup hcomment
      · rw [hvalue]
        exact unbroken_of_lookup hversion

theorem parse_of_lookup {text pathname : String} {i : Identity}
    (hcomment : (parseEntries text).lookup "comment" = some i.description)
    (hversion : (parseEntries text).lookup "default_version" = some i.version)
    (hpathname : (parseEntries text).lookup "module_pathname" = some pathname)
    (hname : withoutLibraryDirectory pathname = i.name) : parse text = .ok i := by
  unfold parse
  simp only [hcomment, hversion, hpathname, hname, ofFields_eq]
  rfl

theorem parse_render {i : Identity} (h : i.SingleLine) : parse (render i) = .ok i := by
  have hentries := parseEntries_render h
  refine parse_of_lookup ?_ ?_ ?_ (withoutLibraryDirectory_append i.name) <;> rw [hentries] <;> rfl

/-- A descriptor gives back the identity that it was rendered from exactly when no field of it holds
    a character that ends a line. Quotes, equals signs, number signs and white space at the ends do
    no harm. -/
theorem parse_render_eq_ok_iff (i : Identity) : parse (render i) = .ok i ↔ i.SingleLine :=
  ⟨singleLine_of_parse, parse_render⟩

/-- What is read from a descriptor is not changed by rendering it anew, whatever that descriptor is
    made of: nothing that reading lets through is lost or misread in the rendered one. -/
theorem parse_render_of_parse {text : String} {i : Identity} (h : parse text = .ok i) :
    parse (render i) = .ok i :=
  parse_render (singleLine_of_parse h)

/-- A descriptor that nothing rendered: its lines end in several ways, one key stands twice, one is
    unknown, one value has no quotes, another one has quotes and signs inside, and the path of the
    module is a bare name. -/
def writtenByHand : String :=
  String.ofList (["# by hand\r\n", "superuser = false\r", "comment='old'\n",
    " comment = 'it''s = '' #1'\u2028", "default_version =  1.0 beta\x0b",
    "module_pathname = 'foo'"].flatMap String.toList)

theorem parse_render_of_parse_by_hand :
    ∃ i, parse writtenByHand = .ok i ∧ i.name = "foo" ∧ i.description = "it's = ' #1" ∧
      i.version = "1.0 beta" ∧ parse (render i) = .ok i := by
  have hentries : parseEntries writtenByHand = [("superuser", "false"),
      ("comment", "it's = ' #1"), ("default_version", "1.0 beta"), ("module_pathname", "foo")] := by
    refine (parseEntries_ofList _).trans ?_
    decide +kernel
  have hread : parse writtenByHand = .ok ⟨"foo", "it's = ' #1", "1.0 beta", by decide, by decide,
      by decide, by decide, by decide⟩ := by
    have hname : withoutLibraryDirectory "foo" = "foo" := by decide
    refine parse_of_lookup ?_ ?_ ?_ hname <;> rw [hentries] <;> rfl
  exact ⟨_, hread, rfl, rfl, rfl, parse_render_of_parse hread⟩

end NativeExtension.Control

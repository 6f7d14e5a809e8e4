import NativeExtension.Proofs.Control.Quotation

namespace NativeExtension

open Text

/-- No field of an identity holds a character that ends a line. -/
structure Identity.SingleLine (i : Identity) : Prop where
  name : Unbroken i.name.toList
  description : Unbroken i.description.toList
  version : Unbroken i.version.toList

namespace Control

/-- The value of an entry is made of characters of its line. -/
theorem lineEntry?_subset {raw : List Char} {key value : String}
    (h : lineEntry? raw = some (key, value)) : value.toList ⊆ raw := by
  unfold lineEntry? at h
  split at h
  next => cases h
  next => cases h
  next =>
    split at h
    next => cases h
    next sign rest hdrop =>
      simp only [Option.some.injEq, Prod.mk.injEq] at h
      obtain ⟨-, rfl⟩ := h
      intro c hc
      rw [String.toList_ofList] at hc
      have hrest : c ∈ rest := unquote_subset rest hc
      have hline : c ∈ (trim raw).dropWhile (· != '=') := hdrop ▸ List.mem_cons_of_mem sign hrest
      exact trim_subset raw ((List.dropWhile_sublist _).subset hline)

theorem Entries.put_values {entries : Entries} {key value : String} {e : String × String}
    (h : e ∈ entries.put key value) : e.2 = value ∨ ∃ old ∈ entries, old.2 = e.2 := by
  unfold put at h
  split at h
  · obtain ⟨⟨k, v⟩, hold, rfl⟩ := List.mem_map.mp h
    dsimp only
    split
    · exact .inl rfl
    · exact .inr ⟨(k, v), hold, rfl⟩
  · obtain hold | hnew := List.mem_append.mp h
    · exact .inr ⟨e, hold, rfl⟩
    · obtain rfl := List.mem_singleton.mp hnew
      exact .inl rfl

/-- A value that is read from a descriptor stands in one of its lines. -/
theorem unbroken_of_mem_parseEntries {text : String} {e : String × String}
    (h : e ∈ parseEntries text) : Unbroken e.2.toList := by
  have hline : ∀ new ∈ (lines text.toList).filterMap lineEntry?, Unbroken new.2.toList := by
    intro new hnew
    obtain ⟨line, hmem, hentry⟩ := List.mem_filterMap.mp hnew
    exact (unbroken_of_mem_lines hmem).of_subset (lineEntry?_subset hentry)
  -- the fold keeps the property, whatever entries it starts from
  have hfold : ∀ (found : List (String × String)) (entries : Entries),
      (∀ new ∈ found, Unbroken new.2.toList) → (∀ old ∈ entries, Unbroken old.2.toList) →
      ∀ e ∈ found.foldl (fun entries new => entries.put new.1 new.2) entries,
        Unbroken e.2.toList := by
    intro found
    induction found with
    | nil => exact fun _ _ hentries => hentries
    | cons first rest ih =>
      intro entries hfound hentries
      refine ih _ (fun new hnew => hfound new (List.mem_cons_of_mem _ hnew)) fun old hold => ?_
      obtain heq | ⟨before, hbefore, heq⟩ := Entries.put_values hold
      · rw [heq]
        exact hfound first List.mem_cons_self
      · rw [← heq]
        exact hentries before hbefore
  exact hfold _ [] hline (by simp) e h

theorem unbroken_of_lookup {text key value : String}
    (h : (parseEntries text).lookup key = some value) : Unbroken value.toList := by
  obtain ⟨before, after, hentries, -⟩ := List.lookup_eq_some_iff.mp h
  have hmem : (key, value) ∈ parseEntries text := by
    rw [hentries]
    exact List.mem_append_right _ List.mem_cons_self
  exact unbroken_of_mem_parseEntries hmem

/-- What a key must be like to be read from in front of an equals sign. -/
structure Key (key : List Char) : Prop where
  no_sign : '=' ∉ key
  head : ∃ c, key.head? = some c ∧ isBlank c = false ∧ c ≠ '#'
  trim_eq : trim (key ++ [' ']) = key

theorem lineEntry?_quoted {key : List Char} (h : Key key) (value : List Char) :
    lineEntry? (key ++ ' ' :: '=' :: ' ' :: quote value) =
      some (String.ofList key, String.ofList value) := by
  obtain ⟨first, hfirst, hblank, hcomment⟩ := h.head
  obtain ⟨rest, rfl⟩ : ∃ rest, key = first :: rest := by
    cases key with
    | nil => simp at hfirst
    | cons c rest => exact ⟨rest, by simpa using hfirst⟩
  have htrim : trim (first :: rest ++ ' ' :: '=' :: ' ' :: quote value) =
      first :: rest ++ ' ' :: '=' :: ' ' :: quote value := by
    refine trim_eq_self ?_ ?_
    · intro c hc
      obtain rfl : first = c := by simpa using hc
      exact hblank
    · intro c hc
      have happend : first :: rest ++ ' ' :: '=' :: ' ' :: quote value =
          (first :: rest ++ [' ', '=', ' ']) ++ quote value := by simp
      rw [happend, List.getLast?_append, getLast?_quote] at hc
      obtain rfl : '\x27' = c := by simpa using hc
      decide
  have hplain : ∀ c ∈ first :: rest ++ [' '], (c != '=') = true := by
    intro c hc
    obtain hkey | hspace := List.mem_append.mp hc
    · have hsign : c ≠ '=' := fun heq => h.no_sign (heq ▸ hkey)
      simpa using hsign
    · obtain rfl := List.mem_singleton.mp hspace
      decide
  have hsplit : first :: rest ++ ' ' :: '=' :: ' ' :: quote value =
      (first :: rest ++ [' ']) ++ '=' :: ' ' :: quote value := by simp
  have hdrop : (first :: rest ++ ' ' :: '=' :: ' ' :: quote value).dropWhile (· != '=') =
      '=' :: ' ' :: quote value := by
    rw [hsplit, List.dropWhile_append_of_pos hplain]
    rfl
  have htake : (first :: rest ++ ' ' :: '=' :: ' ' :: quote value).takeWhile (· != '=') =
      first :: rest ++ [' '] := by
    rw [hsplit, List.takeWhile_append_of_pos hplain]
    simp
  unfold lineEntry?
  rw [htrim]
  split
  next heq => simp at heq
  next heq => exact absurd (by simpa using congrArg List.head? heq) hcomment
  next =>
    simp only [hdrop, htake]
    rw [h.trim_eq, unquote_space_quote]

theorem comment_key : Key "comment".toList :=
  ⟨by decide, ⟨_, rfl, by decide, by decide⟩, by decide⟩

theorem version_key : Key "default_version".toList :=
  ⟨by decide, ⟨_, rfl, by decide, by decide⟩, by decide⟩

theorem pathname_key : Key "module_pathname".toList :=
  ⟨by decide, ⟨_, rfl, by decide, by decide⟩, by decide⟩

end Control

end NativeExtension

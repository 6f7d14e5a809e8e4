import Mathlib.Data.List.Nodup
import NativeExtension.Manifest
import NativeExtension.Proofs.Build.Ends
import NativeExtension.Proofs.Control.Descriptor

namespace NativeExtension

namespace Control

open Text

theorem Entries.keys_put (entries : Entries) (key value : String) :
    (entries.put key value).map Prod.fst =
      if entries.any (·.1 == key) then entries.map Prod.fst else entries.map Prod.fst ++ [key] := by
  unfold put
  split
  next =>
    rw [List.map_map]
    refine List.map_congr_left fun e _ => ?_
    simp only [Function.comp_apply]
    split <;> rfl
  next => simp

theorem Entries.mem_keys_put {entries : Entries} {key value other : String} :
    other ∈ (entries.put key value).map Prod.fst ↔ other ∈ entries.map Prod.fst ∨ other = key := by
  rw [Entries.keys_put]
  split
  next hany =>
    have hmem : key ∈ entries.map Prod.fst := by
      obtain ⟨e, he, hkey⟩ := List.any_eq_true.mp hany
      exact List.mem_map.mpr ⟨e, he, by simpa using hkey⟩
    refine ⟨.inl, ?_⟩
    rintro (h | rfl)
    · exact h
    · exact hmem
  next => simp

/-- The keys that are read from a descriptor are those that its lines define. -/
theorem mem_keys_parseEntries {text key : String} :
    key ∈ (parseEntries text).map Prod.fst ↔ key ∈ definedKeys text.toList := by
  have hfold (found : List (String × String)) (entries : Entries) :
      key ∈ (found.foldl (fun entries new => entries.put new.1 new.2) entries).map Prod.fst ↔
        key ∈ entries.map Prod.fst ∨ key ∈ found.map Prod.fst := by
    induction found generalizing entries with
    | nil => simp
    | cons first rest ih =>
      rw [List.foldl_cons, ih, Entries.mem_keys_put, List.map_cons, List.mem_cons, or_assoc]
  have hdefined : definedKeys text.toList =
      ((lines text.toList).filterMap lineEntry?).map Prod.fst := by
    rw [List.map_filterMap]
    rfl
  rw [hdefined, parseEntries, hfold]
  simp

/-- The keys of a descriptor. -/
def ownKeys : List String := ["comment", "default_version", "module_pathname", "relocatable"]

/-- A text in which exactly the keys of a descriptor are read, and each is defined by one line. -/
structure HasOwnKeysOnce (text : String) : Prop where
  keys : ∀ key, key ∈ (parseEntries text).map Prod.fst ↔ key ∈ ownKeys
  once : ∀ key ∈ ownKeys, (definedKeys text.toList).count key = 1

theorem hasOwnKeysOnce_iff_perm {text : String} :
    HasOwnKeysOnce text ↔ (definedKeys text.toList).Perm ownKeys := by
  have hown : ownKeys.Nodup := by decide
  constructor
  · intro h
    have hmem (key : String) : key ∈ definedKeys text.toList ↔ key ∈ ownKeys := by
      rw [← mem_keys_parseEntries, h.keys]
    have hnodup : (definedKeys text.toList).Nodup := by
      refine List.nodup_iff_count.mpr fun key => ?_
      by_cases hkey : key ∈ ownKeys
      · exact Nat.le_of_eq (h.once key hkey)
      · rw [List.count_eq_zero.mpr ((hmem key).not.mpr hkey)]
        exact Nat.zero_le 1
    exact (List.perm_ext_iff_of_nodup hnodup hown).mpr hmem
  · intro h
    refine ⟨fun key => ?_, fun key hkey => ?_⟩
    · rw [mem_keys_parseEntries, h.mem_iff]
    · rw [h.count_eq]
      exact List.count_eq_one_of_mem hown hkey

/-- A text none of whose lines behind the first is an entry. -/
def AddsNoKey (text : String) : Prop := laterKeys text.toList = []

instance (text : String) : Decidable (AddsNoKey text) :=
  inferInstanceAs (Decidable (laterKeys text.toList = []))

theorem addsNoKey_of_unbroken {text : String} (h : Unbroken text.toList) : AddsNoKey text := by
  by_cases hnil : text.toList = []
  · rw [AddsNoKey, laterKeys, hnil]
    rfl
  · rw [AddsNoKey, laterKeys, lines_of_unbroken hnil h]
    rfl

/-- Doubling the quotes of a text neither hides an entry in it nor makes one. -/
theorem laterKeys_doubleQuotes_eq_nil_iff {text : String} :
    laterKeys (doubleQuotes text.toList) = [] ↔ AddsNoKey text := by
  have hnone (line : List Char) : lineKey? (doubleQuotes line) = none ↔ lineKey? line = none := by
    rw [← Option.not_isSome_iff_eq_none, ← Option.not_isSome_iff_eq_none,
      isSome_lineKey?_doubleQuotes]
  rw [AddsNoKey, laterKeys, laterKeys, lines_doubleQuotes, ← List.map_tail,
    List.filterMap_eq_nil_iff, List.filterMap_eq_nil_iff, List.forall_mem_map]
  simp only [hnone]

/-- The descriptor of an identity has its own entries and no other exactly when no field of the
    identity has an entry among its later lines. -/
theorem hasOwnKeysOnce_render_iff (i : Identity) :
    HasOwnKeysOnce (render i) ↔
      AddsNoKey i.name ∧ AddsNoKey i.description ∧ AddsNoKey i.version := by
  rw [hasOwnKeysOnce_iff_perm, definedKeys_render]
  constructor
  · intro h
    have hlength := h.length_eq
    simp only [List.length_append, List.length_cons, List.length_nil, ownKeys] at hlength
    refine ⟨?_, laterKeys_doubleQuotes_eq_nil_iff.mp ?_, laterKeys_doubleQuotes_eq_nil_iff.mp ?_⟩
    · exact List.eq_nil_of_length_eq_zero (by omega)
    · exact List.eq_nil_of_length_eq_zero (by omega)
    · exact List.eq_nil_of_length_eq_zero (by omega)
  · rintro ⟨hname, hdescription, hversion⟩
    rw [laterKeys_doubleQuotes_eq_nil_iff.mpr hname,
      laterKeys_doubleQuotes_eq_nil_iff.mpr hdescription,
      laterKeys_doubleQuotes_eq_nil_iff.mpr hversion, hname]
    exact .refl _

/-- A descriptor whose fields are on one line each has its own entries and no other. -/
theorem hasOwnKeysOnce_render_of_unbroken {i : Identity} (hname : Unbroken i.name.toList)
    (hdescription : Unbroken i.description.toList) (hversion : Unbroken i.version.toList) :
    HasOwnKeysOnce (render i) :=
  (hasOwnKeysOnce_render_iff i).mpr ⟨addsNoKey_of_unbroken hname,
    addsNoKey_of_unbroken hdescription, addsNoKey_of_unbroken hversion⟩

end Control

namespace Manifest

theorem identity_eq_ok {source : String} {document : Toml.Table} {i : Identity}
    (h : identity source document = .ok i) :
    ∃ package, document.get? "package" = some (.table package) ∧
      textEntry? package .name = some i.name ∧
      textEntry? package .description = some i.description ∧
      textEntry? package .version = some i.version := by
  unfold identity at h
  split at h
  next package hpackage =>
    split at h
    next => cases h
    next => cases h
    next => cases h
    next name description version hname hdescription hversion =>
      split at h
      next j hfields =>
        obtain rfl : j = i := Except.ok.inj h
        obtain ⟨rfl, rfl, rfl⟩ := Control.ofFields_eq_ok hfields
        exact ⟨package, hpackage, hname, hdescription, hversion⟩
      next => cases h
      next => cases h
  next => cases h

theorem parseWith_eq_ok {read : String → Except Toml.Failure Toml.Table} {source text : String}
    {i : Identity} (h : parseWith read source text = .ok i) :
    ∃ document, read text = .ok document ∧ identity source document = .ok i := by
  unfold parseWith at h
  split at h
  next => cases h
  next => cases h
  next => cases h
  next document hread =>
    cases hidentity : identity source document with
    | error e =>
      rw [hidentity] at h
      cases h
    | ok j =>
      rw [hidentity] at h
      obtain rfl : j = i := Except.ok.inj h
      exact ⟨document, hread, hidentity⟩

/-- What stands in the descriptor of an extension whose manifest is accepted, whatever reads the
    manifest. The fields are the texts of the document as they are, and a field that runs over
    several lines makes an entry of each later line that looks like one: the descriptor has its own
    four keys, each on one line, exactly when no field has such a line. -/
theorem parseWith_descriptor {read : String → Except Toml.Failure Toml.Table}
    {source text : String} {i : Identity} (h : parseWith read source text = .ok i) :
    ∃ document package, read text = .ok document ∧
      document.get? "package" = some (.table package) ∧
      textEntry? package .name = some i.name ∧
      textEntry? package .description = some i.description ∧
      textEntry? package .version = some i.version ∧
      Control.definedKeys (Control.render i).toList =
        Control.laterKeys i.name.toList ++ "comment" ::
          (Control.laterKeys (Control.doubleQuotes i.description.toList) ++ "default_version" ::
            (Control.laterKeys (Control.doubleQuotes i.version.toList) ++ "module_pathname" ::
              (Control.laterKeys (Control.doubleQuotes i.name.toList) ++ ["relocatable"]))) ∧
      (Control.HasOwnKeysOnce (Control.render i) ↔
        Control.AddsNoKey i.name ∧ Control.AddsNoKey i.description ∧
          Control.AddsNoKey i.version) := by
  obtain ⟨document, hread, hidentity⟩ := parseWith_eq_ok h
  obtain ⟨package, hpackage, hname, hdescription, hversion⟩ := identity_eq_ok hidentity
  exact ⟨document, package, hread, hpackage, hname, hdescription, hversion,
    Control.definedKeys_render i, Control.hasOwnKeysOnce_render_iff i⟩

/-- A manifest whose description is over two lines. -/
def twoLineManifest : String :=
  "[package]\nname = \"foo\"\ndescription = \"It\x27s foo,\\nand more\"\nversion = \"1.0\"\n"

/-- A manifest whose description has an entry among its lines. -/
def entryManifest : String :=
  "[package]\nname = \"foo\"\ndescription = \"d\\ntrusted = true\\n\"\nversion = \"1\"\n"

/-- The sample in which the later line of the description is no entry. -/
theorem parseWith_descriptor_sample :
    ∃ i, parseWith Toml.read "Cargo.toml" twoLineManifest = .ok i ∧
      i.description = "It\x27s foo,\nand more" ∧
      Control.HasOwnKeysOnce (Control.render i) := by
  let i : Identity := ⟨"foo", "It\x27s foo,\nand more", "1.0", by decide, by decide, by decide,
    by decide, by decide⟩
  have hparse : parseWith Toml.read "Cargo.toml" twoLineManifest = .ok i :=
    Build.eq_ok_of_toOption (by decide +kernel)
  obtain ⟨-, -, -, -, -, -, -, -, hiff⟩ := parseWith_descriptor hparse
  exact ⟨i, hparse, rfl, hiff.mpr (by decide +kernel)⟩

/-- A manifest that is accepted can add an entry to the descriptor. -/
theorem parseWith_adds_entry :
    ∃ i, parseWith Toml.read "Cargo.toml" entryManifest = .ok i ∧
      (Control.parseEntries (Control.render i)).lookup "trusted" = some "true" ∧
      ¬ Control.HasOwnKeysOnce (Control.render i) := by
  let i : Identity := ⟨"foo", "d\ntrusted = true\n", "1", by decide, by decide, by decide,
    by decide, by decide⟩
  have hparse : parseWith Toml.read "Cargo.toml" entryManifest = .ok i :=
    Build.eq_ok_of_toOption (by decide +kernel)
  refine ⟨i, hparse, by decide +kernel, ?_⟩
  rw [Control.hasOwnKeysOnce_render_iff]
  decide +kernel

end Manifest

end NativeExtension

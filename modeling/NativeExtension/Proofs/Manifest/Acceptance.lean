import NativeExtension.Manifest
import NativeExtension.Proofs.Build.Ends
import NativeExtension.Proofs.Control.RoundTrip

namespace NativeExtension

/-- The text of a field. -/
def Identity.text (i : Identity) : Field → String
  | .name => i.name
  | .description => i.description
  | .version => i.version

theorem Identity.eq_of_text_eq {i j : Identity} (h : ∀ field, i.text field = j.text field) :
    i = j := by
  obtain ⟨name, description, version, _, _, _, _, _⟩ := i
  obtain ⟨name', description', version', _, _, _, _, _⟩ := j
  obtain rfl : name = name' := h .name
  obtain rfl : description = description' := h .description
  obtain rfl : version = version' := h .version
  rfl

namespace Manifest

/-- What a document has for each field: the entries of its `package` table, if there is such a
    table. -/
def entries? (document : Toml.Table) : Option (Field → Option Toml.Value) :=
  match document.get? "package" with
  | some (.table package) => some fun field => Toml.Table.get? package field.label
  | _ => none

/-- The text of an entry, if it is there and is one. -/
def text? : Option Toml.Value → Option String
  | some (.text s) => some s
  | _ => none

/-- What an entry gives for a field of an identity. -/
def given : Option Toml.Value → Given
  | none => .absent
  | some (.text s) => .text s
  | some _ => .otherwise

/-- The first field whose entry is absent, no text, or empty. -/
def firstMissing? (entry : Field → Option Toml.Value) : Option Field :=
  [Field.name, .description, .version].find? fun field => (text? (entry field)).all (· == "")

/-- The first of the fields that stand in file names whose entry holds a path separator. -/
def firstSeparated? (entry : Field → Option Toml.Value) : Option Field :=
  [Field.name, .version].find? fun field => (text? (entry field)).any hasSeparator

/-- What becomes of a document, by the entries that it has for the fields. That an entry is missing
    comes before what is wrong with another one. -/
inductive Decides (source : String) :
    Option (Field → Option Toml.Value) → Except ManifestError Identity → Prop
  | noPackage : Decides source none (.error (.noPackage source))
  | noEntry {entry : Field → Option Toml.Value} {field : Field}
      (missing : firstMissing? entry = some field) :
      Decides source (some entry) (.error (.noEntry source field))
  | rejected {entry : Field → Option Toml.Value} {field : Field}
      (complete : firstMissing? entry = none) (separated : firstSeparated? entry = some field) :
      Decides source (some entry) (.error (.rejected source field.label .separator))
  | accepted {entry : Field → Option Toml.Value} {i : Identity}
      (complete : firstMissing? entry = none) (plain : firstSeparated? entry = none)
      (values : ∀ field, entry field = some (.text (i.text field))) :
      Decides source (some entry) (.ok i)

/-- The entries leave nothing open. -/
theorem Decides.unique {source : String} {entries : Option (Field → Option Toml.Value)}
    {r r' : Except ManifestError Identity} (h : Decides source entries r)
    (h' : Decides source entries r') : r = r' := by
  cases h with
  | noPackage =>
    cases h'
    rfl
  | noEntry missing => cases h' <;> simp_all
  | rejected complete separated => cases h' <;> simp_all
  | accepted complete plain values =>
    cases h' with
    | noEntry => simp_all
    | rejected => simp_all
    | accepted _ _ values' =>
      refine congrArg Except.ok (Identity.eq_of_text_eq fun field => ?_)
      simpa using (values field).symm.trans (values' field)

/-- An empty text counts as missing, so that an identity is not asked to refuse it. -/
theorem Decides.ne_rejected_empty {source : String}
    {entries : Option (Field → Option Toml.Value)} {e : ManifestError}
    (h : Decides source entries (.error e)) (field : String) :
    e ≠ .rejected source field .empty := by
  cases h <;> simp

theorem Decides.of_values {source : String} {entry : Field → Option Toml.Value} {i : Identity}
    (h : ∀ field, entry field = some (.text (i.text field))) :
    Decides source (some entry) (.ok i) := by
  refine .accepted ?_ ?_ h
  · simp [firstMissing?, text?, h, Identity.text, i.name_nonempty, i.description_nonempty,
      i.version_nonempty]
  · simp [firstSeparated?, text?, h, Identity.text, i.name_plain, i.version_plain]

theorem text?_eq_some_iff {entry : Option Toml.Value} {s : String} :
    text? entry = some s ↔ entry = some (.text s) := by
  unfold text?
  split <;> simp_all

theorem textEntry?_eq (package : Toml.Table) (field : Field) :
    textEntry? package field = (text? (package.get? field.label)).filter (· ≠ "") := by
  unfold textEntry? text?
  cases package.get? field.label with
  | none => rfl
  | some value =>
    cases value with
    | text s => by_cases hs : s = "" <;> simp [Option.filter, hs]
    | _ => rfl

theorem textEntry?_eq_some {package : Toml.Table} {field : Field} {s : String}
    (h : textEntry? package field = some s) :
    package.get? field.label = some (.text s) ∧ s ≠ "" := by
  rw [textEntry?_eq, Option.filter_eq_some_iff, text?_eq_some_iff] at h
  simpa using h

theorem firstMissing?_eq (package : Toml.Table) :
    firstMissing? (fun field => package.get? field.label) =
      [Field.name, .description, .version].find? fun field =>
        textEntry? package field |>.isNone := by
  have hempty (field : Field) : (text? (package.get? field.label)).all (· == "") =
      Option.isNone ( textEntry? package field) := by
    rw [textEntry?_eq]
    cases text? (package.get? field.label) with
    | none => rfl
    | some s => by_cases hs : s = "" <;> simp [Option.filter, hs]
  simp only [firstMissing?, hempty]

theorem ofFields_of_separated_name {name : String} (description version : String)
    (hname : name ≠ "") (h : hasSeparator name = true) :
    ∃ others, Identity.ofFields (.text name) (.text description) (.text version) =
      .error ((Field.name.label, .separator) :: others) := by
  simp [Identity.ofFields, Identity.ofFields.rejection, Field.problem?, Field.isFileName, h, hname]

theorem ofFields_of_separated_version {name description version : String} (hname : name ≠ "")
    (hdescription : description ≠ "") (hversion : version ≠ "") (h : hasSeparator name = false)
    (hseparated : hasSeparator version = true) :
    Identity.ofFields (.text name) (.text description) (.text version) =
      .error [(Field.version.label, .separator)] := by
  simp [Identity.ofFields, Identity.ofFields.rejection, Field.problem?, Field.isFileName, h, hname,
    hdescription, hversion, hseparated]

/-- The entries of a table in which no field is missing are taken as they are, unless a path separator
    is found. -/
theorem decides_complete (source : String) {package : Toml.Table}
    {name description version : String} (hname : textEntry? package .name = some name)
    (hdescription : textEntry? package .description = some description)
    (hversion : textEntry? package .version = some version) :
    Decides source (some fun field => package.get? field.label)
      (match Identity.ofFields (.text name) (.text description) (.text version) with
        | .ok i => .ok i
        | .error ((field, problem) :: _) => .error (.rejected source field problem)
        | .error [] => .error (.noPackage source)) := by
  have hcomplete : firstMissing? (fun field => package.get? field.label) = none := by
    simp [firstMissing?_eq, hname, hdescription, hversion]
  obtain ⟨hname, hnameFilled⟩ := textEntry?_eq_some hname
  obtain ⟨hdescription, hdescriptionFilled⟩ := textEntry?_eq_some hdescription
  obtain ⟨hversion, hversionFilled⟩ := textEntry?_eq_some hversion
  cases hnameSeparated : hasSeparator name with
  | true =>
    obtain ⟨others, hfields⟩ :=
      ofFields_of_separated_name description version hnameFilled hnameSeparated
    rw [hfields]
    refine .rejected hcomplete ?_
    simp [firstSeparated?, hname, text?, hnameSeparated]
  | false =>
    cases hversionSeparated : hasSeparator version with
    | true =>
      rw [ofFields_of_separated_version hnameFilled hdescriptionFilled hversionFilled
        hnameSeparated hversionSeparated]
      refine .rejected hcomplete ?_
      simp [firstSeparated?, hname, hversion, text?, hnameSeparated, hversionSeparated]
    | false =>
      let i : Identity := ⟨name, description, version, hnameFilled, hdescriptionFilled,
        hversionFilled, hnameSeparated, hversionSeparated⟩
      rw [show Identity.ofFields (.text name) (.text description) (.text version) = .ok i from
        Control.ofFields_eq i]
      refine .of_values fun field => ?_
      cases field <;> assumption

theorem decides_identity (source : String) (document : Toml.Table) :
    Decides source (entries? document) (identity source document) := by
  unfold identity
  split
  next package hpackage =>
    have hentries : entries? document = some fun field => Toml.Table.get? package field.label := by
      rw [entries?, hpackage]
    rw [hentries]
    cases hname : textEntry? package .name with
    | none => exact .noEntry (by simp [firstMissing?_eq, hname])
    | some name =>
      cases hdescription : textEntry? package .description with
      | none => exact .noEntry (by simp [firstMissing?_eq, hname, hdescription])
      | some description =>
        cases hversion : textEntry? package .version with
        | none => exact .noEntry (by simp [firstMissing?_eq, hname, hdescription, hversion])
        | some version => exact decides_complete source hname hdescription hversion
  next hpackage =>
    have hentries : entries? document = none := by
      unfold entries?
      split
      next package hsome => exact absurd hsome (hpackage package)
      next => rfl
    rw [hentries]
    exact .noPackage

theorem given_eq_text_iff {entry : Option Toml.Value} {s : String} :
    given entry = .text s ↔ entry = some (.text s) := by
  unfold given
  split <;> simp_all

theorem ofFields_eq_ok_iff {name description version : Given} {i : Identity} :
    Identity.ofFields name description version = .ok i ↔
      name = .text i.name ∧ description = .text i.description ∧ version = .text i.version := by
  constructor
  · intro h
    cases name <;> cases description <;> cases version <;> try cases h
    obtain ⟨hname, hdescription, hversion⟩ := Control.ofFields_eq_ok h
    exact ⟨by rw [hname], by rw [hdescription], by rw [hversion]⟩
  · rintro ⟨rfl, rfl, rfl⟩
    exact Control.ofFields_eq i

/-- Accepted is what makes an identity, and nothing else is. -/
theorem Decides.eq_ok_iff {source : String} {entries : Option (Field → Option Toml.Value)}
    {r : Except ManifestError Identity} (h : Decides source entries r) (i : Identity) :
    r = .ok i ↔ ∃ entry, entries = some entry ∧
      Identity.ofFields (given (entry .name)) (given (entry .description))
        (given (entry .version)) = .ok i := by
  simp only [ofFields_eq_ok_iff, given_eq_text_iff]
  constructor
  · rintro rfl
    obtain _ | _ | _ | ⟨_, _, values⟩ := h
    exact ⟨_, rfl, values .name, values .description, values .version⟩
  · rintro ⟨entry, rfl, hname, hdescription, hversion⟩
    refine h.unique (.of_values fun field => ?_)
    cases field <;> assumption

theorem mapError_eq_ok_iff {ε ε' α : Type} {x : Except ε α} {f : ε → ε'} {a : α} :
    x.mapError f = .ok a ↔ x = .ok a := by
  constructor
  · intro h
    cases x <;> cases h
    rfl
  · rintro rfl
    rfl

/-- A manifest is read in a fixed order, whatever reads the document: a document that is none, no
    `package` table, the first field without a text, the first field in which a path separator
    stands. What is left is accepted with the three texts as they are, and this is all that an
    identity can be made of. No fault is let through but those of a reader that can not read an
    integer or nests too deep, no field is reported that the identity refuses for being empty, and
    nothing but the three entries matters. -/
theorem parseWith_decides (read : String → Except Toml.Failure Toml.Table)
    (source text : String) :
    (∀ e, read text = .error (.malformed e) →
        parseWith read source text = .error (.build (.manifest (.malformed source e)))) ∧
      (∀ document, read text = .ok document →
        (∃ r, Decides source (entries? document) r ∧
          parseWith read source text = r.mapError fun e => .build (.manifest e)) ∧
        (∀ i, parseWith read source text = .ok i ↔ ∃ entry, entries? document = some entry ∧
          Identity.ofFields (given (entry .name)) (given (entry .description))
            (given (entry .version)) = .ok i) ∧
        ∀ text' document', read text' = .ok document' → entries? document' = entries? document →
          parseWith read source text' = parseWith read source text) ∧
      (∀ fault, parseWith read source text = .error (.fault fault) ↔
        (∃ digits, read text = .error (.integerTooLong digits) ∧
          fault = .badValue (Toml.integerTooLongMessage digits)) ∨
        read text = .error .tooDeep ∧ fault = .tooLarge .nesting) ∧
      ∀ field,
        parseWith read source text ≠ .error (.build (.manifest (.rejected source field .empty))) := by
  have hdocument {text : String} {document : Toml.Table} (h : read text = .ok document) :
      parseWith read source text =
        (identity source document).mapError fun e => .build (.manifest e) := by
    rw [parseWith, h]
  refine ⟨fun e h => by rw [parseWith, h], fun document hread => ⟨?_, fun i => ?_, ?_⟩, ?_, ?_⟩
  · exact ⟨_, decides_identity source document, hdocument hread⟩
  · rw [hdocument hread, mapError_eq_ok_iff]
    exact (decides_identity source document).eq_ok_iff i
  · intro text' document' hread' hentries
    have hsame : identity source document' = identity source document :=
      (decides_identity source document').unique (hentries ▸ decides_identity source document)
    rw [hdocument hread, hdocument hread', hsame]
  · intro fault
    constructor
    · intro h
      unfold parseWith at h
      split at h
      next => cases h
      next digits hread =>
        cases h
        exact .inl ⟨digits, hread, rfl⟩
      next hread =>
        cases h
        exact .inr ⟨hread, rfl⟩
      next document hread =>
        cases hidentity : identity source document <;> rw [hidentity] at h <;> cases h
    · rintro (⟨digits, hread, rfl⟩ | ⟨hread, rfl⟩)
      · rw [parseWith, hread]
      · rw [parseWith, hread]
  · intro field h
    unfold parseWith at h
    split at h
    next => cases h
    next => cases h
    next => cases h
    next document hread =>
      have hdecides := decides_identity source document
      cases hidentity : identity source document with
      | ok i =>
        rw [hidentity] at h
        cases h
      | error e =>
        rw [hidentity] at h hdecides
        cases h
        exact hdecides.ne_rejected_empty field rfl

/-- The name is the first field with something wrong, but the description is missing. -/
theorem parseWith_decides_incomplete :
    let text := "[package]\nname = \"a/b\"\nversion = 1\n"
    ∃ document, Toml.read text = .ok document ∧
      parseWith Toml.read "Cargo.toml" text =
        .error (.build (.manifest (.noEntry "Cargo.toml" .description))) := by
  intro text
  have hmissing : ((Toml.read text).toOption.bind entries?).bind firstMissing? =
      some .description := by decide +kernel
  simp only [Option.bind_eq_some_iff] at hmissing
  obtain ⟨entry, ⟨document, hread, hentries⟩, hmissing⟩ := hmissing
  have hread : Toml.read text = .ok document := Build.eq_ok_of_toOption hread
  obtain ⟨-, hdocument, -⟩ := parseWith_decides Toml.read "Cargo.toml" text
  obtain ⟨⟨r, hdecides, hparse⟩, -⟩ := hdocument document hread
  rw [hentries] at hdecides
  obtain rfl := hdecides.unique (.noEntry hmissing)
  exact ⟨document, hread, hparse⟩

end Manifest

end NativeExtension

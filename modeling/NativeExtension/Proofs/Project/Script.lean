import NativeExtension.Project
import NativeExtension.Proofs.Build.Tool
import NativeExtension.Proofs.Files.Listing
import NativeExtension.Proofs.Text.Sorted

namespace NativeExtension

open Build FileTree

theorem Path.hasSuffix_iff {suffix name : String} :
    hasSuffix suffix name = true ↔ ∃ front, front ≠ "" ∧ name = front ++ suffix := by
  simp only [hasSuffix, Bool.and_eq_true, List.isSuffixOf_iff_suffix, decide_eq_true_eq]
  constructor
  · rintro ⟨⟨front, hfront⟩, hlonger⟩
    refine ⟨String.ofList front, ?_, ?_⟩
    · intro hempty
      obtain rfl : front = [] := by simpa using hempty
      simp [← String.length_toList, ← hfront] at hlonger
    · rw [← String.toList_inj]
      simpa using hfront.symm
  · rintro ⟨front, hne, rfl⟩
    refine ⟨⟨front.toList, by simp⟩, ?_⟩
    have hlength : front.length ≠ 0 := by simpa [String.length_eq_zero_iff] using hne
    rw [String.length_append]
    omega

namespace Project

/-- A name that ends in `.sql` with something before it. -/
def ScriptName (name : String) : Prop := ∃ front, front ≠ "" ∧ name = front ++ ".sql"

theorem hasSuffix_scriptSuffix_iff {name : String} :
    Path.hasSuffix scriptSuffix name = true ↔ ScriptName name :=
  Path.hasSuffix_iff

/-- An SQL definition in a directory: an entry with such a name that is, or links to, a regular file.
    -/
structure IsScript (t : FileTree) (directory : Path) (name : String) : Prop where
  stands : ∃ d mode e,
    t.find directory.toString = .ok (d, .directory mode) ∧ t.get? (d ++ [name]) = some e
  named : ScriptName name
  file : t.LeadsToFile (directory.entry name)

/-- A directory listed as file systems do it, with each name once. Where an entry with the name of an
    SQL definition cannot be followed, that is because it leads nowhere. -/
structure Listed (t : FileTree) (directory : Path) (listing : List String) : Prop where
  list_eq : t.list directory = .ok listing
  nodup : listing.Nodup
  no_nul : ∀ name ∈ listing, '\x00' ∉ name.toList
  checked : ∀ name ∈ listing, ScriptName name → ∀ e,
    t.find (directory.entry name).toString = .error e → e ∈ nowhereErrors

section Listed

variable {t u : FileTree} {directory : Path} {listing names : List String}

/-- The names that are kept are those of the files among them that are named like SQL definitions. -/
theorem scriptsAmong_keeps (hchecked : ∀ name ∈ names, ScriptName name →
      ∃ answer, t.isFile (directory.entry name) = .ok answer ∧
        (answer = true ↔ t.LeadsToFile (directory.entry name))) :
    ∃ kept, scriptsAmong t directory names = .ok kept ∧ kept.Sublist names ∧
      ∀ name, name ∈ kept ↔
        name ∈ names ∧ ScriptName name ∧ t.LeadsToFile (directory.entry name) := by
  induction names with
  | nil => exact ⟨[], rfl, .refl _, by simp⟩
  | cons name rest ih =>
    obtain ⟨kept, hkept, hsublist, hmem⟩ := ih fun other hother =>
      hchecked other (List.mem_cons_of_mem _ hother)
    -- both branches of the test go on alike, with the answer of the one that was taken
    have hrest (answer : Bool) : (do
        let others ← scriptsAmong t directory rest
        pure (if answer then name :: others else others)) =
        (Except.ok (if answer then name :: kept else kept) : Except Fault _) :=
      bind_eq_ok_iff.mpr ⟨kept, hkept, rfl⟩
    unfold scriptsAmong
    by_cases hname : ScriptName name
    · obtain ⟨answer, hfile, hiff⟩ := hchecked name List.mem_cons_self hname
      rw [if_pos (hasSuffix_scriptSuffix_iff.mpr hname)]
      refine ⟨_, bind_eq_ok_iff.mpr ⟨answer, hfile, hrest answer⟩, ?_, fun other => ?_⟩
      · cases answer with
        | true => exact hsublist.cons_cons name
        | false => exact hsublist.cons name
      · by_cases hother : other = name
        · subst hother
          cases answer <;> simp_all
        · cases answer <;> simp [hmem, hother]
    · rw [if_neg (mt hasSuffix_scriptSuffix_iff.mp hname)]
      refine ⟨kept, hrest false, hsublist.cons name, fun other => ?_⟩
      by_cases hother : other = name
      · simp [hother, hmem, hname]
      · simp [hother, hmem]

theorem IsScript.of_sameEntries {name : String} (h : IsScript t directory name)
    (hsame : SameEntries t u) : IsScript u directory name where
  stands := by simpa only [hsame.find, hsame.get?] using h.stands
  named := h.named
  file := by simpa only [hsame.find, LeadsToFile] using h.file

/-- What is an SQL definition does not depend on the order in which entries are listed. -/
theorem isScript_iff_of_sameEntries (h : SameEntries t u) {name : String} :
    IsScript u directory name ↔ IsScript t directory name :=
  ⟨fun hscript => hscript.of_sameEntries h.symm, fun hscript => hscript.of_sameEntries h⟩

namespace Listed

theorem reordered (h : Listed t directory listing) (hsame : SameEntries t u)
    {relisted : List String} (hlist : u.list directory = .ok relisted)
    (hperm : relisted.Perm listing) : Listed u directory relisted where
  list_eq := hlist
  nodup := hperm.nodup_iff.mpr h.nodup
  no_nul name hname := h.no_nul name (hperm.mem_iff.mp hname)
  checked name hname hnamed e herror :=
    h.checked name (hperm.mem_iff.mp hname) hnamed e (by rwa [hsame.find] at herror)

/-- Exactly the SQL definitions of a directory are kept of what it holds, each once. -/
theorem scriptsAmong (h : Listed t directory listing) (hparts : directory.parts ≠ []) :
    ∃ kept, Project.scriptsAmong t directory listing = .ok kept ∧ kept.Nodup ∧
      ∀ name, name ∈ kept ↔ IsScript t directory name := by
  obtain ⟨hfree, d, mode, hfind, -, rfl⟩ := list_eq_ok_iff.mp h.list_eq
  have hanswers (name : String) (hname : name ∈ t.names d) (hnamed : ScriptName name) :
      ∃ answer, t.isFile (directory.entry name) = .ok answer ∧
        (answer = true ↔ t.LeadsToFile (directory.entry name)) := by
    refine isFile_answers ?_ (h.checked name hname hnamed)
    simp [Path.toString_entry hparts, hfree, h.no_nul name hname]
  obtain ⟨kept, hkept, hsublist, hmem⟩ := scriptsAmong_keeps hanswers
  refine ⟨kept, hkept, hsublist.nodup h.nodup, fun name => ?_⟩
  rw [hmem, mem_names_iff]
  constructor
  · rintro ⟨⟨e, he⟩, hnamed, hfile⟩
    exact ⟨⟨d, mode, e, hfind, he⟩, hnamed, hfile⟩
  · rintro ⟨⟨d', _, e, hfind', he⟩, hnamed, hfile⟩
    obtain ⟨rfl, -⟩ : d = d' ∧ _ := by simpa [hfind] using hfind'
    exact ⟨⟨e, he⟩, hnamed, hfile⟩

end Listed

end Listed

section Choice

variable {directory : Path} {names : List String}

/-- Names in the order of their code points. -/
abbrev sorted (names : List String) : List String := names.mergeSort (fun a b => decide (a ≤ b))

theorem onlyScript_eq (directory : Path) (names : List String) :
    onlyScript directory names = match sorted names with
      | [] => .error (.noScript directory)
      | [name] => .ok (directory.entry name)
      | names => .error (.severalScripts directory names) :=
  rfl

theorem onlyScript_cases (directory : Path) (names : List String) :
    (sorted names = [] ∧ onlyScript directory names = .error (.noScript directory)) ∨
    (∃ name, sorted names = [name] ∧ onlyScript directory names = .ok (directory.entry name)) ∨
    ∃ first second rest, sorted names = first :: second :: rest ∧
      onlyScript directory names = .error (.severalScripts directory (sorted names)) := by
  rw [onlyScript_eq]
  rcases sorted names with _ | ⟨first, _ | ⟨second, rest⟩⟩
  · exact .inl ⟨rfl, rfl⟩
  · exact .inr (.inl ⟨first, rfl, rfl⟩)
  · exact .inr (.inr ⟨first, second, rest, rfl, rfl⟩)

/-- How a build goes on with the names of the SQL definitions that were found. -/
def chosen (directory : Path) (names : List String) : Except Failure Path :=
  (onlyScript directory names).mapError fun e => .build (.project e)

theorem chosen_perm {others : List String} (h : others.Perm names) :
    chosen directory others = chosen directory names := by
  rw [chosen, chosen, onlyScript_eq, onlyScript_eq, sorted, sorted, Text.mergeSort_eq_of_perm h]

/-- Looking for the SQL definition of a directory ends with the only one, tells that there is none,
    or names all there are in the order of their code points. -/
structure Settles (t : FileTree) (directory : Path) (r : Except Failure Path) : Prop where
  ok_iff : ∀ p, r = .ok p ↔
    ∃ name, directory.entry name = p ∧ ∀ other, IsScript t directory other ↔ other = name
  none_iff : r = .error (.build (.project (.noScript directory))) ↔
    ∀ name, ¬ IsScript t directory name
  several : ∀ name other, name ≠ other → IsScript t directory name → IsScript t directory other →
    ∃ names e, r = .error (.build (.project e)) ∧ e = .severalScripts directory names ∧
      names.Pairwise (· < ·) ∧ (∀ name, name ∈ names ↔ IsScript t directory name) ∧
      e.message = "Multiple SQL script files in " ++ directory.toString ++ ": " ++
        ", ".intercalate names

section Settles

variable {t : FileTree}

theorem settles_none (h : ∀ name, ¬ IsScript t directory name) :
    Settles t directory (.error (.build (.project (.noScript directory)))) where
  ok_iff p := by
    refine iff_of_false nofun ?_
    rintro ⟨name, -, hunique⟩
    exact h name ((hunique name).mpr rfl)
  none_iff := iff_of_true rfl h
  several name _ _ hname _ := absurd hname (h name)

theorem settles_one {only : String} (h : ∀ other, IsScript t directory other ↔ other = only) :
    Settles t directory (.ok (directory.entry only)) where
  ok_iff p := by
    constructor
    · rintro ⟨⟩
      exact ⟨only, rfl, h⟩
    · rintro ⟨name, rfl, hunique⟩
      rw [(hunique only).mp ((h only).mpr rfl)]
  none_iff := iff_of_false nofun fun hnone => hnone only ((h only).mpr rfl)
  several name other hne hname hother :=
    absurd (((h name).mp hname).trans ((h other).mp hother).symm) hne

theorem settles_several {first second : String} (hne : first ≠ second)
    (hfirst : IsScript t directory first) (hsecond : IsScript t directory second)
    (hsorted : names.Pairwise (· < ·))
    (hmem : ∀ name, name ∈ names ↔ IsScript t directory name) :
    Settles t directory (.error (.build (.project (.severalScripts directory names)))) where
  ok_iff p := by
    refine iff_of_false nofun ?_
    rintro ⟨name, -, hunique⟩
    exact hne (((hunique first).mp hfirst).trans ((hunique second).mp hsecond).symm)
  none_iff := iff_of_false (by simp) fun hnone => hnone first hfirst
  several _ _ _ _ _ := ⟨names, _, rfl, rfl, hsorted, hmem, rfl⟩

end Settles

theorem chosen_settles {t : FileTree} (hnodup : names.Nodup)
    (hmem : ∀ name, name ∈ names ↔ IsScript t directory name) :
    Settles t directory (chosen directory names) := by
  have hscript (name : String) : name ∈ sorted names ↔ IsScript t directory name := by
    rw [List.mem_mergeSort, hmem]
  have hsorted : (sorted names).Pairwise (· < ·) := Text.pairwise_lt_mergeSort hnodup
  unfold chosen
  obtain ⟨hnil, h⟩ | ⟨only, hsingle, h⟩ | ⟨first, second, rest, heq, h⟩ :=
    onlyScript_cases directory names
  · rw [h]
    exact settles_none fun name => by simp [← hscript, hnil]
  · rw [h]
    exact settles_one fun other => by simp [← hscript, hsingle]
  · -- the first two names in order are two different definitions
    have hlt : first < second := by
      rw [heq] at hsorted
      exact List.rel_of_pairwise_cons hsorted List.mem_cons_self
    have hne : first ≠ second := fun hsame => String.lt_irrefl second (hsame ▸ hlt)
    rw [h]
    exact settles_several hne ((hscript first).mp (by simp [heq]))
      ((hscript second).mp (by simp [heq])) hsorted hscript

end Choice

section Search

theorem sqlDirectory_plainName : PlainName sqlDirectory := by
  constructor <;> decide

variable {project : Path} {s : BuildState} {listing names : List String}

theorem findScript_ends
    (hlist : s.files.list (project.child sqlDirectory) = .ok listing)
    (hnames : scriptsAmong s.files (project.child sqlDirectory) listing = .ok names) :
    Ends (findScript project) s (chosen (project.child sqlDirectory) names) s := by
  obtain ⟨hfree, d, mode, hfind, -, -⟩ := list_eq_ok_iff.mp hlist
  have hdirectory : s.files.isDirectory (project.child sqlDirectory) = .ok true :=
    isDirectory_iff.mpr ⟨by simpa using hfree, d, mode, hfind⟩
  have hread : (s.files.list (project.child sqlDirectory) >>=
      scriptsAmong s.files (project.child sqlDirectory)) = .ok names :=
    bind_eq_ok_iff.mpr ⟨listing, hlist, hnames⟩
  refine ends_need hdirectory (ends_bind_iff.mpr (.inr ⟨_, s, ends_look_iff.mpr ⟨rfl, rfl⟩, ?_⟩))
  refine ends_bind_iff.mpr (.inr ⟨names, s, ?_, ?_⟩)
  · rw [hread]
    exact ends_orSystem_ok_iff.mpr ⟨rfl, rfl⟩
  · unfold chosen
    cases onlyScript (project.child sqlDirectory) names with
    | ok script => exact ends_pure_iff.mpr ⟨rfl, rfl⟩
    | error e => exact ends_failWith_iff.mpr ⟨rfl, rfl⟩

/-- In a directory that is there, whatever stands in it and in whatever order it is listed, the SQL
    definition of a project is found exactly where it is the only one. Where there are none or
    several, that is the error, and the names of several are in the order of their code points. -/
theorem findScript_settles (h : Listed s.files (project.child sqlDirectory) listing) :
    ∃ r, Ends (findScript project) s r s ∧
      Settles s.files (project.child sqlDirectory) r ∧
      ∀ s' relisted, SameEntries s.files s'.files →
        s'.files.list (project.child sqlDirectory) = .ok relisted → relisted.Perm listing →
          Ends (findScript project) s' r s' := by
  have hparts : (project.child sqlDirectory).parts ≠ [] := by
    rw [sqlDirectory_plainName.child_eq]
    simp
  obtain ⟨names, hnames, hnodup, hmem⟩ := h.scriptsAmong hparts
  refine ⟨_, findScript_ends h.list_eq hnames, chosen_settles hnodup hmem, ?_⟩
  intro s' relisted hsame hlist hperm
  obtain ⟨names', hnames', hnodup', hmem'⟩ := (h.reordered hsame hlist hperm).scriptsAmong hparts
  have hscripts : names'.Perm names := by
    refine (List.perm_ext_iff_of_nodup hnodup' hnodup).mpr fun name => ?_
    rw [hmem, hmem', isScript_iff_of_sameEntries hsame]
  rw [← chosen_perm hscripts]
  exact findScript_ends hlist hnames'

/-- A project with one SQL definition, which is a link, among entries that are named alike: a hidden
    one, a directory, a link to nothing and one to itself. -/
def mixedEntries : List (Location × Entry) :=
  [(["p"], .directory 0o755), (["p", "sql"], .directory 0o755),
    (["p", "kept"], .file .empty 0o644), (["p", "sql", "notes.txt"], .file .empty 0o644),
    (["p", "sql", ".sql"], .file .empty 0o644), (["p", "sql", "older.sql"], .directory 0o755),
    (["p", "sql", "gone.sql"], .link "nowhere"), (["p", "sql", "v1.0.sql"], .link "../kept"),
    (["p", "sql", "loop.sql"], .link "loop.sql")]

/-- The link is found, in either order of the entries. -/
theorem findScript_settles_mixed :
    let files : FileTree := { entries := mixedEntries, current := [] }
    let reversed : FileTree := { entries := mixedEntries.reverse, current := [] }
    let project : Path := .ofString "/p"
    let directory := project.child sqlDirectory
    let script := directory.entry "v1.0.sql"
    Listed files directory (files.names ["p", "sql"]) ∧
      (∀ name, IsScript files directory name ↔ name = "v1.0.sql") ∧
      Ends (findScript project) ⟨files, [], []⟩ (.ok script) ⟨files, [], []⟩ ∧
      Ends (findScript project) ⟨reversed, [], []⟩ (.ok script) ⟨reversed, [], []⟩ := by
  intro files reversed project directory script
  have hlisted : Listed files directory (files.names ["p", "sql"]) := by
    refine ⟨eq_ok_of_toOption (by decide +kernel), by decide +kernel, by decide +kernel, ?_⟩
    have hfollowed : ∀ name ∈ files.names ["p", "sql"],
        files.find (directory.entry name).toString ≠ .error .nameTooLong ∧
          files.find (directory.entry name).toString ≠ .error .accessDenied := by decide +kernel
    intro name hname _ e herror
    obtain ⟨hlong, hclosed⟩ := hfollowed name hname
    exact mem_nowhereErrors herror (fun h => hlong (h ▸ herror)) fun h => hclosed (h ▸ herror)
  obtain ⟨r, hends, hsettles, hreordered⟩ := findScript_settles (s := ⟨files, [], []⟩) hlisted
  obtain rfl : r = .ok script :=
    (congrArg Prod.fst hends).symm.trans (eq_ok_of_toOption (by decide +kernel))
  refine ⟨hlisted, ?_, hends, ?_⟩
  · obtain ⟨name, hname, hunique⟩ := (hsettles.ok_iff script).mp rfl
    obtain rfl : name = "v1.0.sql" := by simpa [directory, script, Path.entry] using hname
    exact hunique
  · have hsame : SameEntries files reversed :=
      sameEntries_of_perm (List.reverse_perm _) (by decide +kernel)
    refine hreordered ⟨reversed, [], []⟩ (reversed.names ["p", "sql"]) hsame
      (eq_ok_of_toOption (by decide +kernel)) ?_
    exact (List.reverse_perm mixedEntries).filterMap _

end Search

end Project

end NativeExtension

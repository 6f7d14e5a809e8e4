import Mathlib.Data.List.Basic
import NativeExtension.Proofs.Deployment.Effect

namespace NativeExtension

theorem PlainName.eq_of_child_eq {name other : String} (hname : PlainName name)
    (hother : PlainName other) {directory directory' : Path}
    (h : directory.child name = directory'.child other) : name = other := by
  rw [hname.child_eq, hother.child_eq] at h
  have hlast := congrArg (·.parts.getLast?) h
  simpa using hlast

namespace Identity

/-- Of two extensions with different names, only the scripts can have one name. -/
theorem eq_scriptName_of_shared {i j : Identity} (hne : i.name ≠ j.name) {name : String}
    (hi : name ∈ i.installedNames) (hj : name ∈ j.installedNames) :
    name = i.scriptName ∧ name = j.scriptName := by
  have hending {a b : String} (h : a = b) (hends : ending a ≠ ending b) :
      name = i.scriptName ∧ name = j.scriptName := absurd (congrArg ending h) hends
  simp only [installedNames, List.mem_cons, List.not_mem_nil, or_false] at hi hj
  obtain rfl | rfl | rfl := hi <;> obtain h | h | h := hj
  · exact absurd ((String.append_left_inj _).mp h) hne
  · exact hending h (by simp)
  · exact hending h (by simp)
  · exact hending h (by simp)
  · exact ⟨rfl, h⟩
  · exact hending h (by simp)
  · exact hending h (by simp)
  · exact hending h (by simp)
  · exact absurd ((String.append_left_inj _).mp h) hne

end Identity

namespace Deployment

open Build FileTree

/-- Two extensions with different names are installed in different places unless their scripts have
    one name, whatever the directories are. -/
theorem destinations_disjoint_iff {i j : Identity} (hne : i.name ≠ j.name) (modules shared : Path) :
    (destinations i modules shared).Disjoint (destinations j modules shared) ↔
      i.scriptName ≠ j.scriptName := by
  constructor
  · intro hdisjoint hscript
    have hi : (shared.child extensionSubdirectory).child i.scriptName ∈
        destinations i modules shared := by simp [destinations]
    have hj : (shared.child extensionSubdirectory).child i.scriptName ∈
        destinations j modules shared := by simp [destinations, hscript]
    exact hdisjoint hi hj
  · intro hscript p hi hj
    obtain ⟨directory, -, name, hname, rfl⟩ := exists_directory_of_mem_destinations hi
    obtain ⟨directory', -, other, hother, heq⟩ := exists_directory_of_mem_destinations hj
    obtain rfl := (Identity.plainName_of_mem_installedNames hname).eq_of_child_eq
      (Identity.plainName_of_mem_installedNames hother) heq
    obtain ⟨rfl, hsame⟩ := Identity.eq_scriptName_of_shared hne hname hother
    exact hscript hsame

/-- Each file that is installed is an entry afterwards, where its destination led before. -/
theorem Installs.exists_entry {t u : FileTree} {files : List DeployedFile}
    (h : Installs t files u)
    (hapart : files.Pairwise fun g g' => t.Apart g.destination g'.destination) {f : DeployedFile}
    (hf : f ∈ files) :
    ∃ l content mode, t.resolve .link f.destination.toString = .ok l ∧
      u.get? l = some (.file content mode) := by
  induction h with
  | nil => cases hf
  | @cons t v u g rest head tail ih =>
    obtain ⟨d, content, mode, -, hresolve, hget, -, hways, -⟩ := install_eq_ok head
    obtain ⟨hfirst, hpairs⟩ := List.pairwise_cons.mp hapart
    obtain rfl | hrest := List.mem_cons.mp hf
    · have hkept : u.get? d = v.get? d := tail.get?_of_unnamed fun g' hg' hd =>
        hfirst g' hg' d hresolve (hways.resolve_eq_ok hd (.inl rfl))
      exact ⟨d, content, mode, hresolve, hkept.trans hget⟩
    · obtain ⟨l, content, mode, hl, hget⟩ :=
        ih (hpairs.imp fun hpair => hpair.of_keepsWays hways) hrest
      exact ⟨l, content, mode, hways.resolve_eq_ok hl (.inl rfl), hget⟩

/-- A host that changes no file when it is asked where files are to be installed. -/
structure Idle (host : HostLayout) : Prop where
  modules : ∀ {s s' r}, Ends host.modules s r s' → WritesOnly [] s.files s'.files
  shared : ∀ {s s' r}, Ends host.shared s r s' → WritesOnly [] s.files s'.files

theorem fixed_idle (d : ServerDirectories) : Idle (.fixed d) where
  modules h := by
    obtain ⟨-, rfl⟩ := ends_pure_iff.mp h
    exact .refl [] _
  shared h := by
    obtain ⟨-, rfl⟩ := ends_pure_iff.mp h
    exact .refl [] _

theorem exists_installedName_of_mem_targets {artifacts : BuildArtifacts} {i : Identity}
    {modules shared : Path} {f : DeployedFile} (h : f ∈ targets artifacts i modules shared) :
    ∃ directory : Path, ∃ name ∈ i.installedNames, f.destination = directory.child name := by
  have hmem := List.mem_map_of_mem (f := DeployedFile.destination) h
  rw [targets_destinations] at hmem
  obtain ⟨directory, -, name, hname, hdestination⟩ := exists_directory_of_mem_destinations hmem
  exact ⟨directory, name, hname, hdestination⟩

/-- However a deployment ends, it installs files of the extension one after the other and changes
    nothing else. -/
theorem deploy_installs {artifacts : BuildArtifacts} {i : Identity} {host : HostLayout}
    {s s' : BuildState} {r : Except Failure (List DeployedFile)} (hidle : Idle host)
    (h : Ends (deploy artifacts i host) s r s') :
    ∃ v done, WritesOnly [] s.files v ∧ Installs v done s'.files ∧
      (∀ f ∈ done, ∃ directory : Path, ∃ name ∈ i.installedNames,
        f.destination = directory.child name) ∧
      ∀ deployed, r = .ok deployed →
        done = deployed ∧ ∃ modules shared, deployed = targets artifacts i modules shared := by
  obtain ⟨e, hmodules, rfl⟩ | ⟨modules, s₁, hmodules, h⟩ := ends_bind_iff.mp h
  · exact ⟨_, [], hidle.modules hmodules, .nil, by simp, by simp⟩
  have hfirst := hidle.modules hmodules
  obtain ⟨e, hshared, rfl⟩ | ⟨shared, s₂, hshared, h⟩ := ends_bind_iff.mp h
  · exact ⟨_, [], hfirst.trans (hidle.shared hshared), .nil, by simp, by simp⟩
  have hasked := hfirst.trans (hidle.shared hshared)
  obtain ⟨-, ⟨rfl, hinstalls⟩ | ⟨before, f, after, fault, htargets, rfl, hinstalls, -⟩⟩ :=
    installAll_cases h
  · refine ⟨_, _, hasked, hinstalls, fun f hf => exists_installedName_of_mem_targets hf, ?_⟩
    rintro deployed ⟨⟩
    exact ⟨rfl, modules, shared, rfl⟩
  · refine ⟨_, before, hasked, hinstalls, fun g hg => ?_, by simp⟩
    exact exists_installedName_of_mem_targets (htargets ▸ List.mem_append_left _ hg)

/-- What a deployment leaves of the files of another extension: every entry whose name is not among
    those that it installs, and every path but one that led through a link with such a name. -/
theorem deploy_leaves {artifacts : BuildArtifacts} {i : Identity} {host : HostLayout}
    {s s' : BuildState} {r : Except Failure (List DeployedFile)} (hidle : Idle host)
    (h : Ends (deploy artifacts i host) s r s') :
    (∀ l, (∀ name ∈ i.installedNames, l.getLast? ≠ some name) →
      s'.files.get? l = s.files.get? l) ∧
    KeepsWays s'.files s.files ∧
    ((∀ l target, s.files.get? l = some (.link target) →
        ∀ name ∈ i.installedNames, l.getLast? ≠ some name) → SameWays s.files s'.files) := by
  obtain ⟨v, done, hasked, hinstalls, hnames, -⟩ := deploy_installs hidle h
  refine ⟨fun l hl => ?_, ?_, fun hlinks => ?_⟩
  · have hkept : v.get? l = s.files.get? l := hasked.others l (by simp)
    rw [hinstalls.get?_eq, hkept]
    intro f hf
    obtain ⟨directory, name, hname, hdestination⟩ := hnames f hf
    exact ⟨directory, name, Identity.plainName_of_mem_installedNames hname, hdestination,
      hl name hname⟩
  · exact hinstalls.keepsWays.trans hasked.ways.symm.keepsWays
  · refine hasked.ways.trans (hinstalls.sameWays fun f hf l target hresolve hlink => ?_)
    obtain ⟨directory, name, hname, hdestination⟩ := hnames f hf
    rw [hdestination] at hresolve
    have hlast := getLast?_of_resolve_child (Identity.plainName_of_mem_installedNames hname)
      hresolve
    have hkept : v.get? l = s.files.get? l := hasked.others l (by simp)
    exact hlinks l target (hkept.symm.trans hlink) name hname hlast

/-- A file of an extension has a name that no file of another has, unless both are scripts of one
    name. -/
theorem exists_name_apart {artifacts : BuildArtifacts} {i j : Identity} {modules shared : Path}
    {f : DeployedFile} (hne : i.name ≠ j.name) (hf : f ∈ targets artifacts i modules shared)
    (hother : i.scriptName ≠ j.scriptName ∨ f.artifact ≠ .script) :
    ∃ directory : Path, ∃ name ∈ i.installedNames, f.destination = directory.child name ∧
      name ∉ j.installedNames := by
  have hname : ∃ directory : Path, ∃ name ∈ i.installedNames,
      f.destination = directory.child name ∧ (f.artifact ≠ .script → name ≠ i.scriptName) := by
    simp only [targets, List.mem_cons, List.not_mem_nil, or_false] at hf
    obtain rfl | rfl | rfl := hf
    · have happart : i.moduleName ≠ i.scriptName := fun heq =>
        absurd (congrArg Identity.ending heq) (by simp)
      exact ⟨_, _, by simp [Identity.installedNames], rfl, fun _ => happart⟩
    · exact ⟨_, _, by simp [Identity.installedNames], rfl, fun h => absurd rfl h⟩
    · exact ⟨_, _, by simp [Identity.installedNames], rfl, fun _ =>
        i.scriptName_ne_controlName.symm⟩
  obtain ⟨directory, name, hmem, hdestination, hscript⟩ := hname
  refine ⟨directory, name, hmem, hdestination, fun hshared => ?_⟩
  obtain ⟨rfl, hsame⟩ := Identity.eq_scriptName_of_shared hne hmem hshared
  obtain hdifferent | hartifact := hother
  · exact hdifferent hsame
  · exact hscript hartifact rfl

/-- Deploying one extension after another one. They are installed in different places unless their
    scripts have one name, and what is not installed in one place stays: each file of the first is
    still the entry that it was made, and its path leads to that entry or nowhere. The path can be
    lost only where a link was replaced that had the name of a file of the second. -/
theorem deploy_spares {artifacts artifacts' : BuildArtifacts} {i j : Identity}
    {host host' : HostLayout} {s s₁ s₂ : BuildState} {deployed : List DeployedFile}
    {r : Except Failure (List DeployedFile)} (hne : i.name ≠ j.name) (hidle : Idle host)
    (hidle' : Idle host') (hfirst : Ends (deploy artifacts i host) s (.ok deployed) s₁)
    (hsecond : Ends (deploy artifacts' j host') s₁ r s₂) :
    (∀ modules shared, (destinations i modules shared).Disjoint (destinations j modules shared) ↔
      i.scriptName ≠ j.scriptName) ∧
    ∀ f ∈ deployed, ∃ l content mode, s.files.resolve .link f.destination.toString = .ok l ∧
      s₁.files.get? l = some (.file content mode) ∧
      (i.scriptName ≠ j.scriptName ∨ f.artifact ≠ .script →
        s₂.files.get? l = some (.file content mode) ∧
        (∀ m, s₂.files.resolve .link f.destination.toString = .ok m → m = l) ∧
        ((∀ k target, s₁.files.get? k = some (.link target) →
            ∀ name ∈ j.installedNames, k.getLast? ≠ some name) →
          s₁.files.resolve .link f.destination.toString = .ok l →
          s₂.files.resolve .link f.destination.toString = .ok l)) := by
  refine ⟨destinations_disjoint_iff hne, fun f hf => ?_⟩
  obtain ⟨v, done, hasked, hinstalls, -, hdone⟩ := deploy_installs hidle hfirst
  obtain ⟨rfl, modules, shared, rfl⟩ := hdone _ rfl
  have hapart := destinations_apart v i modules shared
  rw [← targets_destinations artifacts, List.pairwise_map] at hapart
  obtain ⟨l, content, mode, hv, hget⟩ := hinstalls.exists_entry hapart hf
  have hl := hasked.ways.symm.resolve_eq_ok hv
  refine ⟨l, content, mode, hl, hget, fun hother => ?_⟩
  obtain ⟨-, hways, -⟩ := deploy_leaves hidle hfirst
  obtain ⟨hentries, hways', hsame⟩ := deploy_leaves hidle' hsecond
  refine ⟨?_, fun m hm => ?_, fun hlinks hpath => (hsame hlinks).resolve_eq_ok hpath⟩
  · obtain ⟨directory, name, hname, hdestination, hnot⟩ := exists_name_apart hne hf hother
    rw [hdestination] at hl
    have hlast := getLast?_of_resolve_child (Identity.plainName_of_mem_installedNames hname) hl
    rw [hentries, hget]
    rintro other hmem hlast'
    obtain rfl : name = other := by simpa [hlast] using hlast'
    exact hnot hmem
  · exact resolve_unique ((hways'.trans hways).resolve_eq_ok hm (.inl rfl)) hl

/-- The files that a build of an extension leaves in a directory, with the same octets in each. -/
def builtIn (directory : String) (i : Identity) (content : String) : List (Location × Entry) :=
  [([directory], .directory 0o755), ([directory, i.sharedLibraryName], .file content.toUTF8 0o644),
    ([directory, i.scriptName], .file content.toUTF8 0o644),
    ([directory, i.controlName], .file content.toUTF8 0o644)]

/-- Two built extensions, in `/a` and `/b`, on a host with modules in `/m` and shared data in
    `/s`. -/
def bothBuilt (i j : Identity) (more : List (Location × Entry)) : BuildState :=
  let entries := builtIn "a" i "1" ++ builtIn "b" j "2" ++ more ++
    [(["m"], .directory 0o755), (["s"], .directory 0o755), (["s", "extension"], .directory 0o755)]
  ⟨{ entries, current := [] }, [], []⟩

/-- The extension `a` in a version with two dashes in it. -/
def dashedVersion : Identity :=
  ⟨"a", "other", "1--2", by decide, by decide, by decide, by decide, by decide⟩

/-- The extension `a--1`. -/
def dashedName : Identity :=
  ⟨"a--1", "other", "2", by decide, by decide, by decide, by decide, by decide⟩

/-- The extension `b`. -/
def plainOther : Identity := ⟨"b", "other", "2", by decide, by decide, by decide, by decide, by decide⟩

/-- A host with its shared data in `/s`. -/
def knownHost (modules : String) : HostLayout :=
  .fixed ⟨.ofString "/h", .ofString modules, .ofString "/s"⟩

/-- Deploys what was built in a directory. -/
def deployFrom (directory : String) (i : Identity) (host : HostLayout) :
    Build (List DeployedFile) :=
  deploy (.within (.ofString directory) i) i host

theorem deploy_spares_sample :
    ∃ deployed s₁ r s₂,
      Ends (deployFrom "/a" dashedVersion (knownHost "/m"))
        (bothBuilt dashedVersion plainOther []) (.ok deployed) s₁ ∧
      Ends (deployFrom "/b" plainOther (knownHost "/m")) s₁ r s₂ ∧
      ∀ f ∈ deployed, ∃ l content mode, s₁.files.get? l = some (.file content mode) ∧
        s₂.files.get? l = some (.file content mode) := by
  obtain ⟨s₁, hfirst⟩ : ∃ s₁, Ends (deployFrom "/a" dashedVersion (knownHost "/m"))
      (bothBuilt dashedVersion plainOther [])
      (.ok (targets (.within (.ofString "/a") dashedVersion) dashedVersion (.ofString "/m")
        (.ofString "/s"))) s₁ := exists_ends_ok (by decide +kernel)
  obtain ⟨r, s₂, hsecond⟩ := exists_ends (deployFrom "/b" plainOther (knownHost "/m")) s₁
  obtain ⟨-, hspared⟩ :=
    deploy_spares (by decide) (fixed_idle _) (fixed_idle _) hfirst hsecond
  refine ⟨_, s₁, r, s₂, hfirst, hsecond, fun f hf => ?_⟩
  obtain ⟨l, content, mode, -, hget, hkept⟩ := hspared f hf
  exact ⟨l, content, mode, hget, (hkept (.inl (by decide))).1⟩

/-- The octets that a path holds. -/
def held? (t : FileTree) (path : Path) : Option ByteArray :=
  match t.resolve .link path.toString with
  | .ok l =>
    match t.get? l with
    | some (.file content _) => some content
    | _ => none
  | .error _ => none

theorem held?_eq_some_iff {t : FileTree} {path : Path} {content : ByteArray} :
    held? t path = some content ↔ t.Holds path content := by
  unfold held? Holds
  cases t.resolve .link path.toString with
  | error e => simp
  | ok l =>
    cases hget : t.get? l with
    | none => simp [hget]
    | some e => cases e <;> simp [hget]

/-- Two extensions with different names, of which the second, when it is deployed as well, takes
    away what a path of the first held. -/
def TakesAway (i j : Identity) (host : HostLayout) (s : BuildState) : Prop :=
  i.name ≠ j.name ∧ ∃ deployed s₁ done s₂,
    Ends (deployFrom "/a" i host) s (.ok deployed) s₁ ∧
    Ends (deployFrom "/b" j host) s₁ (.ok done) s₂ ∧
    ∃ f ∈ deployed, ∃ content, s₁.files.Holds f.destination content ∧
      ¬ s₂.files.Holds f.destination content

/-- Whether the second deployment changes what the path of a file held after the first. -/
def takesAway (i j : Identity) (host : HostLayout) (s : BuildState) (f : DeployedFile) : Bool :=
  match Id.run ((deployFrom "/a" i host).run.run s) with
  | (.ok deployed, s₁) =>
    match Id.run ((deployFrom "/b" j host).run.run s₁) with
    | (.ok _, s₂) =>
      match held? s₁.files f.destination with
      | some content =>
        deployed.contains f && decide ((held? s₂.files f.destination).map (·.data) ≠ content.data)
      | none => false
    | _ => false
  | _ => false

theorem takesAway_of {i j : Identity} {host : HostLayout} {s : BuildState} {f : DeployedFile}
    (hne : i.name ≠ j.name) (h : takesAway i j host s f = true) : TakesAway i j host s := by
  unfold takesAway at h
  split at h
  next deployed s₁ hfirst =>
    split at h
    next done s₂ hsecond =>
      split at h
      next content hheld =>
        simp only [Bool.and_eq_true, List.contains_iff_mem, decide_eq_true_eq] at h
        refine ⟨hne, deployed, s₁, done, s₂, hfirst, hsecond, f, h.1, content,
          held?_eq_some_iff.mp hheld, fun hholds => h.2 ?_⟩
        rw [held?_eq_some_iff.mpr hholds]
        rfl
      next => cases h
    next => cases h
  next => cases h

/-- A runner that says `/s` to every command and empties the library of the extension `a` there. -/
def emptyingRunner : Command.Runner := fun _ c t =>
  (.ok ⟨c.args, 0, "/s\n", ""⟩, t.put ["s", "a.so"] (.file .empty 0o644))

/-- The script of one extension replaces that of another, where a dash of the version stands in the
    name. And a library can be lost from its path though the scripts have different names, in two
    ways: the directory of modules was reached through a link that a descriptor replaces, or the
    command that is asked for the directories changes the file. -/
theorem deploy_takes_away :
    TakesAway dashedVersion dashedName (knownHost "/m") (bothBuilt dashedVersion dashedName []) ∧
      dashedVersion.scriptName ≠ plainOther.scriptName ∧
      TakesAway dashedVersion plainOther (knownHost "/s/extension/b.control")
        (bothBuilt dashedVersion plainOther [(["s", "extension", "b.control"], .link "/m")]) ∧
      TakesAway dashedVersion plainOther (.queried "pg_config" emptyingRunner none)
        (bothBuilt dashedVersion plainOther []) := by
  let script : DeployedFile :=
    ⟨.script, .ofString "/a/a--1--2.sql", .ofString "/s/extension/a--1--2.sql"⟩
  let linked : DeployedFile :=
    ⟨.sharedLibrary, .ofString "/a/liba.so", .ofString "/s/extension/b.control/a.so"⟩
  let emptied : DeployedFile := ⟨.sharedLibrary, .ofString "/a/liba.so", .ofString "/s/a.so"⟩
  have hscript : takesAway dashedVersion dashedName (knownHost "/m")
      (bothBuilt dashedVersion dashedName []) script = true := by decide +kernel
  have hlinked : takesAway dashedVersion plainOther (knownHost "/s/extension/b.control")
      (bothBuilt dashedVersion plainOther [(["s", "extension", "b.control"], .link "/m")])
      linked = true := by decide +kernel
  have hemptied : takesAway dashedVersion plainOther (.queried "pg_config" emptyingRunner none)
      (bothBuilt dashedVersion plainOther []) emptied = true := by decide +kernel
  exact ⟨takesAway_of (by decide) hscript, by decide, takesAway_of (by decide) hlinked,
    takesAway_of (by decide) hemptied⟩

end Deployment

end NativeExtension

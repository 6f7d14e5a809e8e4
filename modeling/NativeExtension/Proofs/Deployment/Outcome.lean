import NativeExtension.Proofs.Build.Ends
import NativeExtension.Proofs.Deployment.Installs

namespace NativeExtension.Deployment

open Build

/-- What a deployment fails with where a fault keeps one of its files from being installed. -/
def failureOn (f : DeployedFile) : Fault → Failure :=
  failureOf fun e => .deploy f.artifact f.source f.destination e

/-- Where the descriptor of an extension is installed. -/
def controlPath (i : Identity) (shared : Path) : Path :=
  (shared.child extensionSubdirectory).child i.controlName

theorem installOne_cases {f : DeployedFile} {s s' : BuildState} {r : Except Failure DeployedFile}
    (h : Ends (installOne f) s r s') :
    s'.calls = s.calls ∧
      ((r = .ok f ∧ s.files.install f.source f.destination = (.ok (), s'.files)) ∨
        ∃ fault, r = .error (failureOn f fault) ∧ s'.files = s.files ∧
          s.files.install f.source f.destination = (.error fault, s.files)) := by
  obtain ⟨_, hchange, -⟩ | ⟨result, s₁, hchange, h⟩ := ends_bind_iff.mp h
  · simp at hchange
  · obtain ⟨hresult, rfl⟩ := ends_changeAnyway_iff.mp hchange
    obtain rfl : result = (s.files.install f.source f.destination).1 := by simpa using hresult
    obtain ⟨d, content, mode, hinstall, -⟩ | ⟨fault, hinstall⟩ :=
      s.files.install_cases f.source f.destination
    · rw [hinstall] at h ⊢
      simp only [ends_bind_iff, ends_orSystem_ok_iff, ends_say_iff, ends_pure_iff] at h
      obtain ⟨_, ⟨⟨⟩, _⟩, _⟩ | ⟨_, _, ⟨_, rfl⟩, ⟨_, ⟨⟨⟩, _⟩, _⟩ | ⟨_, _, ⟨_, rfl⟩, rfl, rfl⟩⟩ := h
      exact ⟨rfl, .inl ⟨rfl, rfl⟩⟩
    · rw [hinstall] at h ⊢
      simp only [ends_bind_iff, ends_orSystem_error_iff] at h
      obtain ⟨_, ⟨⟨⟩, rfl⟩, rfl⟩ | ⟨_, _, ⟨⟨⟩, _⟩, _⟩ := h
      exact ⟨rfl, .inr ⟨fault, rfl, rfl, rfl⟩⟩

/-- Files are installed until one of them fails; that one and those after it leave no trace. -/
theorem installAll_cases {files : List DeployedFile} {s s' : BuildState}
    {r : Except Failure (List DeployedFile)} (h : Ends (installAll files) s r s') :
    s'.calls = s.calls ∧
      ((r = .ok files ∧ Installs s.files files s'.files) ∨
        ∃ before f after fault, files = before ++ f :: after ∧ r = .error (failureOn f fault) ∧
          Installs s.files before s'.files ∧
          s'.files.install f.source f.destination = (.error fault, s'.files)) := by
  induction files generalizing s r with
  | nil =>
    obtain ⟨rfl, rfl⟩ := ends_pure_iff.mp h
    exact ⟨rfl, .inl ⟨rfl, .nil⟩⟩
  | cons f rest ih =>
    obtain ⟨e, hone, rfl⟩ | ⟨done, s₁, hone, hthen⟩ := ends_bind_iff.mp h
    · obtain ⟨hcalls, ⟨⟨⟩, -⟩ | ⟨fault, hfault, hfiles, hinstall⟩⟩ := installOne_cases hone
      refine ⟨hcalls, .inr ⟨[], f, rest, fault, rfl, by simpa using hfault, ?_, ?_⟩⟩
      · exact hfiles ▸ .nil
      · rw [hfiles]
        exact hinstall
    · obtain ⟨hcalls, ⟨hdone, head⟩ | ⟨_, ⟨⟩, -⟩⟩ := installOne_cases hone
      obtain rfl : done = f := by simpa using hdone
      obtain ⟨e, hall, rfl⟩ | ⟨others, s₂, hall, hend⟩ := ends_bind_iff.mp hthen
      · obtain ⟨hrest, ⟨⟨⟩, -⟩ | ⟨before, g, after, fault, rfl, hfault, tail, hinstall⟩⟩ := ih hall
        exact ⟨hrest.trans hcalls, .inr ⟨done :: before, g, after, fault, rfl,
          by simpa using hfault, .cons head tail, hinstall⟩⟩
      · obtain ⟨rfl, rfl⟩ := ends_pure_iff.mp hend
        obtain ⟨hrest, ⟨hothers, tail⟩ | ⟨_, _, _, _, _, ⟨⟩, -⟩⟩ := ih hall
        obtain rfl : others = rest := by simpa using hothers
        exact ⟨hrest.trans hcalls, .inl ⟨rfl, .cons head tail⟩⟩

/-- The files that are installed before one that fails are not the descriptor, and have another
    name than it. -/
theorem exists_plainName_of_before {artifacts : BuildArtifacts} {i : Identity}
    {modules shared : Path} {before after : List DeployedFile} {f g : DeployedFile}
    (htargets : targets artifacts i modules shared = before ++ f :: after) (hg : g ∈ before) :
    ∃ directory name, PlainName name ∧ g.destination = Path.child directory name ∧
      name ≠ i.controlName := by
  have hfirst : before <+: (targets artifacts i modules shared).dropLast := by
    rw [htargets, List.dropLast_append_of_ne_nil (by simp)]
    exact List.prefix_append _ _
  have hmem := hfirst.subset hg
  simp only [targets, List.dropLast_cons_cons, List.dropLast_singleton, List.mem_cons,
    List.not_mem_nil, or_false] at hmem
  obtain rfl | rfl := hmem
  · exact ⟨_, _, i.moduleName_plainName, rfl, i.moduleName_ne_controlName⟩
  · exact ⟨_, _, i.scriptName_plainName, rfl, i.scriptName_ne_controlName⟩

/-- A deployment that succeeds has installed the library, the script and the descriptor one after
    the other. One that fails names the first of them that cannot be installed and leaves the files
    as those before it made them; whatever stands in the place of the descriptor stays. Where a
    directory cannot be found nothing is installed. -/
theorem deploy_outcome (artifacts : BuildArtifacts) (i : Identity) (host : HostLayout)
    (s : BuildState) :
    ∃ r s', Ends (deploy artifacts i host) s r s' ∧
      ((∃ e, Ends host.modules s (.error e) s' ∧ r = .error e) ∨
        (∃ modules s₁ e, Ends host.modules s (.ok modules) s₁ ∧
          Ends host.shared s₁ (.error e) s' ∧ r = .error e) ∨
        ∃ modules shared s₁ s₂, Ends host.modules s (.ok modules) s₁ ∧
          Ends host.shared s₁ (.ok shared) s₂ ∧
          ((r = .ok (targets artifacts i modules shared) ∧
              Installs s₂.files (targets artifacts i modules shared) s'.files) ∨
            ∃ before f after fault,
              targets artifacts i modules shared = before ++ f :: after ∧
              r = .error (failureOn f fault) ∧
              Installs s₂.files before s'.files ∧
              s'.files.install f.source f.destination = (.error fault, s'.files) ∧
              ∀ l, s₂.files.resolve .link (controlPath i shared).toString = .ok l ∨
                  s'.files.resolve .link (controlPath i shared).toString = .ok l →
                s'.files.get? l = s₂.files.get? l)) := by
  obtain ⟨r, s', h⟩ := exists_ends (deploy artifacts i host) s
  refine ⟨r, s', h, ?_⟩
  obtain ⟨e, hmodules, rfl⟩ | ⟨modules, s₁, hmodules, h⟩ := ends_bind_iff.mp h
  · exact .inl ⟨e, hmodules, rfl⟩
  obtain ⟨e, hshared, rfl⟩ | ⟨shared, s₂, hshared, h⟩ := ends_bind_iff.mp h
  · exact .inr (.inl ⟨modules, s₁, e, hmodules, hshared, rfl⟩)
  refine .inr (.inr ⟨modules, shared, s₁, s₂, hmodules, hshared, ?_⟩)
  obtain ⟨-, hdone | ⟨before, f, after, fault, htargets, hfault, hbefore, hinstall⟩⟩ :=
    installAll_cases h
  · exact .inl hdone
  refine .inr ⟨before, f, after, fault, htargets, hfault, hbefore, hinstall, ?_⟩
  intro l hl
  have hlast : l.getLast? = some i.controlName := by
    obtain hl | hl := hl <;> exact FileTree.getLast?_of_resolve_child i.controlName_plainName hl
  refine hbefore.get?_eq fun g hg => ?_
  obtain ⟨directory, name, hplain, hdestination, hname⟩ := exists_plainName_of_before htargets hg
  refine ⟨directory, name, hplain, hdestination, ?_⟩
  rw [hlast]
  simpa using hname.symm

end NativeExtension.Deployment

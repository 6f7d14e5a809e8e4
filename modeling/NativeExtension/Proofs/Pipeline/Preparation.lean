import NativeExtension.Pipeline
import NativeExtension.Proofs.Build.Quiet

namespace NativeExtension

open Build

/-- The errors of the stages that run no command. -/
def BuildError.OfPreparation : BuildError → Prop
  | .manifest _ | .scan _ | .project _ | .metadata _ | .sourceWrite .. => True
  | _ => False

theorem Manifest.readIdentity_quiet (path : Path) :
    Quiet BuildError.OfPreparation (readIdentity path) := by
  refine .bind (.look _) fun text => .bind (.orRead (fun _ => trivial) _) fun text => ?_
  refine .bind (.ofResult ?_) fun i => .bind (.say ..) fun _ => .pure _
  intro e herror
  unfold parse parseWith at herror
  split at herror
  next => cases herror; trivial
  next => cases herror
  next => cases herror
  next document _ =>
    cases hidentity : identity path.toString document with
    | ok i =>
      rw [hidentity] at herror
      cases herror
    | error problem =>
      rw [hidentity] at herror
      cases herror
      trivial

theorem Scan.declarations_quiet (sql : String) :
    Quiet BuildError.OfPreparation (declarations sql) := by
  unfold declarations
  split
  next => exact .failWith trivial
  next => exact .bind (.say ..) fun _ => .pure _

theorem Scan.wrapper_quiet (names : List String) :
    Quiet BuildError.OfPreparation (wrapper names) := by
  unfold wrapper
  split
  next => exact .bind (.say ..) fun _ => .pure _
  next => exact .pure _

theorem Toolchain.writeMetadata_quiet {kind : BuildError → Prop} (hkind : ∀ e, kind (.metadata e))
    (buildDir script : Path) (i : Identity) : Quiet kind (writeMetadata buildDir script i) := by
  refine .bind (.changeAnyway _) fun _ => .bind (.orSystem (fun _ => hkind _) _) fun _ => ?_
  refine .bind (.change _) fun _ => .bind (.orSystem (fun _ => hkind _) _) fun _ => ?_
  refine .bind (.change _) fun _ => .bind (.orSystem (fun _ => hkind _) _) fun _ => ?_
  exact .bind (.say ..) fun _ => .pure _

theorem Toolchain.writeSource_ok {buildDir path : Path} {i : Identity} {source : String}
    {s s' : BuildState} (h : Ends (writeSource buildDir i source) s (.ok path) s') :
    path = buildDir.child i.sourceName := by
  obtain ⟨_, _, -, h⟩ := ends_bind_ok_iff.mp h
  obtain ⟨_, _, -, h⟩ := ends_bind_ok_iff.mp h
  obtain ⟨_, _, -, h⟩ := ends_bind_ok_iff.mp h
  simpa using (ends_pure_iff.mp h).1

theorem Toolchain.writeSource_quiet {kind : BuildError → Prop}
    (hkind : ∀ path e, kind (.sourceWrite path e)) (buildDir : Path) (i : Identity)
    (source : String) : Quiet kind (writeSource buildDir i source) := by
  refine .bind (.change _) fun _ => .bind (.orSystem (fun _ => hkind _ _) _) fun _ => ?_
  exact .bind (.say ..) fun _ => .pure _

namespace Pipeline

theorem prepare_quiet (layout : ProjectLayout) :
    Quiet BuildError.OfPreparation (prepare layout) := by
  refine .bind (Manifest.readIdentity_quiet _) fun i => ?_
  refine .bind (.look _) fun _ => .bind (.orRead (fun _ => trivial) _) fun sql => ?_
  refine .bind (Scan.declarations_quiet _) fun _ => .bind (Scan.wrapper_quiet _) fun _ => ?_
  refine .bind (Toolchain.writeMetadata_quiet (fun _ => trivial) ..) fun _ => ?_
  exact .bind (Toolchain.writeSource_quiet (fun _ _ => trivial) ..) fun _ => .pure _

/-- What is prepared is the extension that the manifest names, and its generated source is in the
    build directory. -/
theorem prepare_ok {layout : ProjectLayout} {prepared : Prepared} {s s' : BuildState}
    (h : Ends (prepare layout) s (.ok prepared) s') :
    (∃ s₁, Ends (Manifest.readIdentity layout.manifest) s (.ok prepared.identity) s₁) ∧
      prepared.source = layout.buildDir.child prepared.identity.sourceName := by
  obtain ⟨i, s₁, hidentity, h⟩ := ends_bind_ok_iff.mp h
  obtain ⟨_, _, -, h⟩ := ends_bind_ok_iff.mp h
  obtain ⟨_, _, -, h⟩ := ends_bind_ok_iff.mp h
  obtain ⟨_, _, -, h⟩ := ends_bind_ok_iff.mp h
  obtain ⟨_, _, -, h⟩ := ends_bind_ok_iff.mp h
  obtain ⟨_, _, -, h⟩ := ends_bind_ok_iff.mp h
  obtain ⟨source, _, hsource, h⟩ := ends_bind_ok_iff.mp h
  obtain ⟨hprepared, -⟩ := ends_pure_iff.mp h
  cases hprepared
  exact ⟨⟨s₁, hidentity⟩, Toolchain.writeSource_ok hsource⟩

end Pipeline

end NativeExtension

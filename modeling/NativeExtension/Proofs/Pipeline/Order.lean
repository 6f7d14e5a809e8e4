import NativeExtension.Proofs.Pipeline.Calls

namespace NativeExtension.Pipeline

open Build HostLayout

/-- The calls of a run that does not fail, in order. Without the directory of the headers, which the
    first call is answered with, no other call is known. -/
def schedule (layout : ProjectLayout) (executable : String) (tools : Toolchain.Tools)
    (limit : Option Seconds) (extra : Option String) (i : Identity) (headers : Option Path) :
    List Command.Call :=
  let source := layout.buildDir.child i.sourceName
  let object := layout.buildDir.child i.objectName
  let shared := layout.buildDir.child i.sharedLibraryName
  let archive := Command.archivePath layout.libraryDir i
  ⟨[executable, headersFlag], limit⟩ ::
    match headers with
    | none => []
    | some headers =>
      [⟨Command.compile tools.compiler source object i headers layout.libraryDir, tools.limit⟩,
        ⟨Command.link tools.compiler object shared archive extra, tools.limit⟩,
        ⟨[executable, modulesFlag], limit⟩, ⟨[executable, sharedFlag], limit⟩]

/-- The stages of a run come in order and the first failure ends it. The calls it makes are the
    first ones of the schedule, each but the last one with success, and how many there are follows
    from how the run ends. -/
theorem run_in_order (layout : ProjectLayout) (executable : String) (tools : Toolchain.Tools)
    (limit : Option Seconds) (extra : Option String) (s : BuildState) :
    ∃ r s' made, Ends (run layout (.queried executable tools.runner limit) tools extra) s r s' ∧
      s'.calls = s.calls ++ made ∧
      (made = [] ∨ ∃ i s₁, Ends (Manifest.readIdentity layout.manifest) s (.ok i) s₁ ∧
        Command.Follow
          (schedule layout executable tools limit extra i (made.head?.bind answered?)) made) ∧
      (∀ result, r = .ok result → made.length = 5) ∧
      ∀ e, r = .error (.build e) → e.FitsCalls executable made := by
  obtain ⟨r, s', h⟩ := exists_ends (run layout (.queried executable tools.runner limit) tools extra) s
  refine ⟨r, s', ?_⟩
  simp only [h, true_and]
  rw [run_eq_finish] at h
  obtain ⟨failure, hprepare, rfl⟩ | ⟨prepared, s₀, hprepare, h⟩ := ends_bind_iff.mp h
  · refine ⟨[], by simpa using (prepare_quiet layout).calls_eq hprepare, .inl rfl, by simp, ?_⟩
    rintro e ⟨⟩
    exact ((prepare_quiet layout).kind_of_error hprepare).fitsCalls executable
  have hcalls₀ := (prepare_quiet layout).calls_eq hprepare
  obtain ⟨⟨s₁, hidentity⟩, hsource⟩ := prepare_ok hprepare
  obtain ⟨failure, hheaders, rfl⟩ | ⟨headers, s₂, hheaders, h⟩ := ends_bind_iff.mp h
  · obtain ⟨a₁, hcalls₁, hcall₁, -, hquery⟩ := query_cases hheaders
    refine ⟨[a₁], by rw [hcalls₁, hcalls₀], .inr ⟨_, _, hidentity, .one hcall₁⟩, by simp, ?_⟩
    rintro e ⟨⟩
    exact (hquery e rfl).fitsCalls (by simp [hcall₁]) (by simp)
  obtain ⟨a₁, hcalls₁, hcall₁, hok₁, -⟩ := query_cases hheaders
  obtain ⟨hsucceeded₁, hreported⟩ := hok₁ headers rfl
  obtain ⟨made, hcalls, hfollow, hlength, hfits⟩ := finish_calls h a₁
  rw [hsource] at hfollow
  -- the headers that the rest of the schedule is known by are those that the first call reported
  have hschedule : schedule layout executable tools limit extra prepared.identity
        (((a₁ :: made).head?).bind answered?) =
      schedule layout executable tools limit extra prepared.identity (some headers) := by
    simp [hreported]
  refine ⟨a₁ :: made, by simp [hcalls, hcalls₁, hcalls₀], .inr ⟨_, _, hidentity, ?_⟩, ?_, hfits⟩
  · rw [hschedule]
    exact .cons hcall₁ hsucceeded₁ hfollow
  · exact fun result hresult => congrArg (· + 1) (hlength result hresult)

end NativeExtension.Pipeline

import Mathlib.Data.List.Basic
import NativeExtension.Proofs.Deployment.Outcome
import NativeExtension.Proofs.Pipeline.Preparation
import NativeExtension.Proofs.Pipeline.Stages

namespace NativeExtension

open Build HostLayout

/-- Calls that are the first ones of a plan, each but the last one answered with success. -/
structure Command.Follow (plan : List Call) (made : List Answered) : Prop where
  calls : made.map (·.call) <+: plan
  succeeded : ∀ a ∈ made.dropLast, a.succeeded = true

namespace Command.Follow

variable {plan : List Call} {c : Call} {made : List Answered} {a : Answered}

theorem one (hcall : a.call = c) : Follow (c :: plan) [a] :=
  ⟨by simp [hcall], by simp⟩

theorem cons (hcall : a.call = c) (hsucceeded : a.succeeded = true) (h : Follow plan made) :
    Follow (c :: plan) (a :: made) := by
  refine ⟨by simpa [hcall] using h.calls, ?_⟩
  cases made with
  | nil => simp
  | cons b rest => simpa [hsucceeded] using h.succeeded

end Command.Follow

/-- Whether an error is one that a run can end with once it has made the given calls. An error of
    finding a directory comes with a last call that asked for that directory. -/
def BuildError.FitsCalls (executable : String) (made : List Command.Answered) : BuildError → Prop
  | .manifest _ | .scan _ | .project _ | .metadata _ | .sourceWrite .. => made.length = 0
  | .tool .compile .. | .noObject .. => made.length = 2
  | .tool .link .. => made.length = 3
  | .deploy .. => made.length = 5
  | e => ∃ flag, e.OfQuery [executable, flag] flag ∧
      made.getLast?.map (·.call.args) = some [executable, flag] ∧
      (made.length, flag) ∈ [(1, headersFlag), (4, modulesFlag), (5, sharedFlag)]

theorem BuildError.OfPreparation.fitsCalls {e : BuildError} (h : e.OfPreparation)
    (executable : String) : e.FitsCalls executable [] := by
  cases e <;> first | rfl | cases h

theorem BuildError.OfCompiling.fitsCalls {e : BuildError} {made : List Command.Answered}
    (h : e.OfCompiling) (hlength : made.length = 2) (executable : String) :
    e.FitsCalls executable made := by
  cases e with
  | tool stage =>
    cases stage with
    | compile => exact hlength
    | _ => cases h
  | noObject => exact hlength
  | _ => cases h

theorem BuildError.OfQuery.fitsCalls {e : BuildError} {executable flag : String}
    {made : List Command.Answered} (h : e.OfQuery [executable, flag] flag)
    (hlast : made.getLast?.map (·.call.args) = some [executable, flag])
    (hlength : (made.length, flag) ∈ [(1, headersFlag), (4, modulesFlag), (5, sharedFlag)]) :
    e.FitsCalls executable made := by
  cases e with
  | tool stage =>
    cases stage with
    | hostConfig => exact ⟨flag, h, hlast, hlength⟩
    | _ => cases h
  | hostAnswer => exact ⟨flag, h, hlast, hlength⟩
  | _ => cases h

/-- Whether an error is one that a deployment can end with once it has made the given calls. -/
def BuildError.OfDeployment (executable : String) (made : List Command.Answered)
    (e : BuildError) : Prop :=
  (made.length = 1 ∧ e.OfQuery [executable, modulesFlag] modulesFlag) ∨
    (made.length = 2 ∧ e.OfQuery [executable, sharedFlag] sharedFlag) ∨
    made.length = 2 ∧ ∃ artifact source destination cause,
      e = .deploy artifact source destination cause

/-- Three calls come before those of a deployment. -/
theorem BuildError.OfDeployment.fitsCalls {e : BuildError} {executable : String}
    {limit : Option Seconds} {made : List Command.Answered} (h : e.OfDeployment executable made)
    (hmade : Command.Follow
      [⟨[executable, modulesFlag], limit⟩, ⟨[executable, sharedFlag], limit⟩] made)
    (a₁ a₂ a₃ : Command.Answered) : e.FitsCalls executable (a₁ :: a₂ :: a₃ :: made) := by
  obtain ⟨hlength, hquery⟩ | ⟨hlength, hquery⟩ | ⟨hlength, _, _, _, _, rfl⟩ := h
  · obtain ⟨a₄, rfl⟩ := List.length_eq_one_iff.mp hlength
    have hcall₄ : a₄.call = ⟨[executable, modulesFlag], limit⟩ := by simpa using hmade.calls
    exact hquery.fitsCalls (by simp [hcall₄]) (by simp)
  · obtain ⟨a₄, a₅, rfl⟩ := List.length_eq_two.mp hlength
    have hcall₅ : a₅.call = ⟨[executable, sharedFlag], limit⟩ := by
      simpa using congrArg List.getLast? (hmade.calls.eq_of_length rfl)
    exact hquery.fitsCalls (by simp [hcall₅]) (by simp)
  · exact congrArg (· + 3) hlength

namespace Build

variable {α : Type} {plan : List Command.Call} {c : Command.Call} {a : Command.Answered}
  {Fits Fits' : List Command.Answered → BuildError → Prop} {s s₁ s' : BuildState}
  {r : Except Failure α}

/-- How an action ends that makes the calls of a plan in order: all of them where it succeeds, and
    the first ones where it fails. An error fits the calls that were made. -/
def GoesBy (plan : List Command.Call) (Fits : List Command.Answered → BuildError → Prop)
    (s : BuildState) (r : Except Failure α) (s' : BuildState) : Prop :=
  ∃ made, s'.calls = s.calls ++ made ∧ Command.Follow plan made ∧
    (∀ result, r = .ok result → made.length = plan.length) ∧
    ∀ e, r = .error (.build e) → Fits made e

namespace GoesBy

/-- The plan is done, and no call is left. -/
theorem done (hcalls : s'.calls = s.calls) (hfits : ∀ e, r = .error (.build e) → Fits [] e) :
    GoesBy [] Fits s r s' :=
  ⟨[], by simpa using hcalls, ⟨by simp, by simp⟩, by simp, hfits⟩

/-- The next call is the last one, and the action fails with it. -/
theorem fails {failure : Failure} (hcalls : s'.calls = s.calls ++ [a]) (hcall : a.call = c)
    (hfits : ∀ e, failure = .build e → Fits [a] e) :
    GoesBy (c :: plan) Fits s (.error failure : Except Failure α) s' :=
  ⟨[a], hcalls, .one hcall, by simp, by simpa using hfits⟩

/-- The next call succeeds, and the action goes on by the rest of the plan. -/
theorem cons (hcalls : s₁.calls = s.calls ++ [a]) (hcall : a.call = c)
    (hsucceeded : a.succeeded = true) (h : GoesBy plan (fun made => Fits (a :: made)) s₁ r s') :
    GoesBy (c :: plan) Fits s r s' := by
  obtain ⟨made, hmade, hfollow, hlength, hfits⟩ := h
  refine ⟨a :: made, by simp [hmade, hcalls], .cons hcall hsucceeded hfollow, ?_, hfits⟩
  exact fun result hresult => congrArg (· + 1) (hlength result hresult)

theorem imp (h : GoesBy plan Fits s r s')
    (hfits : ∀ made e, Command.Follow plan made → Fits made e → Fits' made e) :
    GoesBy plan Fits' s r s' := by
  obtain ⟨made, hmade, hfollow, hlength, herror⟩ := h
  exact ⟨made, hmade, hfollow, hlength, fun e he => hfits made e hfollow (herror e he)⟩

/-- A step after the plan that makes no call fails or succeeds as the plan did. -/
theorem congr {β : Type} {r' : Except Failure β} (h : GoesBy plan Fits s r s₁)
    (hcalls : s'.calls = s₁.calls) (hok : ∀ b, r' = .ok b → ∃ b, r = .ok b)
    (herror : ∀ e, r' = .error e → r = .error e) : GoesBy plan Fits s r' s' := by
  obtain ⟨made, hmade, hfollow, hlength, hfits⟩ := h
  refine ⟨made, hcalls.trans hmade, hfollow, fun b hb => ?_, fun e he => hfits e (herror _ he)⟩
  obtain ⟨result, hresult⟩ := hok b hb
  exact hlength result hresult

end GoesBy

end Build

variable {executable : String} {runner : Command.Runner} {limit : Option Seconds}
  {s s' : BuildState}

/-- A deployment asks for the modules and, where that succeeds, for the shared data. The files are
    installed without a call. -/
theorem Deployment.deploy_calls {artifacts : BuildArtifacts} {i : Identity}
    {r : Except Failure (List DeployedFile)}
    (h : Ends (deploy artifacts i (.queried executable runner limit)) s r s') :
    GoesBy [⟨[executable, modulesFlag], limit⟩, ⟨[executable, sharedFlag], limit⟩]
      (BuildError.OfDeployment executable) s r s' := by
  obtain ⟨failure, hmodules, rfl⟩ | ⟨modules, s₁, hmodules, h⟩ := ends_bind_iff.mp h
  · obtain ⟨a, hcalls, hcall, -, hquery⟩ := query_cases hmodules
    refine .fails hcalls hcall ?_
    rintro e rfl
    exact .inl ⟨rfl, hquery e rfl⟩
  obtain ⟨a, hcalls, hcall, hok, -⟩ := query_cases hmodules
  refine .cons hcalls hcall (hok modules rfl).1 ?_
  obtain ⟨failure, hshared, rfl⟩ | ⟨shared, s₂, hshared, h⟩ := ends_bind_iff.mp h
  · obtain ⟨b, hcalls, hcall, -, hquery⟩ := query_cases hshared
    refine .fails hcalls hcall ?_
    rintro e rfl
    exact .inr (.inl ⟨rfl, hquery e rfl⟩)
  obtain ⟨b, hcalls, hcall, hok, -⟩ := query_cases hshared
  refine .cons hcalls hcall (hok shared rfl).1 ?_
  obtain ⟨hcalls, hinstalled⟩ := installAll_cases h
  refine .done hcalls ?_
  rintro e rfl
  obtain ⟨⟨⟩, -⟩ | ⟨_, f, _, fault, -, hfault, -⟩ := hinstalled
  cases fault with
  | system cause =>
    cases hfault
    exact .inr (.inr ⟨rfl, _, _, _, cause, rfl⟩)
  | _ => cases hfault

namespace Pipeline

/-- What is left of a run once the directory of the headers is known. -/
def finish (layout : ProjectLayout) (host : HostLayout) (tools : Toolchain.Tools)
    (extra : Option String) (prepared : Prepared) (headers : Path) : Build PipelineResult := do
  let { identity, declarations, script, control, source } := prepared
  let object ←
    Toolchain.compileObject tools layout.buildDir source identity headers layout.libraryDir
  let sharedLibrary ←
    Toolchain.linkSharedLibrary tools layout.buildDir object identity layout.libraryDir extra
  let artifacts : BuildArtifacts := { source, object, sharedLibrary, script, control }
  let deployed ← Deployment.deploy artifacts identity host
  Build.say .info ("Extension " ++ identity.name ++ " " ++ identity.version ++ " installed")
  pure { identity, declarations, artifacts, deployed }

theorem run_eq_finish (layout : ProjectLayout) (host : HostLayout) (tools : Toolchain.Tools)
    (extra : Option String) :
    run layout host tools extra = (do
      let prepared ← prepare layout
      let headers ← host.headers
      finish layout host tools extra prepared headers) := rfl

/-- What is left of a run compiles, links, and asks for the two directories that it installs
    into. One call came before. -/
theorem finish_calls {layout : ProjectLayout} {tools : Toolchain.Tools} {extra : Option String}
    {prepared : Prepared} {headers : Path} {r : Except Failure PipelineResult}
    (h : Ends (finish layout (.queried executable runner limit) tools extra prepared headers)
      s r s') (a₁ : Command.Answered) :
    GoesBy
      [⟨Command.compile tools.compiler prepared.source
          (layout.buildDir.child prepared.identity.objectName) prepared.identity headers
          layout.libraryDir, tools.limit⟩,
        ⟨Command.link tools.compiler (layout.buildDir.child prepared.identity.objectName)
          (layout.buildDir.child prepared.identity.sharedLibraryName)
          (Command.archivePath layout.libraryDir prepared.identity) extra, tools.limit⟩,
        ⟨[executable, modulesFlag], limit⟩, ⟨[executable, sharedFlag], limit⟩]
      (fun made => BuildError.FitsCalls executable (a₁ :: made)) s r s' := by
  obtain ⟨failure, hcompile, rfl⟩ | ⟨object, s₁, hcompile, h⟩ := ends_bind_iff.mp h
  · obtain ⟨a₂, hcalls, hcall, -, herror⟩ := Toolchain.compileObject_cases hcompile
    refine .fails hcalls hcall ?_
    rintro e rfl
    exact (herror e rfl).fitsCalls rfl executable
  obtain ⟨a₂, hcalls, hcall, hok, -⟩ := Toolchain.compileObject_cases hcompile
  obtain ⟨hsucceeded, rfl, hfile⟩ := hok object rfl
  refine .cons hcalls hcall hsucceeded ?_
  obtain ⟨failure, hlink, rfl⟩ | ⟨sharedLibrary, s₂, hlink, h⟩ := ends_bind_iff.mp h
  · obtain ⟨a₃, hcalls, hcall, -, herror⟩ := Toolchain.linkSharedLibrary_cases hlink hfile
    refine .fails hcalls hcall ?_
    rintro e rfl
    obtain ⟨command, cause, rfl⟩ := herror e rfl
    rfl
  obtain ⟨a₃, hcalls, hcall, hok, -⟩ := Toolchain.linkSharedLibrary_cases hlink hfile
  refine .cons hcalls hcall (hok sharedLibrary rfl) ?_
  refine GoesBy.imp ?_ fun made e hmade he => BuildError.OfDeployment.fitsCalls he hmade a₁ a₂ a₃
  obtain ⟨failure, hdeploy, rfl⟩ | ⟨deployed, s₃, hdeploy, h⟩ := ends_bind_iff.mp h
  · exact (Deployment.deploy_calls hdeploy).congr rfl (by simp) (by simp)
  · simp only [ends_bind_iff, ends_say_iff, ends_pure_iff] at h
    obtain ⟨_, ⟨⟨⟩, _⟩, _⟩ | ⟨_, _, ⟨_, rfl⟩, rfl, rfl⟩ := h
    exact (Deployment.deploy_calls hdeploy).congr rfl (by simp) (by simp)

end Pipeline

end NativeExtension

import Mathlib.Algebra.Order.Field.Rat
import Mathlib.Algebra.Order.Field.Power
import NativeExtension.Proofs.Build.Records
import NativeExtension.Proofs.CommandLine.Diagnostics
import NativeExtension.Proofs.Pipeline.Preparation

namespace NativeExtension

open Build

namespace Binary64

/-- A number above zero. Infinity is one, what is no number is not. -/
def IsPositive : Binary64 → Prop
  | .finite negative significand exponent =>
    0 < (if negative then -1 else 1) * (significand : ℚ) * 2 ^ exponent
  | .infinite negative => negative = false
  | .notANumber => False

/-- Looking for numbers that are zero or below leaves one that is not above zero either. -/
theorem isPositive_iff {x : Binary64} :
    x.IsPositive ↔ x.isNonPositive = false ∧ x ≠ .notANumber := by
  cases x with
  | finite negative significand exponent =>
    have hpower : (0 : ℚ) < 2 ^ exponent := zpow_pos (by norm_num) exponent
    cases negative with
    | true =>
      have hle : (if true then -1 else 1) * (significand : ℚ) ≤ 0 := by simp
      simpa [IsPositive, isNonPositive] using
        mul_nonpos_of_nonpos_of_nonneg hle hpower.le
    | false => simp [IsPositive, isNonPositive, hpower, Nat.pos_iff_ne_zero]
  | infinite negative => simp [IsPositive, isNonPositive]
  | notANumber => simp [IsPositive]

instance (x : Binary64) : Decidable x.IsPositive := decidable_of_iff _ isPositive_iff.symm

end Binary64

/-- A span of time above zero. -/
def Seconds.IsPositive : Seconds → Prop
  | .whole n => 0 < n
  | .real x => x.IsPositive

section Records

/-- A call that is made with a limit. -/
def LimitedTo (limit : Option Seconds) (c : Command.Call) : Prop := c.limit = limit

variable {runner : Command.Runner} {limit : Option Seconds}

theorem HostLayout.query_records (executable flag : String) :
    Records (LimitedTo limit) (query executable runner limit flag) := by
  refine .bind (.runTool _ rfl) fun outcome => ?_
  split
  · exact .silent (.failWith trivial)
  · exact .bind (.silent (.say ..)) fun _ => .silent (.pure _)

theorem Toolchain.compileObject_records (compiler : String) (buildDir source : Path) (i : Identity)
    (includeDir libraryDir : Path) : Records (LimitedTo limit)
      (compileObject ⟨runner, compiler, limit⟩ buildDir source i includeDir libraryDir) :=
  .bind (.runTool _ rfl) fun _ => .need (.silent (.pure _))

theorem Toolchain.linkSharedLibrary_records (compiler : String) (buildDir object : Path)
    (i : Identity) (libraryDir : Path) (extra : Option String) : Records (LimitedTo limit)
      (linkSharedLibrary ⟨runner, compiler, limit⟩ buildDir object i libraryDir extra) :=
  .need (.bind (.runTool _ rfl) fun _ => .silent (.pure _))

theorem Deployment.deploy_records (artifacts : BuildArtifacts) (i : Identity) (executable : String) :
    Records (LimitedTo limit) (deploy artifacts i (.queried executable runner limit)) :=
  .bind (HostLayout.query_records ..) fun _ => .bind (HostLayout.query_records ..) fun _ =>
    ⟨fun h => .of_calls_eq (installAll_cases h).1⟩

theorem Pipeline.run_records (layout : ProjectLayout) (executable compiler : String)
    (extra : Option String) : Records (LimitedTo limit)
      (run layout (.queried executable runner limit) ⟨runner, compiler, limit⟩ extra) := by
  refine .bind (.of_quiet (prepare_quiet layout)) fun _ => ?_
  refine .bind (HostLayout.query_records ..) fun _ => ?_
  refine .bind (Toolchain.compileObject_records ..) fun _ => ?_
  refine .bind (Toolchain.linkSharedLibrary_records ..) fun _ => ?_
  refine .bind (Deployment.deploy_records ..) fun _ => ?_
  exact .bind (.silent (.say ..)) fun _ => .silent (.pure _)

theorem Project.findScript_records (project : Path) :
    Records (LimitedTo limit) (findScript project) := by
  refine .need (.bind (.silent (.look _)) fun _ => ?_)
  refine .bind (.silent (.orSystem (fun _ => trivial) _)) fun _ => ?_
  split
  · exact .silent (.pure _)
  · exact .silent (.failWith trivial)

theorem Project.locate_records (project : Path) (profile : String) :
    Records (LimitedTo limit) (locate project profile) := by
  refine .need (.bind (.silent (.look _)) fun _ => .bind (.silent (.orFault _)) fun _ => ?_)
  exact .bind (findScript_records _) fun _ => .silent (.pure _)

end Records

namespace CommandLine

theorem buildWith_records (runner : Command.Runner) (o : Options) (s : Settings) :
    Records (LimitedTo (effectiveLimit o s)) (buildWith runner o s) :=
  .bind (Project.locate_records ..) fun _ => Pipeline.run_records ..

theorem parseLimit_eq_some_iff {raw : Option String} {x : Binary64} :
    Settings.parseLimit raw = .ok (some x) ↔ ∃ text ∈ raw, Text.stripped text ≠ "" ∧
      Binary64.ofText? text = some x ∧ x.isNonPositive = false := by
  cases raw with
  | none => simp [Settings.parseLimit]
  | some text =>
    by_cases hblank : Text.stripped text = ""
    · simp [Settings.parseLimit, hblank]
    cases hread : Binary64.ofText? text with
    | none => simp [Settings.parseLimit, hblank, hread]
    | some y =>
      cases hsign : y.isNonPositive with
      | true =>
        have hne (hxy : y = x) : x.isNonPositive ≠ false := by simp [← hxy, hsign]
        simpa [Settings.parseLimit, hblank, hread, hsign] using hne
      | false =>
        have hsame : y = x ↔ y = x ∧ x.isNonPositive = false :=
          ⟨fun hxy => ⟨hxy, hxy ▸ hsign⟩, And.left⟩
        simpa [Settings.parseLimit, hblank, hread, hsign] using hsame

theorem parseLimit_of_ofEnvironment {env : Environment} {settings : Settings}
    (h : Settings.ofEnvironment env = .ok settings) :
    Settings.parseLimit env.limit = .ok settings.limit := by
  obtain ⟨limit, hlimit, hsettings⟩ := bind_eq_ok_iff.mp h
  cases hsettings
  exact hlimit

/-- Whether the limit that counts leaves commands time. One that is given as an option has to be above
    zero; one that is set, and was not refused, only has to be a number. -/
def LeavesTime (o : Options) (env : Environment) : Prop :=
  match o.limit with
  | some x => x.IsPositive
  | none => ∀ text ∈ env.limit, Text.stripped text ≠ "" →
      Binary64.ofText? text ≠ some .notANumber

theorem effectiveLimit_positive_iff {o : Options} {env : Environment} {settings : Settings}
    (h : Settings.ofEnvironment env = .ok settings) :
    (∀ t ∈ effectiveLimit o settings, t.IsPositive) ↔ LeavesTime o env := by
  have hset {x : Binary64} : settings.limit = some x ↔ ∃ text ∈ env.limit,
      Text.stripped text ≠ "" ∧ Binary64.ofText? text = some x ∧ x.isNonPositive = false := by
    rw [← parseLimit_eq_some_iff, parseLimit_of_ofEnvironment h]
    simp
  unfold LeavesTime effectiveLimit
  cases o.limit with
  | some x => simp [Seconds.IsPositive]
  | none =>
    constructor
    · intro hpositive text htext hfilled hnan
      have hlimit := hset.mpr ⟨text, htext, hfilled, hnan, rfl⟩
      have hnot := hpositive (.real .notANumber) (by simp [hlimit])
      exact hnot
    · -- a limit that was set and not refused is above zero or no number
      rintro hnumber t ht
      obtain ⟨x, hlimit, rfl⟩ : ∃ x, settings.limit = some x ∧ .real x = t := by simpa using ht
      obtain ⟨text, htext, hfilled, hread, hsign⟩ := hset.mp hlimit
      refine Binary64.isPositive_iff.mpr ⟨hsign, ?_⟩
      rintro rfl
      exact hnumber text htext hfilled hread

/-- A call that a command line makes: with the limit that its arguments and the environment give. -/
def LimitedBy (env : Environment) (args : List String) (c : Command.Call) : Prop :=
  ∃ options settings, parse args = .ok (.install options) ∧
    Settings.ofEnvironment env = .ok settings ∧ c.limit = effectiveLimit options settings

theorem install_records (ps : Display.Pictographs) (runner : Command.Runner) (env : Environment)
    {args : List String} {options : Options} (hargs : parse args = .ok (.install options)) :
    Records (LimitedBy env args) (install ps runner env options) := by
  unfold install
  cases hsettings : Settings.ofEnvironment env with
  | error e => exact .silent (.pure _)
  | ok settings =>
    have hbuild : Records (LimitedBy env args) (buildWith runner options settings) :=
      (buildWith_records runner options settings).mono fun c hlimit =>
        ⟨options, settings, hargs, hsettings, hlimit⟩
    refine .tryCatch (.bind hbuild fun _ => .silent (.pure _)) fun failure => ?_
    cases failure with
    | build e => exact .silent (.pure _)
    | fault fault => exact .silent (.faultWith fault)

theorem runWith_records (ps : Display.Pictographs) (runner : Command.Runner) (env : Environment)
    (args : List String) : Records (LimitedBy env args) (runWith ps runner env args) := by
  unfold runWith
  split
  next => exact .silent (.faultWith _)
  next => exact .silent (.pure _)
  next => exact .silent (.pure _)
  next options _ hargs => exact install_records ps runner env hargs

/-- A command line hands every command one limit: that of its option, or else that of the
    environment. There is none, or it is above zero, exactly where it leaves time; the option is
    never looked at for that. -/
theorem runWith_limits (ps : Display.Pictographs) (runner : Command.Runner) (env : Environment)
    (args : List String) (s : BuildState) :
    ∃ r s' made, Ends (runWith ps runner env args) s r s' ∧ s'.calls = s.calls ++ made ∧
      ∀ a ∈ made, ∃ options settings, parse args = .ok (.install options) ∧
        Settings.ofEnvironment env = .ok settings ∧
        a.call.limit = effectiveLimit options settings ∧
        ((∀ t ∈ a.call.limit, t.IsPositive) ↔ LeavesTime options env) := by
  obtain ⟨r, s', hends⟩ := exists_ends (runWith ps runner env args) s
  obtain ⟨made, hcalls, hlimits⟩ := (runWith_records ps runner env args).adds hends
  refine ⟨r, s', made, hends, hcalls, fun a ha => ?_⟩
  obtain ⟨options, settings, hargs, hsettings, hlimit⟩ := hlimits a ha
  refine ⟨options, settings, hargs, hsettings, hlimit, ?_⟩
  rw [hlimit]
  exact effectiveLimit_positive_iff hsettings

/-- A run that hands a limit to a command. -/
def HandsOver (m : Build Printed) (s : BuildState) (limit : Seconds) : Prop :=
  ∃ r s' made, Ends m s r s' ∧ s'.calls = s.calls ++ made ∧ ∃ a ∈ made, a.call.limit = some limit

theorem handsOver_of_mem {m : Build Printed} {s : BuildState} {limit : Seconds}
    (hs : s.calls = []) (h : some limit ∈ (Id.run (m.run.run s)).2.calls.map (·.call.limit)) :
    HandsOver m s limit := by
  obtain ⟨a, ha, hlimit⟩ := List.mem_map.mp h
  have hcalls := congrArg (· ++ (Id.run (m.run.run s)).2.calls) hs
  exact ⟨_, _, _, rfl, hcalls.symm, a, ha, hlimit⟩

/-- Commands are handed no time at all where the option says so, and what is no number where that is
    set. Neither is above zero. -/
theorem runWith_hands_over_unchecked :
    let run (args : List String) (text : Option String) : Build Printed :=
      runWith .numbers (complaining "") ⟨none, none, none, text⟩ args
    HandsOver (run ["/p", "--timeout", "0"] none) (Pipeline.sampleState "")
        (.real (.zero false)) ∧
      HandsOver (run ["/p"] (some "nan")) (Pipeline.sampleState "") (.real .notANumber) ∧
      ¬ (Seconds.real (.zero false)).IsPositive ∧ ¬ (Seconds.real .notANumber).IsPositive := by
  refine ⟨handsOver_of_mem rfl (by decide +kernel), handsOver_of_mem rfl (by decide +kernel), ?_, id⟩
  simp [Seconds.IsPositive, Binary64.isPositive_iff, Binary64.zero, Binary64.isNonPositive]

end CommandLine

end NativeExtension

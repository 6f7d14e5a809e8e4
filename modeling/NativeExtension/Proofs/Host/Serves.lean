import NativeExtension.Proofs.Build.Preserves
import NativeExtension.Proofs.Command.Tidy
import NativeExtension.Proofs.Pipeline.Stages

namespace NativeExtension.HostLayout

open Build FileTree

/-- A way to ask for a directory that changes no file, fails for want of an answer only, and gives
    no directory but the ones allowed. -/
structure Question (allowed : Path → Prop) (m : Build Path) : Prop where
  files : ∀ {s s' r}, Ends m s r s' → WritesOnly [] s.files s'.files
  stage : ∀ {s s' e}, Ends m s (.error (.build e)) s' → e.stage = "host-config"
  answer : ∀ {s s' p}, Ends m s (.ok p) s' → allowed p

/-- A host with the given directories for modules and for shared data. -/
structure Serves (host : HostLayout) (modules shared : Path) : Prop where
  headers : Question (fun _ => True) host.headers
  modules : Question (· = modules) host.modules
  shared : Question (· = shared) host.shared

theorem Question.preserves {allowed : Path → Prop} {m : Build Path} (h : Question allowed m)
    {paths : List Path} {t : FileTree} : Preserves (WritesOnly paths t) m :=
  ⟨fun hends hP => hP.trans ((h.files hends).mono (List.nil_subset _))⟩

theorem Question.of_pure {allowed : Path → Prop} {p : Path} (h : allowed p) :
    Question allowed (pure p) := by
  refine ⟨?_, ?_, ?_⟩
  · intro s s' r hends
    obtain ⟨-, rfl⟩ := ends_pure_iff.mp hends
    exact .refl [] _
  · intro s s' e hends
    simp at hends
  · intro s s' q hends
    obtain ⟨⟨⟩, -⟩ := ends_pure_iff.mp hends
    exact h

theorem fixed_serves (d : ServerDirectories) : (fixed d).Serves d.modules d.shared :=
  ⟨.of_pure trivial, .of_pure rfl, .of_pure rfl⟩

theorem stage_of_ofQuery {e : BuildError} {command : List String} {flag : String}
    (h : e.OfQuery command flag) : e.stage = "host-config" := by
  cases e with
  | tool stage =>
    cases stage with
    | hostConfig => rfl
    | _ => cases h
  | hostAnswer => rfl
  | _ => cases h

section Query

variable {executable flag : String} {runner : Command.Runner} {limit : Option Seconds}

/-- What the runner makes known about a flag is one of the directories allowed. -/
def Answers (runner : Command.Runner) (executable flag : String) (limit : Option Seconds)
    (allowed : Path → Prop) : Prop :=
  ∀ earlier t outcome p, (runner earlier ⟨[executable, flag], limit⟩ t).1 = .ok outcome →
    directory? outcome.stdout = some p → allowed p

/-- Asking an executable changes no file where the runner changes none but those that commands are
    to make. -/
theorem query_question {allowed : Path → Prop} (htidy : runner.Tidy)
    (hanswers : Answers runner executable flag limit allowed) :
    Question allowed (query executable runner limit flag) := by
  have hpreserves (t : FileTree) :
      Preserves (WritesOnly [] t) (query executable runner limit flag) := by
    refine .bind (.runTool _ fun earlier u hu => ?_) fun outcome => ?_
    · exact hu.trans (htidy.writes_nothing rfl)
    split
    · exact .failWith _
    · exact .bind (.say ..) fun _ => .pure _
  refine ⟨fun h => (hpreserves _).files h (.refl [] _), fun h => ?_, fun h => ?_⟩
  · obtain ⟨_, -, -, -, herror⟩ := query_cases h
    exact stage_of_ofQuery (herror _ rfl)
  · obtain ⟨outcome, s₁, htool, h⟩ := ends_bind_ok_iff.mp h
    split at h
    next => simp at h
    next p hp =>
      obtain ⟨_, _, -, h⟩ := ends_bind_ok_iff.mp h
      obtain ⟨⟨⟩, -⟩ := ends_pure_iff.mp h
      exact hanswers _ _ _ _ (runTool_answer htool) hp

theorem queried_serves {modules shared : Path} (htidy : runner.Tidy)
    (hmodules : Answers runner executable modulesFlag limit (· = modules))
    (hshared : Answers runner executable sharedFlag limit (· = shared)) :
    (queried executable runner limit).Serves modules shared :=
  ⟨query_question htidy fun _ _ _ _ _ _ => trivial, query_question htidy hmodules,
    query_question htidy hshared⟩

end Query

end NativeExtension.HostLayout

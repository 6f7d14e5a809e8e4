import NativeExtension.Proofs.Build.Tool
import NativeExtension.HostLayout
import NativeExtension.Proofs.Text.Filled

namespace NativeExtension.HostLayout

open Build Text

/-- Output that tells one directory: without the white space around it, it is not empty and on one
    line. -/
structure OneLine (stdout : String) : Prop where
  nonempty : stripped stdout ≠ ""
  unbroken : Unbroken (stripped stdout).toList

theorem oneLine_iff {stdout : String} :
    OneLine stdout ↔ trim stdout.toList ≠ [] ∧ Unbroken (trim stdout.toList) := by
  have hchars : (stripped stdout).toList = trim stdout.toList := String.toList_ofList
  have hempty : stripped stdout = "" ↔ trim stdout.toList = [] := by
    rw [← hchars, String.toList_eq_nil_iff]
  refine ⟨fun h => ⟨mt hempty.mpr h.nonempty, hchars ▸ h.unbroken⟩, fun h => ⟨mt hempty.mp h.1, ?_⟩⟩
  rw [hchars]
  exact h.2

theorem filledLines_eq (text : String) :
    filledLines text = (filled text.toList).map String.ofList := by
  have hline (line : List Char) : (if trim line = [] then none else some (String.ofList (trim line))) =
      (content? line).map String.ofList := by
    by_cases hempty : trim line = [] <;> simp [content?, hempty]
  rw [filledLines, filled, List.filterMap_map, List.map_filterMap]
  exact congrArg (List.filterMap · _) (funext hline)

/-- Looking at the output line by line finds a directory exactly where the whole output, with the
    white space around it taken away at once, is one line; and that line names it. -/
theorem directory?_eq_some_iff {stdout : String} {directory : Path} :
    directory? stdout = some directory ↔
      OneLine stdout ∧ directory = .ofString (stripped stdout) := by
  have hsingle (line : String) :
      filledLines stdout = [line] ↔ OneLine stdout ∧ line = stripped stdout := by
    rw [filledLines_eq, List.map_eq_singleton_iff, oneLine_iff]
    constructor
    · rintro ⟨chars, hchars, rfl⟩
      obtain ⟨hne, hunbroken, rfl⟩ := filled_eq_singleton_iff.mp hchars
      exact ⟨⟨hne, hunbroken⟩, rfl⟩
    · rintro ⟨⟨hne, hunbroken⟩, rfl⟩
      exact ⟨_, filled_eq_singleton_iff.mpr ⟨hne, hunbroken, rfl⟩, rfl⟩
  unfold directory?
  split
  next line hline =>
    obtain ⟨hone, rfl⟩ := (hsingle line).mp hline
    simp [hone, eq_comm]
  next hnot =>
    refine iff_of_false (by simp) ?_
    rintro ⟨hone, -⟩
    exact hnot _ ((hsingle _).mpr ⟨hone, rfl⟩)

section Answer

variable {executable flag : String} {runner : Command.Runner} {limit : Option Seconds}
  {s : BuildState} {outcome : Command.Outcome} {files : FileTree}
  (hanswer : runner (s.calls.map (·.call)) ⟨[executable, flag], limit⟩ s.files =
    (.ok outcome, files)) (hstatus : outcome.status = 0)

include hanswer hstatus

theorem exists_ends_question : ∃ s₁,
    Ends (runTool runner [executable, flag] .hostConfig limit) s (.ok outcome) s₁ := by
  have hok : outcome.ok = true := by simp [Command.Outcome.ok, hstatus]
  obtain ⟨s₁, htool, -⟩ := runTool_ends hanswer hok
  exact ⟨s₁, htool⟩

theorem query_ends_of_some {directory : Path} (h : directory? outcome.stdout = some directory) :
    ∃ s', Ends (query executable runner limit flag) s (.ok directory) s' := by
  obtain ⟨s₁, htool⟩ := exists_ends_question hanswer hstatus
  refine ⟨{ s₁ with messages := s₁.messages ++
    [⟨.info, "Found Postgres directory: " ++ flag ++ " = " ++ directory.toString⟩] }, ?_⟩
  refine ends_bind_ok_iff.mpr ⟨outcome, s₁, htool, ?_⟩
  rw [h]
  exact ends_say_pure

theorem query_ends_of_none (h : directory? outcome.stdout = none) :
    ∃ s', Ends (query executable runner limit flag) s
      (.error (.build (.hostAnswer [executable, flag] flag outcome.stdout outcome.stderr))) s' := by
  obtain ⟨s₁, htool⟩ := exists_ends_question hanswer hstatus
  refine ⟨s₁, ends_bind_iff.mpr (.inr ⟨outcome, s₁, htool, ?_⟩)⟩
  rw [h]
  exact ends_failWith_iff.mpr ⟨rfl, rfl⟩

/-- A command that is asked for a directory and exits with status zero is taken at its word exactly
    where its output, trimmed as a whole, is one line. Any other output is an error that names what
    was asked for. -/
theorem query_decides :
    ∃ r s', Ends (query executable runner limit flag) s r s' ∧
      (OneLine outcome.stdout → r = .ok (.ofString (stripped outcome.stdout))) ∧
      (¬ OneLine outcome.stdout → ∃ e, r = .error (.build e) ∧
        e = .hostAnswer [executable, flag] flag outcome.stdout outcome.stderr ∧
        e.stage = ToolStage.hostConfig.label ∧
        e.message = "Could not determine PostgreSQL " ++ flag ++ ": unexpected output " ++
          quoted outcome.stdout) := by
  by_cases hone : OneLine outcome.stdout
  · have hsome := directory?_eq_some_iff.mpr ⟨hone, rfl⟩
    obtain ⟨s', hquery⟩ := query_ends_of_some hanswer hstatus hsome
    exact ⟨_, s', hquery, fun _ => rfl, fun hnot => absurd hone hnot⟩
  · have hnone : directory? outcome.stdout = none :=
      Option.eq_none_iff_forall_ne_some.mpr fun _ hsome =>
        hone (directory?_eq_some_iff.mp hsome).1
    obtain ⟨s', hquery⟩ := query_ends_of_none hanswer hstatus hnone
    exact ⟨_, s', hquery, fun h => absurd h hone, fun _ => ⟨_, rfl, rfl, rfl, rfl⟩⟩

end Answer

/-- A runner that prints the same for every command. -/
def printing (stdout : String) : Command.Runner := fun _ c t => (.ok ⟨c.args, 0, stdout, ""⟩, t)

/-- Separators and line ends around a directory are taken off, and the blank in it stays. -/
theorem query_decides_separators :
    let stdout := "\r\n \x1c\u2028/usr/share dir\x0b\x0c\u00a0\n\n"
    let s : BuildState := ⟨{ entries := [], current := [] }, [], []⟩
    OneLine stdout ∧ ∃ s', Ends (query "pg_config" (printing stdout) none sharedFlag) s
      (.ok (.ofString "/usr/share dir")) s' := by
  intro stdout s
  have hstripped : stripped stdout = "/usr/share dir" := by decide +kernel
  have hone : OneLine stdout := by
    constructor <;> rw [hstripped] <;> decide
  have hdecides : ∃ r s', Ends (query "pg_config" (printing stdout) none sharedFlag) s r s' ∧ _ :=
    query_decides rfl rfl
  obtain ⟨r, s', hquery, haccepted, -⟩ := hdecides
  refine ⟨hone, s', ?_⟩
  rw [← hstripped, ← haccepted hone]
  exact hquery

end NativeExtension.HostLayout

import NativeExtension.HostLayout
import NativeExtension.Proofs.Build.Mirrors
import NativeExtension.Proofs.Text.Lines

namespace NativeExtension.HostLayout

open Build Text

/-- The commands that ask an executable for the directories of a server. -/
def questions (executable : String) : List (List String) :=
  [[executable, headersFlag], [executable, modulesFlag], [executable, sharedFlag]]

/-- A text that can be printed as the only line of an answer: not empty, on one line, and with no
    white space at its ends. -/
structure Printable (text : String) : Prop where
  nonempty : text ≠ ""
  unbroken : Unbroken text.toList
  head : ∀ c ∈ text.toList.head?, isBlank c = false
  last : ∀ c ∈ text.toList.getLast?, isBlank c = false

theorem directory?_printed {text : String} (h : Printable text) :
    directory? (text ++ "\n") = some (.ofString text) := by
  have hlines : lines (text ++ "\n").toList = [text.toList] := by
    have hfeed : "\n".toList = ['\n'] := by decide
    rw [String.toList_append, hfeed, lines_append_newline [] h.unbroken]
    rfl
  have hne : text.toList ≠ [] := by simpa using h.nonempty
  have hfilled : filledLines (text ++ "\n") = [text] := by
    rw [filledLines, hlines]
    simp [trim_eq_self h.head h.last, hne]
  rw [directory?, hfilled]

/-- A runner that answers a command with a line of its own and changes no file. -/
def Prints (runner : Command.Runner) (args : List String) (text : String) : Prop :=
  ∀ earlier limit t, ∃ outcome, runner earlier ⟨args, limit⟩ t = (.ok outcome, t) ∧
    outcome.status = 0 ∧ outcome.stdout = text ++ "\n"

/-- A runner that tells the directories of a server when an executable is asked for them, and for
    any other command is run by another one. -/
structure Tells (runner inner : Command.Runner) (executable headers modules shared : String) :
    Prop where
  headers : Prints runner [executable, headersFlag] headers
  modules : Prints runner [executable, modulesFlag] modules
  shared : Prints runner [executable, sharedFlag] shared
  other : Behind (questions executable) runner inner

/-- The runner that tells the given directories, in front of another one. -/
def telling (inner : Command.Runner) (executable headers modules shared : String) :
    Command.Runner := fun earlier c t =>
  if c.args = [executable, headersFlag] then (.ok ⟨c.args, 0, headers ++ "\n", ""⟩, t)
  else if c.args = [executable, modulesFlag] then (.ok ⟨c.args, 0, modules ++ "\n", ""⟩, t)
  else if c.args = [executable, sharedFlag] then (.ok ⟨c.args, 0, shared ++ "\n", ""⟩, t)
  else inner (unasked (questions executable) earlier) c t

theorem telling_tells (inner : Command.Runner) (executable headers modules shared : String) :
    Tells (telling inner executable headers modules shared) inner executable headers modules
      shared where
  headers _ _ _ := ⟨_, by simp [telling]; rfl, rfl, rfl⟩
  modules _ _ _ := ⟨_, by simp [telling, headersFlag, modulesFlag]; rfl, rfl, rfl⟩
  shared _ _ _ := ⟨_, by simp [telling, headersFlag, modulesFlag, sharedFlag]; rfl, rfl, rfl⟩
  other earlier c t hc := by
    simp only [questions, List.mem_cons, List.not_mem_nil, or_false, not_or] at hc
    simp [telling, hc, questions]

/-- A question that is answered with a directory is as good as knowing the directory. -/
theorem query_mirrors {runner : Command.Runner} {executable flag text : String}
    {asked : List (List String)} (htext : Printable text)
    (hprints : Prints runner [executable, flag] text) (hasked : [executable, flag] ∈ asked)
    (limit : Option Seconds) :
    Mirrors asked (query executable runner limit flag) (pure (.ofString text)) where
  ends {s s'} hs := by
    obtain ⟨outcome, hanswer, hstatus, hstdout⟩ := hprints (s.calls.map (·.call)) limit s.files
    obtain ⟨t, htool, hfiles, hcalls⟩ :
        ∃ t, Ends (runTool runner [executable, flag] .hostConfig limit) s (.ok outcome) t ∧
          t.files = s.files ∧ t.calls = s.calls ++ [⟨⟨[executable, flag], limit⟩, .ok outcome⟩] :=
      runTool_ends hanswer (by simp [Command.Outcome.ok, hstatus])
    have hquery : Ends (query executable runner limit flag) s (.ok (.ofString text))
        { t with messages := t.messages ++
          [⟨.info, "Found Postgres directory: " ++ flag ++ " = " ++ (Path.ofString text).toString⟩] } := by
      refine ends_bind_ok_iff.mpr ⟨outcome, t, htool, ?_⟩
      rw [hstdout, directory?_printed htext]
      exact ends_say_pure
    refine ⟨_, _, s', hquery, ends_pure_iff.mpr ⟨rfl, rfl⟩, ?_, ?_⟩
    · rw [hfiles, hs.files]
    · simp [hcalls, hs.calls, withoutCalls, List.filter_append, hasked]

/-- Two hosts that give the same directories, one of which does without some calls of the other. -/
structure Mirrored (asked : List (List String)) (host host' : HostLayout) : Prop where
  headers : Mirrors asked host.headers host'.headers
  modules : Mirrors asked host.modules host'.modules
  shared : Mirrors asked host.shared host'.shared

/-- Asking a runner that tells the directories is as good as knowing them. -/
theorem Tells.mirrored {runner inner : Command.Runner} {executable headers modules shared : String}
    (h : Tells runner inner executable headers modules shared) (hheaders : Printable headers)
    (hmodules : Printable modules) (hshared : Printable shared) (limit : Option Seconds) :
    Mirrored (questions executable) (queried executable runner limit)
      (fixed ⟨.ofString headers, .ofString modules, .ofString shared⟩) :=
  ⟨query_mirrors hheaders h.headers (by simp [questions]) limit,
    query_mirrors hmodules h.modules (by simp [questions]) limit,
    query_mirrors hshared h.shared (by simp [questions]) limit⟩

end NativeExtension.HostLayout

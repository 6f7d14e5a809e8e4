import NativeExtension.Shell.Expansion
import NativeExtension.Shell.Reader
import NativeExtension.Shell.Settings

/-!
Scripts and the programs that they run apart: reading a text as a script, parts of a script that are
programs of their own, statements that are not waited for, and what a script asked to be run on a
signal or at its end.
-/
namespace NativeExtension.Shell

/-- How a statement is run. Where its status is looked at, a failure ends nothing; and where it is
    the last that its program runs, the program can turn into the one that it starts. -/
structure Manner where
  tested : Bool
  last : Bool

/-- A statement with others around it. -/
def Manner.inner (tested : Bool) : Manner := ⟨tested, false⟩

namespace Run

/-- Runs nested statements. -/
abbrev Runner := Manner → Statement → Run Unit

/-- The part of a text that was read, up to the place that is reached. -/
def readPart (before after : List Char) : List Char := before.take (before.length - after.length)

/-- Runs the statements of a text, line by line. `told` says whether the lines are shown where the
    option for that is set, and `last` whether nothing is run behind the text. Every line spends
    fuel. -/
def script (run : Runner) (told last : Bool) : (lines : Nat) → Cursor → Run Unit
  | 0, _ => pure ()
  | lines + 1, c => do
    let c := { c with aliases := (← session).aliases }
    let showLines (after : List Char) : Run Unit := do
      if told && (← hasOption 'v') then emit 2 (readPart c.rest after)
    match Reader.line?.run c with
    | .error (line, mistake) =>
      update fun s => { s with line }
      showLines []
      die 2 ("Syntax error: ".toList ++ mistake.text)
    | .ok (none, _) => showLines []
    | .ok (some s, d) =>
      showLines d.rest
      let isLast := last && d.rest = [] && c.rest.getLast? != some '\n'
      run ⟨false, isLast⟩ s
      script run told last lines d

/-- Runs a text as a script. -/
def scriptText (run : Runner) (told last : Bool) (text : List Char) : Run Unit :=
  script run told last (text.count '\n' + 1) ⟨text, 1, 0, []⟩

/-- What the script asked to be run on a signal, if it asked for something and a script can. -/
def actionOn (signal : Nat) : Run (Option (List Char)) := do
  let s ← session
  pure (if isCatchable signal then s.traps.lookup signal else none)

/-- Undergoes a signal that the script did not ask for something to be run on. -/
def undergo (signal : Nat) : Run Unit :=
  match signalEffect signal with
  | .nothing => pure ()
  | .stop => throw .expired
  | .terminate => throw (.killed signal)

/-- Runs what the script asked to be run on the signals that were sent to it, or ends it. -/
def deliver (run : Runner) : Run Unit := do
  for signal in ← takeSignals do
    let s ← session
    match ← actionOn signal with
    | some [] => pure ()
    | some action =>
      scriptText run false false action
      update fun t => { t with status := s.status, line := s.line }
    | none => undergo signal

/-- Undergoes the signals that do not wait for the end of a statement. -/
def interrupt : Run Unit := do
  let own := (← session).process
  for (number, signal) in (← host).pending do
    if number = own && (← actionOn signal).isNone then undergo signal

/-- The status that the end of a script gives to the program that read it, and whether what the
    script asked to be run at its end is run. -/
def ending (result : Except Halt Unit) : Run (Nat × Bool) := do
  match result with
  | .ok () | .error (.broken _) | .error (.continued _) => return ((← session).status, true)
  | .error (.exited n) | .error (.failed n) | .error (.returned n) => pure (n, true)
  | .error (.ended n) => pure (n, false)
  | .error halt => throw halt

/-- Runs a step as a whole script, with what it asks to be run at its end, and gives its status. -/
def toItsEnd (run : Runner) (step : Run Unit) : Run Nat := do
  let (status, orderly) ← ending (← caught do step; deliver run)
  match (← session).traps.lookup 0 with
  | some (c :: cs) =>
    if !orderly then pure status
    else
      update fun s => { s with traps := s.traps.filter (·.1 != 0), status, loops := 0 }
      match ← caught (scriptText run false false (c :: cs)) with
      | .ok () => pure status
      | result => return (← ending result).1
  | _ => pure status

/-- Runs a step as a program of its own with the given number: what it changes of the session is
    lost. Gives how it ended. -/
def asProgram (number : Nat) (step : Run Nat) : Run Exit := do
  let before ← session
  let here := (← files).current
  updateHost fun h => { h with alive := number :: h.alive }
  update fun s => { s with
    process := number
    traps := s.traps.filter (·.2 = []) }
  let result ← caught step
  updateHost fun h => { h with
    alive := h.alive.filter (· != number)
    pending := h.pending.filter (·.1 != number) }
  update fun _ => before
  setFiles { (← files) with current := here }
  match result with
  | .ok status => pure (.status (status % 256))
  | .error (.killed signal) => pure (.signal signal)
  | .error .expired => throw .expired
  | .error _ => pure (.status 0)

/-- Runs a step of a script apart. -/
def apart (run : Runner) (step : Run Unit) : Run Exit := do
  asProgram (← newNumber) (toItsEnd run step)

/-- Waits until a program has ended that runs apart: says which signal ended it if one did. -/
def awaited (exit : Exit) : Run Nat := do
  match exit with
  | .status _ => pure ()
  | .signal n => if let some text := signalText n then emit 2 (text.toList ++ ['\n'])
  pure exit.toStatus

/-- Starts a statement that is not waited for. It has nothing to read. -/
def launch (body : Statement) : Run Unit := do
  let number ← newNumber
  let s ← session
  let h ← host
  let job : Job :=
    { number
      owner := s.process
      start := h.spent
      session := { s with endpoints := (0, .nowhere) :: s.endpoints.filter (·.1 != 0) }
      location := h.files.current
      body
      outcome := none
      killed := none }
  updateHost fun h => { h with jobs := h.jobs ++ [job] }
  update fun s => { s with latest := some number }

/-- Whether a job still has to run. -/
def isWaiting (job : Job) : Bool := job.outcome.isNone && job.killed.isNone

/-- Runs a job that was started before, as if it had run since then. -/
def runJob (run : Runner) (job : Job) : Run Unit := do
  let now := (← host).spent
  let before ← session
  let here := (← files).current
  updateHost fun h => { h with spent := job.start, files := { h.files with current := job.location } }
  update fun _ => job.session
  let result ← caught (asProgram job.number (toItsEnd run (run ⟨false, true⟩ job.body)))
  update fun _ => before
  updateHost fun h => { h with
    spent := max now h.spent
    files := { h.files with current := here } }
  match result with
  | .ok exit =>
    updateHost fun h => { h with jobs := h.jobs.map fun other =>
      if other.number != job.number then other
      else
        match exit with
        | .status n => { other with outcome := some n }
        | .signal n => { other with killed := some n } }
    checkTime
  | .error halt => throw halt

/-- Runs the jobs that still have to run and that the test picks. -/
def runJobs (run : Runner) (isMeant : Job → Bool) : Run Unit := do
  for job in (← host).jobs do
    if isWaiting job && isMeant job then runJob run job

/-- Runs the jobs that would be over by a given time. -/
def runJobsUntil (run : Runner) (time : Nat) : Run Unit := do
  for job in (← host).jobs do
    if isWaiting job then
      let before ← get
      match ← caught (runJob run job) with
      | .ok () => if (← host).spent > time then set before
      | .error _ => set before

/-- Runs the jobs that may still write to an endpoint. -/
def settle (run : Runner) (p : Endpoint) : Run Unit :=
  runJobs run fun job => job.session.endpoints.any (·.2 = p)

/-- Runs a statement apart and takes what it writes. -/
def capture (run : Runner) : Capture := fun body => do
  let channel ← newChannel []
  let exit ← apart run do
    setEndpoint 1 (some channel)
    run ⟨false, true⟩ body
  settle run channel
  interrupt
  update fun s => { s with taken := exit.toStatus }
  held channel

/-- How a job ended. -/
def exitOf (job : Job) : Exit :=
  match job.killed with
  | some n => .signal n
  | none => .status (job.outcome.getD 0)

/-- Waits for the jobs that are named by their numbers, or for all. -/
def wait (run : Runner) (args : List (List Char)) : Run Nat := do
  let (_, words) ← Builtin.optionLetters [] args
  let own := (← session).process
  if words = [] then
    runJobs run (·.owner = own)
    pure 0
  else
    let mut status := 127
    for word in words do
      let n ← Builtin.number word
      runJobs run fun job => job.owner = own && job.number = n
      match (← host).jobs.find? fun job => job.owner = own && job.number = n with
      | some job => status ← awaited (exitOf job)
      | none => status := 127
    pure status

end Run

end NativeExtension.Shell

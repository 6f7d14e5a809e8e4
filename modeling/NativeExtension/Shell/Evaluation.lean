import NativeExtension.Shell.Invocation

/-!
Running statements. How deep they nest is bounded, and so is the number of rounds of a loop; a
script that goes beyond counts as one that never ends.
-/
namespace NativeExtension.Shell

/-- The time that a statement takes. -/
def statementMicros : Nat := 10

/-- How many rounds a loop may have. -/
def roundLimit : Nat := 1000000

/-- How deep statements may nest. -/
def depthLimit : Nat := 20000

namespace Run

/-- What the words of a command call for. -/
inductive Target where
  | nothing
  /-- A built-in command that changes the shell itself. -/
  | special (name : List Char) (step : List (List Char) → Run Nat) (args : List (List Char))
  | builtin (name : List Char) (step : List (List Char) → Run Nat) (args : List (List Char))
  | function (body : Statement) (args : List (List Char))
  | program (words : List (List Char))

/-- What words call for. `command` in front of others hides functions, and takes what is special from
    built-in commands. Its own options ask what a name means. -/
def targetOf (run : Runner) (depth : Nat) (tested : Bool) (s : Session) :
    (isPlain : Bool) → List (List Char) → Target
  | _, [] => .nothing
  | isPlain, name :: args =>
    let specialStep := if name.contains '/' then none else special? run depth tested name
    let body := if isPlain then s.functions.lookup name else none
    match specialStep, body with
    | some step, _ => if isPlain then .special name step args else .builtin name step args
    | none, some body => .function body args
    | none, none =>
      if name == "command".toList then
        match args with
        | [] => .builtin name (fun _ => pure 0) []
        | first :: rest =>
          if first == ['-', '-'] || first == ['-', 'p'] then
            targetOf run depth tested s false rest
          else if first.head? == some '-' && first.length > 1 then
            .builtin name (fun args => do
              let (letters, names) ← Builtin.optionLetters ['p', 'v', 'V'] args
              if names = [] then pure 0
              else describe (letters.getLast? == some 'V') (names.headD [])) args
          else targetOf run depth tested s false (first :: rest)
      else
        match builtin? run name with
        | some step => .builtin name step args
        | none => .program (name :: args)

/-- Whether variables that are set in front of a command stay set. -/
def Target.keepsAssignments : Target → Bool
  | .nothing | .special .. => true
  | _ => false

/-- Whether a command runs a program in place of the script, or would. -/
def Target.isExec : Target → Bool
  | .special name .. | .builtin name .. => name == "exec".toList
  | _ => false

/-- The arguments of a command. -/
def Target.args : Target → List (List Char)
  | .nothing => []
  | .special _ _ args | .builtin _ _ args | .function _ args => args
  | .program words => words.tail

/-- Runs what words call for, and gives its status. A mistake in a built-in command that is not
    special is its own. -/
def Target.perform (run : Runner) (depth : Nat) (manner : Manner) : Target → Run Nat
  | .nothing => return (← session).taken
  | .special name step args => under name (step args)
  | .builtin name step args => do
    match ← caught (under name (step args)) with
    | .error (.failed n) => pure n
    | result => resume result
  | .function body args => callFunction run manner.tested body args
  | .program words => external run depth manner.last words

/-- The words of a command as fields. Behind a command that sets variables, words that assign are
    not split. -/
def commandWords (capture : Capture) (depth : Nat) :
    List Word → (before : List (List Char)) → Run (List (List Char))
  | [], before => pure before
  | w :: ws, before => do
    let name := (before.dropWhile (· == "command".toList)).headD []
    let sets := ["export", "readonly", "local"].any (·.toList == name)
    match if sets then assignment? w else none with
    | some (name, value) =>
      let text ← valueText capture depth value
      commandWords capture depth ws (before ++ [name ++ '=' :: text])
    | none => commandWords capture depth ws (before ++ (← fieldsOf capture depth w))

/-- Sets variables, handed on to programs or not, and gives their names and values. -/
def assign (capture : Capture) (depth : Nat) (exported : Bool)
    (assignments : List (List Char × Word)) : Run (List (List Char × List Char)) :=
  assignments.mapM fun (name, word) => do
    let value ← valueText capture depth word
    setVariable name value
    if exported then changeBinding name fun b => some { b with exported := true }
    pure (name, value)

/-- Runs a step with variables that are set for it alone and handed on to the programs it starts.
    The step is told their names and values. -/
def withVariables (capture : Capture) (depth : Nat) (assignments : List (List Char × Word))
    (step : List (List Char × List Char) → Run Nat) : Run Nat := do
  let bindings := (← session).bindings
  let result ← caught do step (← assign capture depth true assignments)
  giveBack (assignments.map fun (name, _) => (name, bindings.lookup name))
  resume result

/-- The mark in front of a command that is shown before it runs. -/
def traceMark (capture : Capture) (depth : Nat) : Run (List Char) := do
  let text := (← value? "PS4".toList).getD []
  match Reader.document? text with
  | some word => documentText capture depth word
  | none => pure text

/-- Shows a command before it runs, where the option for that is set: the variables that are set and
    the words. It goes where messages went before the redirections of the command. -/
def trace (capture : Capture) (depth : Nat) (messages : Option Endpoint)
    (texts : List (List Char × List Char)) (words : List (List Char)) : Run Unit := do
  if ← hasOption 'x' then
    let shown := texts.map (fun (name, value) => name ++ '=' :: value) ++ words
    keepingEndpoints [2] do
      setEndpoint 2 messages
      Builtin.putOption 'x' false
      let mark ← traceMark capture depth
      Builtin.putOption 'x' true
      emit 2 (mark ++ [' '].intercalate shown ++ ['\n'])

/-- Runs a simple statement. One without a command has the status of the last output that was taken
    into its words. -/
def simple (run : Runner) (depth : Nat) (manner : Manner) (line : Nat)
    (assignments : List (List Char × Word)) (words : List Word) (redirections : List Redirection) :
    Run Unit := do
  update fun s => { s with line, taken := 0 }
  spend statementMicros
  let capture := capture run
  let words ← commandWords capture depth words []
  let target := targetOf run depth manner.tested (← session) true words
  let messages ← endpoint 2
  let texts ← redirectionTexts capture depth redirections
  let body : Run Nat := do
    if ← redirectAll texts then
      if target.keepsAssignments then
        let set ← assign capture depth (target.isExec && target.args != []) assignments
        trace capture depth messages set words
        target.perform run depth manner
      else
        withVariables capture depth assignments fun set => do
          trace capture depth messages set words
          target.perform run depth manner
    else
      match target with
      | .special .. => throw (.failed 2)
      | _ => pure 2
  let lasting := target.isExec && target.args = []
  setStatus (← keepingEndpoints (if lasting then [] else texts.map Prod.fst) body)

/-- Ends a script that ends at failures, if the last statement failed and nothing looks at its
    status. -/
def haltOnFailure (tested : Bool) : Run Unit := do
  let s ← session
  if s.options.contains 'e' && !tested && s.status != 0 then throw (.exited s.status)

/-- Runs a part of a loop. Says whether the loop goes on. -/
def round (step : Run Unit) : Run Bool := do
  match ← caught step with
  | .ok () => pure true
  | .error (.broken (n + 2)) => throw (.broken (n + 1))
  | .error (.broken _) => setStatus 0; pure false
  | .error (.continued (n + 2)) => throw (.continued (n + 1))
  | .error (.continued _) => setStatus 0; pure true
  | .error halt => throw halt

/-- The rounds of a loop with a condition, and the status of the last one. -/
def rounds (run : Runner) (untilTrue tested : Bool) (condition body : Statement) :
    (fuel : Nat) → (status : Nat) → Run Nat
  | 0, _ => throw .expired
  | fuel + 1, status => do
    spend statementMicros
    if !(← round (run (.inner true) condition)) then pure 0
    else if ((← session).status == 0) == untilTrue then pure status
    else if ← round (run (.inner tested) body) then
      rounds run untilTrue tested condition body fuel (← session).status
    else pure 0

/-- The rounds of a loop over words, and the status of the last one. -/
def eachRound (run : Runner) (tested : Bool) (name : List Char) (body : Statement) :
    List (List Char) → (status : Nat) → Run Nat
  | [], status => pure status
  | value :: values, _ => do
    setVariable name value
    if ← round (run (.inner tested) body) then
      eachRound run tested name body values (← session).status
    else pure 0

/-- Runs a step inside a loop and gives its status. -/
def insideLoop (step : Run Nat) : Run Unit := do
  let status ← keeping (fun before s => { s with loops := before.loops }) do
    update fun s => { s with loops := s.loops + 1 }
    step
  setStatus status

/-- Runs the stages of a pipeline, each on what the one before it wrote. -/
def pipeline (run : Runner) (tested : Bool) : (input : Option Endpoint) → List Statement → Run Unit
  | _, [] => pure ()
  | input, stage :: stages => do
    let output ← if stages.isEmpty then pure none
      else some <$> openChannel ⟨.empty, true⟩
    let exit ← apart run do
      if let some p := input then setEndpoint 0 (some p)
      if let some p := output then setEndpoint 1 (some p)
      run ⟨tested, true⟩ stage
    if let some p := output then settle run p
    setStatus (← awaited exit)
    pipeline run tested output stages

/-- The statement of the first case with a pattern that a text matches. -/
def chosen (capture : Capture) (depth : Nat) (subject : List Char) :
    List (List Word × Statement) → Run (Option Statement)
  | [] => pure none
  | (patterns, body) :: cases => do
    let hit ← patterns.anyM fun w => return (← wordPattern capture depth w).isMatch subject
    if hit then pure (some body)
    else chosen capture depth subject cases

/-- Runs a part of a script apart. The last part of a program runs in the program itself, unless
    something is to be run at its end. -/
def subshell (run : Runner) (manner : Manner) (body : Statement) : Run Unit := do
  let step := run ⟨manner.tested, true⟩ body
  if manner.last && (← session).traps.all (·.2 = []) then
    step
    throw (.exited (← session).status)
  else setStatus (← awaited (← apart run step))

/-- Runs the statements of a list, the last of them in the manner of the whole. -/
def sequence (run : Runner) (manner : Manner) : List Statement → Run Unit
  | [] => pure ()
  | [s] => run manner s
  | s :: rest => do
    run (.inner manner.tested) s
    sequence run manner rest

/-- Runs a statement that others may be nested in. Statements nest at most `depth` deep. -/
def nested (run : Runner) (depth : Nat) (manner : Manner) : Statement → Run Unit
  | .simple line assignments words redirections => do
    simple run depth manner line assignments words redirections
    deliver run
    haltOnFailure manner.tested
  | .sequence statements => sequence run manner statements
  | .both first second => do
    run (.inner true) first
    if (← session).status = 0 then run manner second
  | .either first second => do
    run (.inner true) first
    if (← session).status != 0 then run manner second
  | .negation inner => do
    run (.inner true) inner
    setStatus (if (← session).status = 0 then 1 else 0)
  | .pipeline stages => do
    pipeline run manner.tested none stages
    deliver run
    haltOnFailure manner.tested
  | .branch condition yes no => do
    run (.inner true) condition
    if (← session).status = 0 then run manner yes
    else
      match no with
      | .sequence [] => setStatus 0
      | no => run manner no
  | .loop untilTrue condition body =>
    insideLoop (rounds run untilTrue manner.tested condition body roundLimit 0)
  | .each line name words body => do
    update fun s => { s with line }
    let values ← match words with
      | some words => fields (capture run) depth words
      | none => pure (← session).arguments
    insideLoop (eachRound run manner.tested name body values 0)
  | .choice line subject cases => do
    update fun s => { s with line }
    let cs ← wordText (capture run) depth subject
    match ← chosen (capture run) depth cs cases with
    | some (.sequence []) | none => setStatus 0
    | some body => run manner body
  | .subshell body => do
    subshell run manner body
    deliver run
    haltOnFailure manner.tested
  | .background inner => do
    launch inner
    setStatus 0
  | .redirected line inner redirections => do
    update fun s => { s with line }
    let texts ← redirectionTexts (capture run) depth redirections
    setStatus (← keepingEndpoints (texts.map Prod.fst) do
      if ← redirectAll texts then
        run (.inner manner.tested) inner
        return (← session).status
      else pure 2)
  | .function name body => do
    update fun s => { s with functions := (name, body) :: s.functions.filter (·.1 != name) }
    setStatus 0

/-- Runs a statement, unless the option is set that leaves all undone. Statements nest at most `depth`
    deep. -/
def statement : (depth : Nat) → Runner
  | 0, _, _ => throw (.killed segmentationFault)
  | depth + 1, manner, s => do
    if !(← hasOption 'n') then nested (statement depth) depth manner s

end Run

end NativeExtension.Shell

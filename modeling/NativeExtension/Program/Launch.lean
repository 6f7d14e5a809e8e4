import NativeExtension.Program.Columns
import NativeExtension.Program.Filter

/-!
Programs of a host that start another: with other variables, on what they read, for a limited time,
or as it is. How a program is started is an argument.
-/
namespace NativeExtension.Utility

open Shell (Run Exit)

/-- How a program starts others, given by name with their arguments: in its own place, or as programs
    of their own whose end is waited for. -/
structure Launcher where
  become : List (List Char) → Run (Except Errno Nat)
  start : List (List Char) → Run (Except Errno Exit)

/-- The status that says why a program could not be started. -/
def startStatus (e : Errno) : Nat := if Program.isAbsence e then 127 else 126

/-- Reads the words of a text as a shell would: quotes keep blanks, and a backslash the character
    behind it. `current` is the word that has begun. -/
def shellWords : (quote : Option Char) → (current : Option (List Char)) → List Char →
    List (List Char)
  | _, current, [] => (current.map List.reverse).toList
  | some '\'', current, '\'' :: cs => shellWords none current cs
  | some '"', current, '"' :: cs => shellWords none current cs
  | none, current, '\'' :: cs => shellWords (some '\'') (some (current.getD [])) cs
  | none, current, '"' :: cs => shellWords (some '"') (some (current.getD [])) cs
  | quote, current, '\\' :: c :: cs =>
    if quote == some '\'' && c != '\'' && c != '\\' then
      shellWords quote (some (c :: '\\' :: current.getD [])) cs
    else shellWords quote (some (c :: current.getD [])) cs
  | quote, current, c :: cs =>
    if quote.isNone && isWordGap c then
      (current.map List.reverse).toList ++ shellWords none none cs
    else shellWords quote (some (c :: current.getD [])) cs

/-- What a program that changes variables is told to do. -/
structure EnvironmentStyle where
  fresh : Bool
  removed : List (List Char)
  directory : Option (List Char)
  withZeros : Bool

/-- Takes the options in front of variables and a command. Words that one option holds all together
    stand in its place. Every word spends fuel. -/
def environmentOptions : (fuel : Nat) → EnvironmentStyle → List (List Char) →
    Run (EnvironmentStyle × List (List Char))
  | 0, style, words => pure (style, words)
  | fuel + 1, style, words => do
    let hint : Run Unit := complain "use -[v]S to pass options in shebang lines".toList
    let rec letters (style : EnvironmentStyle) : List Char → List (List Char) →
        Run (EnvironmentStyle × List (List Char))
      | [], rest => environmentOptions fuel style rest
      | 'i' :: cs, rest => letters { style with fresh := true } cs rest
      | 'v' :: cs, rest => letters style cs rest
      | '0' :: cs, rest => letters { style with withZeros := true } cs rest
      | c :: cs, rest => do
        if c == 'u' || c == 'S' || c == 'C' then
          let (value, rest) ← match cs, rest with
            | [], [] => misuse 125 (faultText (.noValue c))
            | [], value :: rest => pure (value, rest)
            | cs, rest => pure (cs, rest)
          match c with
          | 'u' => environmentOptions fuel { style with removed := style.removed ++ [value] } rest
          | 'C' => environmentOptions fuel { style with directory := some value } rest
          | _ => environmentOptions fuel style (shellWords none none value ++ rest)
        else if isWordGap c then
          complain (faultText (.unknown c))
          hint
          pointToHelp
          quit 125
        else misuse 125 (faultText (.unknown c))
    match words with
    | [] => pure (style, [])
    | ['-', '-'] :: rest => pure (style, rest)
    | ['-'] :: rest => pure ({ style with fresh := true }, rest)
    | ('-' :: '-' :: name) :: rest =>
      let value := (name.dropWhile (· != '=')).drop 1
      match String.ofList (name.takeWhile (· != '=')) with
      | "ignore-environment" => environmentOptions fuel { style with fresh := true } rest
      | "null" => environmentOptions fuel { style with withZeros := true } rest
      | "unset" =>
        environmentOptions fuel { style with removed := style.removed ++ [value] } rest
      | "chdir" => environmentOptions fuel { style with directory := some value } rest
      | "split-string" => environmentOptions fuel style (shellWords none none value ++ rest)
      | _ => misuse 125 (faultText (.unknownName name))
    | ('-' :: letter :: cs) :: rest => letters style (letter :: cs) rest
    | words => pure (style, words)

/-- Runs a command with other variables, or writes the variables. -/
def withEnvironment (launcher : Launcher) : Tool := fun args => do
  let size := (args.map List.length).foldl (· + ·) args.length
  let (style, words) ← environmentOptions (size + 1) ⟨false, [], none, false⟩ args
  let given ← Run.environment
  let kept := if style.fresh then [] else given
  for name in style.removed do
    if name = [] || name.contains '=' then
      complain ("cannot unset ".toList ++ quoted name ++ ": ".toList ++
        Errno.invalidArgument.reason.toList)
      quit 125
  let kept := kept.filter fun (name, _) => !style.removed.contains name
  Run.update fun s => { s with bindings := kept.map fun (name, value) =>
    (name, ⟨some value, true, false⟩) }
  let isAssignment (word : List Char) : Bool := word.contains '='
  for word in words.takeWhile isAssignment do
    let name := word.takeWhile (· != '=')
    Run.putBinding name (some ⟨some (word.drop (name.length + 1)), true, false⟩)
  if let some path := style.directory then
    let t ← Run.files
    match t.find (Text.Octets.toString path) with
    | .ok (l, .directory _) => Run.setFiles { t with current := l }
    | found =>
      let e := match found with
        | .error e => e
        | .ok _ => .notDirectory
      complain ("cannot change directory to ".toList ++ quotedPath path ++ ": ".toList ++
        e.reason.toList)
      quit 125
  match words.dropWhile isAssignment with
  | [] =>
    for (name, value) in ← Run.environment do
      Run.emit 1 (name ++ '=' :: value ++ [if style.withZeros then '\x00' else '\n'])
    pure 0
  | command =>
    match ← launcher.become command with
    | .ok status => pure status
    | .error e =>
      let name := command.headD []
      complain (quoted name ++ ": ".toList ++ e.reason.toList)
      if e = .noEntry && name.any isWordGap then
        complain "use -[v]S to pass options in shebang lines".toList
      pure (startStatus e)

/-- How the arguments of commands are told apart: at blanks and line feeds outside quotes, at lines,
    or at one octet. -/
inductive Separation where
  | blanks
  | lines
  | octet (mark : Char)

/-- The words of a text between blanks and line feeds, each with the number of its line. A quote is
    open at the end if the last part says so. -/
def quotedWords : (line : Nat) → (quote : Option Char) → (current : Option (List Char)) →
    List Char → List (Nat × List Char) × Option Char
  | line, quote, current, [] => ((current.map fun w => (line, w.reverse)).toList, quote)
  | line, none, current, '\\' :: c :: cs => quotedWords line none (some (c :: current.getD [])) cs
  | line, none, current, c :: cs =>
    if c == '\'' || c == '"' then quotedWords line (some c) (some (current.getD [])) cs
    else if isWordGap c then
      let (rest, quote) := quotedWords (if c == '\n' then line + 1 else line) none none cs
      ((current.map fun w => (line, w.reverse)).toList ++ rest, quote)
    else quotedWords line none (some (c :: current.getD [])) cs
  | line, some q, current, c :: cs =>
    if c == q then quotedWords line none current cs
    else if c == '\n' then ([], some q)
    else quotedWords line (some q) (some (c :: current.getD [])) cs

/-- The lines of a text as words without their quotes, less the blanks in front. Empty lines count as
    none. -/
def quotedLines (cs : List Char) : List (List Char) × Option Char :=
  let lines := (linesOf cs).1.map fun line => line.dropWhile isWordGap
  let lines := lines.filter (· != [])
  let read (line : List Char) : List Char × Option Char :=
    let rec go : Option Char → List Char → List Char × Option Char
      | quote, [] => ([], quote)
      | none, '\\' :: c :: cs => let (rest, quote) := go none cs; (c :: rest, quote)
      | none, c :: cs =>
        if c == '\'' || c == '"' then go (some c) cs
        else let (rest, quote) := go none cs; (c :: rest, quote)
      | some q, c :: cs =>
        if c == q then go none cs
        else let (rest, quote) := go (some q) cs; (c :: rest, quote)
    go none line
  (lines.map fun line => (read line).1, lines.findSome? fun line => (read line).2)

/-- Pieces of a list of a given length. Every piece spends fuel. -/
def piecesOf {α : Type} (n : Nat) : (fuel : Nat) → List α → List (List α)
  | _, [] => []
  | 0, xs => [xs]
  | fuel + 1, xs => xs.take n :: piecesOf n fuel (xs.drop n)

/-- A word with all places of a mark in it filled. -/
def filled (mark value : List Char) : (fuel : Nat) → List Char → List Char
  | 0, cs => cs
  | _, [] => []
  | fuel + 1, c :: cs =>
    if mark != [] && mark.isPrefixOf (c :: cs) then
      value ++ filled mark value fuel ((c :: cs).drop mark.length)
    else c :: filled mark value fuel cs

/-- The number behind an option, or the end of the program. -/
def optionNumber (letter : Char) (least : Nat) (word : List Char) : Run Nat := do
  match count? word with
  | none =>
    misuse 1 ("invalid number \"".toList ++ word ++ "\" for -".toList ++ letter ::
      " option".toList)
  | some n =>
    if n < least then
      misuse 1 ("value ".toList ++ word ++ " for -".toList ++ letter ::
        (" option should be >= " ++ toString least).toList)
    else pure n

/-- The octet that a word for a mark spells. -/
def markOf (word : List Char) : Char :=
  match word with
  | ['\\', 'n'] => '\n'
  | ['\\', 't'] => '\t'
  | ['\\', '0'] => '\x00'
  | c :: _ => c
  | [] => '\x00'

/-- Runs commands with arguments that are read. -/
def collectArguments (launcher : Launcher) : Tool := fun args => do
  let c ← options ⟨"0rtxp".toList, "nILdPas".toList, [("null", '0'), ("no-run-if-empty", 'r'),
    ("verbose", 't'), ("max-args", 'n'), ("replace", 'I'), ("max-lines", 'L'), ("delimiter", 'd'),
    ("max-procs", 'P'), ("arg-file", 'a'), ("exit", 'x')], false⟩ 1 args
  let numberOf (letter : Char) (least : Nat) : Run (Option Nat) := do
    match c.value? letter with
    | some word => return some (← optionNumber letter least word)
    | none => pure none
  let atMost ← numberOf 'n' 1
  let lineCount ← numberOf 'L' 1
  let _ ← numberOf 'P' 0
  let mark := c.value? 'I'
  if mark.isSome && atMost.isSome then
    complain ("warning: options --max-args and --replace/-I/-i are mutually exclusive, ignoring " ++
      "previous --max-args value").toList
  let cs ← match c.value? 'a' with
    | none => Run.takeAll 0
    | some path =>
      match ← input path with
      | .ok cs => pure cs
      | .error e => complain ("Cannot open input file ".toList ++ quoted path ++ ": ".toList ++
          e.reason.toList); quit 1
  let separation : Separation :=
    if c.has '0' then .octet '\x00'
    else
      match c.value? 'd' with
      | some word => .octet (markOf word)
      | none => if mark.isSome then .lines else .blanks
  let (words, isOpen) := match separation with
    | .octet d =>
      let parts := cs.splitOn d
      (((if parts.getLast? == some [] then parts.dropLast else parts).map fun w => (0, w)), none)
    | .lines => let (lines, quote) := quotedLines cs; (lines.map fun w => (0, w), quote)
    | .blanks => quotedWords 0 none none cs
  let command := if c.operands = [] then ["echo".toList] else c.operands
  Run.setEndpoint 0 (some .nowhere)
  let groups : List (List (List Char)) :=
    match mark, atMost, lineCount with
    | some _, _, _ => words.map fun (_, w) => [w]
    | none, some n, _ => piecesOf n words.length (words.map Prod.snd)
    | none, none, some n =>
      let lines := words.splitBy fun a b => a.1 == b.1
      (piecesOf n lines.length lines).map fun group => group.flatten.map Prod.snd
    | none, none, none => [words.map Prod.snd]
  let groups := if words = [] then
      if c.has 'r' || mark.isSome then [] else [[]]
    else groups
  let mut status := 0
  if let some q := isOpen then
    complain ("unmatched ".toList ++ (if q == '"' then "double" else "single").toList ++
      " quote; by default quotes are special to xargs unless you use the -0 option".toList)
  for group in groups do
    let line := match mark with
      | some mark =>
        command.map fun w => filled mark (group.headD []) (w.length + 1) w
      | none => command ++ group
    if c.has 't' then Run.emit 2 ([' '].intercalate (line.map plainPath) ++ ['\n'])
    let name := line.headD []
    match ← launcher.start line with
    | .error e =>
      complainOf name e
      quit (startStatus e)
    | .ok (.signal n) =>
      complain (name ++ ": terminated by signal ".toList ++ digits n)
      quit 125
    | .ok (.status 255) =>
      complain (name ++ ": exited with status 255; aborting".toList)
      quit 124
    | .ok (.status n) => if n != 0 then status := 123
  pure (if isOpen.isSome then 1 else status)

/-- Runs a command in its own place, or says why it cannot be run. -/
def handOver (launcher : Launcher) (command : List (List Char))
    (text : List Char → List Char) : Run Nat := do
  match ← launcher.become command with
  | .ok status => pure status
  | .error e =>
    complain (text (command.headD []) ++ ": ".toList ++ e.reason.toList)
    pure (startStatus e)

/-- Runs a command for a limited time. -/
def limitTime (launcher : Launcher) : Tool := fun args => do
  let c ← options ⟨"vfp".toList, "sk".toList, [("verbose", 'v'), ("foreground", 'f'), ("signal", 's'),
    ("kill-after", 'k'), ("preserve-status", 'p')], false⟩ 125 args
  let signal ← match c.value? 's' with
    | none => pure 15
    | some word =>
      let word := if "SIG".toList.isPrefixOf word then word.drop 3 else word
      match Shell.signal? true word with
      | some n => pure n
      | none => misuse 125 (quoted word ++ ": invalid signal".toList)
  match c.operands with
  | span :: name :: args =>
    let micros ← match sleepMicros? [span] with
      | some n => pure n
      | none => misuse 125 ("invalid time interval ".toList ++ quoted span)
    let h ← Run.host
    let alarm := h.spent + micros
    Run.updateHost fun h => { h with
      alarm := if micros = 0 then h.alarm else some ((h.alarm.getD alarm).min alarm) }
    let result ← Run.caught (launcher.start (name :: args))
    Run.updateHost fun now => { now with alarm := h.alarm }
    match result with
    | .ok (.ok (.status n)) => pure n
    | .ok (.ok (.signal n)) => throw (.killed n)
    | .ok (.error e) =>
      complain ("failed to run command ".toList ++ quoted name ++ ": ".toList ++ e.reason.toList)
      pure (startStatus e)
    | .error .expired =>
      if micros = 0 then throw .expired
      Run.updateHost fun now => { now with spent := alarm }
      Run.checkTime
      if c.has 'v' then
        complain ("sending signal ".toList ++ Shell.signalName signal ++ " to command ".toList ++
          quoted name)
      if signal = 9 then throw (.killed 9)
      else if c.has 'p' then pure (128 + signal)
      else pure 124
    | .error halt => throw halt
  | _ => pointToHelp; pure 125

/-- Runs a command with another priority, which changes nothing of what it does, or writes the
    priority. -/
def withPriority (launcher : Launcher) : Tool := fun args => do
  let args := match args with
    | ('-' :: c :: cs) :: rest =>
      if (c :: cs).all Char.isDigit then "-n".toList :: (c :: cs) :: rest else args
    | args => args
  let c ← options ⟨[], ['n'], [("adjustment", 'n')], false⟩ 125 args
  if let some word := c.value? 'n' then
    if (Shell.integer? word).isNone then
      complain ("invalid adjustment ".toList ++ quoted word)
      quit 125
  if c.operands = [] then
    Run.emit 1 "0\n".toList
    pure 0
  else handOver launcher c.operands quoted

/-- Runs a command that is to go on when others end. -/
def withoutHangup (launcher : Launcher) : Tool := fun args => do
  let c ← options ⟨[], [], [("help", '\x00')], false⟩ 125 args
  if c.operands = [] then misuse 125 "missing operand".toList
  Run.update fun s => { s with traps := (1, []) :: s.traps.filter (·.1 != 1) }
  handOver launcher c.operands fun name => "failed to run command '".toList ++ name ++ ['\'']

/-- Runs a command as it is. -/
def apartFromOthers (launcher : Launcher) : Tool := fun args => do
  let c ← options ⟨"cfw".toList, [], [("wait", 'w'), ("fork", 'f')], false⟩ 1 args
  if c.operands = [] then misuse 1 "no command specified".toList
  handOver launcher c.operands fun name => "failed to execute ".toList ++ name

end NativeExtension.Utility

import NativeExtension.Shell.Builtin

/-!
The built-in commands that change what a shell knows: its options, its variables, its functions and
its other names for commands.
-/
namespace NativeExtension.Shell.Builtin

/-- The options of a shell: their names and their letters. Some have no letter. -/
def optionNames : List (String × Option Char) :=
  [("errexit", some 'e'), ("noglob", some 'f'), ("ignoreeof", some 'I'), ("interactive", some 'i'),
    ("monitor", some 'm'), ("noexec", some 'n'), ("stdin", some 's'), ("xtrace", some 'x'),
    ("verbose", some 'v'), ("vi", some 'V'), ("emacs", some 'E'), ("noclobber", some 'C'),
    ("allexport", some 'a'), ("notify", some 'b'), ("nounset", some 'u'), ("privileged", some 'p'),
    ("nolog", none), ("debug", none)]

/-- The letter of an option. One without a letter goes by the first letter of its name, in capitals.
    -/
def optionLetter (name : String) (letter : Option Char) : Char :=
  letter.getD ((name.toList.headD 'x').toUpper)

/-- Sets an option or takes it back. -/
def putOption (letter : Char) (on : Bool) : Run Unit :=
  Run.update fun s =>
    let others := s.options.filter (· != letter)
    { s with options := if on then letter :: others else others }

/-- Tells all options, as they are or as the commands that would set them. -/
def optionTable (asCommands : Bool) : Run (List Char) := do
  let set := (← Run.session).options
  let line (name : String) (letter : Option Char) : List Char :=
    let on := set.contains (optionLetter name letter)
    if asCommands then (if on then "set -o " else "set +o ").toList ++ name.toList ++ ['\n']
    else
      name.toList ++ List.replicate (16 - name.length) ' ' ++ (if on then "on\n" else "off\n").toList
  let lines := (optionNames.map fun (name, letter) => line name letter).flatten
  pure (if asCommands then lines else "Current option settings\n".toList ++ lines)

/-- Sets or takes back the options whose letters are given. Gives how many times the letter is among
    them that stands for an option by its name. -/
def putOptions (on : Bool) : List Char → Run Nat
  | [] => pure 0
  | 'o' :: letters => return (← putOptions on letters) + 1
  | c :: letters => do
    if !(optionNames.any fun (_, letter) => letter == some c) then
      Run.die 2 ("Illegal option ".toList ++ [if on then '-' else '+', c])
    putOption c on
    putOptions on letters

/-- Sets or takes back an option by its name. -/
def putNamed (on : Bool) (name : List Char) : Run Unit := do
  match optionNames.find? fun (n, _) => n.toList == name with
  | some (n, letter) => putOption (optionLetter n letter) on
  | none => Run.die 2 ("Illegal option ".toList ++ [if on then '-' else '+'] ++ "o ".toList ++ name)

/-- Sets options as the words in front say, and gives the words that follow them and whether they
    stand for the arguments even if there are none. -/
def takeOptions : (fuel : Nat) → List (List Char) → Run (List (List Char) × Bool)
  | 0, words => pure (words, false)
  | _, [] => pure ([], false)
  | fuel + 1, word :: words => do
    match word with
    | ['-', '-'] => pure (words, true)
    | ['-'] => putOption 'x' false; putOption 'v' false; pure (words, false)
    | sign :: letters =>
      if sign != '-' && sign != '+' then pure (word :: words, false)
      else
        let named ← putOptions (sign == '-') letters
        if named = 0 then takeOptions fuel words
        else
          match words with
          | [] => Run.emit 1 (← optionTable (sign == '+')); pure ([], false)
          | name :: words => putNamed (sign == '-') name; takeOptions fuel words
    | [] => pure (word :: words, false)

/-- What is left of a value behind the part that is written so far; `marks` are the single quotes
    that were found behind that part. -/
def quotedRest : (marks : List Char) → List Char → List Char
  | marks, '\'' :: cs => quotedRest ('\'' :: marks) cs
  | [], [] => ['\'']
  | [], c :: cs => c :: quotedRest [] cs
  | marks, cs =>
    "'\"".toList ++ marks ++ '"' :: (match cs with
      | [] => []
      | c :: cs => '\'' :: c :: quotedRest [] cs)

/-- A value between single quotes, where single quotes stand between double ones. -/
def quotedValue (value : List Char) : List Char := '\'' :: quotedRest [] value

/-- Whether two names are in the order of their code points. -/
def inOrder (a b : List Char) : Bool := !b.lex a fun c d => decide (c < d)

/-- The variables that are told by a command, in the order of their names. -/
def tellBindings (command : String) (isTold : Binding → Bool) : Run Nat := do
  let lines := (← Run.session).bindings.filterMap fun (name, b) =>
    if !isTold b then none
    else
      let start := if command = "" then [] else command.toList ++ [' ']
      let value := match b.value with
        | some value => '=' :: quotedValue value
        | none => []
      some (name, start ++ name ++ value ++ ['\n'])
  let sorted := lines.mergeSort fun a b => inOrder a.1 b.1
  write command.toList (sorted.map Prod.snd).flatten

/-- Sets options and arguments, or tells all variables. -/
def set (args : List (List Char)) : Run Nat := do
  if args = [] then tellBindings "" (·.value.isSome)
  else
    let (words, always) ← takeOptions (args.length + 1) args
    if always || words != [] then
      Run.update fun s => { s with arguments := words, optionPlace := (1, none) }
    pure 0

/-- The name and the value that a word assigns. -/
def splitAssignment (word : List Char) : List Char × Option (List Char) :=
  let name := word.takeWhile (· != '=')
  (name, match word.drop name.length with
    | _ :: value => some value
    | [] => none)

/-- Marks variables, and sets them where values are given. Tells those that are marked where no
    names are. -/
def markBindings (command : String) (mark : Binding → Binding) (isMarked : Binding → Bool)
    (args : List (List Char)) : Run Nat := do
  let (letters, words) ← optionLetters ['p'] args
  if letters != [] || words = [] then tellBindings command isMarked
  else
    for word in words do
      let (name, value) := splitAssignment word
      match value, ← Run.binding? name with
      | none, some b => Run.putBinding name (some (mark b))
      | none, none => Run.changeBinding name fun b => some (mark b)
      | some value, _ => Run.changeBinding name fun b => some (mark { b with value := some value })
    pure 0

/-- Hands variables on to the programs that are started. -/
def export_ : List (List Char) → Run Nat :=
  markBindings "export" (fun b => { b with exported := true }) (·.exported)

/-- Keeps variables from changes. -/
def readonly : List (List Char) → Run Nat :=
  markBindings "readonly" (fun b => { b with isReadOnly := true }) (·.isReadOnly)

/-- Takes variables or functions away. -/
def unset (args : List (List Char)) : Run Nat := do
  let (letters, names) ← optionLetters ['v', 'f'] args
  for name in names do
    if letters.getLast? == some 'f' then
      Run.update fun s => { s with functions := s.functions.filter (·.1 != name) }
    else Run.changeBinding name fun _ => none
  pure 0

/-- Makes variables the function's own until it ends, or the options where a dash is given. They keep
    their values unless others are given. -/
def own (args : List (List Char)) : Run Nat := do
  if (← Run.session).calls = 0 then Run.die 2 "not in a function".toList
  for word in args do
    let (name, value) := splitAssignment word
    if word == ['-'] then
      Run.update fun s => { s with savedOptions := s.savedOptions <|> some s.options }
    else
      let before ← Run.binding? name
      Run.update fun s => { s with saved := (name, before) :: s.saved }
      match value with
      | some value => Run.changeBinding name fun b => some { b with value := some value }
      | none => if !Run.isName name then Run.die 2 (name ++ ": bad variable name".toList)
  pure 0

/-- Gives commands other names, or tells those that they have. -/
def setAliases (args : List (List Char)) : Run Nat := do
  let line (name value : List Char) : List Char := name ++ '=' :: quotedValue value ++ ['\n']
  let known := (← Run.session).aliases
  if args = [] then
    write "alias".toList ((known.mergeSort fun a b => inOrder a.1 b.1).map fun (name, value) =>
      line name value).flatten
  else
    let mut status := 0
    for word in args do
      let (name, value) := splitAssignment word
      match value, (← Run.session).aliases.lookup name with
      | some value, _ =>
        Run.update fun s => { s with aliases := (name, value) :: s.aliases.filter (·.1 != name) }
      | none, some value => Run.emit 1 (line name value)
      | none, none =>
        Run.emit 2 ("alias: ".toList ++ name ++ " not found\n".toList)
        status := 1
    pure status

/-- Takes other names of commands away. -/
def unalias (args : List (List Char)) : Run Nat := do
  let (letters, names) ← optionLetters ['a'] args
  if letters != [] then
    Run.update fun s => { s with aliases := [] }
    pure 0
  else
    let mut status := 0
    for name in names do
      if (← Run.session).aliases.any (·.1 == name) then
        Run.update fun s => { s with aliases := s.aliases.filter (·.1 != name) }
      else
        Run.emit 2 ("unalias: ".toList ++ name ++ " not found\n".toList)
        status := 1
    pure status

/-- Says what is run on signals, or tells it. A dash, or a number in front of all, gives a signal
    back what it does by itself. -/
def trap (args : List (List Char)) : Run Nat := do
  let (_, args) ← optionLetters [] args
  let known := (← Run.session).traps
  let assign (action : Option (List Char)) (words : List (List Char)) : Run Nat := do
    for word in words do
      match signal? true word with
      | none =>
        Run.emit 2 ("trap: ".toList ++ word ++ ": bad trap\n".toList)
        return 1
      | some signal =>
        Run.update fun s =>
          let others := s.traps.filter (·.1 != signal)
          { s with traps := match action with
            | some action => (signal, action) :: others
            | none => others }
    pure 0
  match args with
  | [] =>
    write "trap".toList ((known.mergeSort fun a b => decide (a.1 ≤ b.1)).map fun (signal, action) =>
      "trap -- ".toList ++ quotedValue action ++ ' ' :: signalName signal ++ ['\n']).flatten
  | [word] => assign none [word]
  | word :: words =>
    if (natural? word).any (· < signalCount) then assign none (word :: words)
    else assign (if word == ['-'] then none else some word) words

/-- Sends signals to programs, or tells their names. -/
def kill (args : List (List Char)) : Run Nat := do
  let usage {α : Type} : Run α := Run.die 2
    ("Usage: kill [-s sigspec | -signum | -sigspec] [pid | job]... or\n".toList ++
      "kill -l [exitstatus]".toList)
  let tell (targets : List (List Char)) : Run Nat := do
    match targets with
    | [] =>
      write "kill".toList ("0\n".toList ++ ((List.range signalCount).drop 1).flatMap fun n =>
        signalName n ++ ['\n'])
    | word :: _ =>
      let n ← number word
      let signal := if n > 128 then n - 128 else n
      if 0 < signal && signal < signalCount then write "kill".toList (signalName signal ++ ['\n'])
      else Run.die 2 ("invalid signal number or exit status: ".toList ++ word)
  let send (signal : Nat) (targets : List (List Char)) : Run Nat := do
    if targets = [] then usage
    let mut status := 0
    for target in targets do
      let n ← number (if target.head? == some '-' then target.tail else target)
      let h ← Run.host
      if h.alive.contains n then
        if signal != 0 then Run.updateHost fun h => { h with pending := h.pending ++ [(n, signal)] }
      else
        match h.jobs.find? fun job => job.number = n && job.outcome.isNone && job.killed.isNone with
        | some _ =>
          if signalEffect signal = .terminate then
            Run.updateHost fun h => { h with jobs := h.jobs.map fun job =>
              if job.number = n then { job with killed := some signal } else job }
        | none =>
          Run.complain "No such process\n".toList
          status := 1
    pure status
  match args with
  | [] => usage
  | word :: rest =>
    if word.head? != some '-' then send 15 args
    else
      match signal? false word.tail with
      | some signal => send signal rest
      | none =>
        match word, rest with
        | ['-', '-'], rest => send 15 rest
        | ['-', 'l'], rest => tell rest
        | ['-', 's'], name :: rest =>
          match signal? false name with
          | some signal => send signal rest
          | none => Run.die 2 ("invalid signal number or name: ".toList ++ name)
        | ['-', 's'], [] => Run.die 2 "No arg for -s option".toList
        | '-' :: 's' :: name, rest =>
          match signal? false name with
          | some signal => send signal rest
          | none => Run.die 2 ("invalid signal number or name: ".toList ++ name)
        | ['-'], rest => send 15 (['-'] :: rest)
        | word, _ => Run.die 2 ("Illegal option ".toList ++ word.take 2)

end NativeExtension.Shell.Builtin

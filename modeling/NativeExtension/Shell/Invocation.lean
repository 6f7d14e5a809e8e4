import NativeExtension.Program.Dump
import NativeExtension.Program.Expression
import NativeExtension.Program.Finding
import NativeExtension.Program.Order
import NativeExtension.Program.Search
import NativeExtension.Program.StreamEditor
import NativeExtension.Shell.Process
import NativeExtension.Shell.Redirection

/-!
Starting programs: those of the host, scripts, and the functions of a script. The functions take
what runs statements as an argument, since a program can be a script itself. How deep programs may
stand in for others is bounded; a script that goes beyond counts as one that never ends.
-/
namespace NativeExtension.Shell

/-- The time that it takes to start a program. -/
def startMicros : Nat := 1000

namespace Run

/-- The variables that a shell knows from its start. Of those that it sets itself some can be given
    to it. -/
def initialBindings (s : Session) : List (List Char × Binding) :=
  let given := s.bindings.filter fun (name, b) => b.exported && isName name
  let isGiven (name : List Char) : Bool := given.any (·.1 == name)
  let set (name value : String) : List Char × Binding :=
    (name.toList, ⟨some value.toList, isGiven name.toList, false⟩)
  let always := [set "IFS" " \t\n", set "OPTIND" "1", set "PPID" (toString s.parent),
    ("PWD".toList, ⟨some s.directory, true, false⟩)]
  let usual := [set "PATH" "/usr/local/sbin:/usr/local/bin:/usr/sbin:/usr/bin:/sbin:/bin",
    set "PS1" "$ ", set "PS2" "> ", set "PS4" "+ "].filter fun (name, _) => !isGiven name
  let taken := always ++ usual
  taken ++ given.filter fun (name, _) => !taken.any (·.1 == name)

/-- The directory that a shell starts in as it was gone to, if what it was told of that is right. -/
def initialDirectory : Run (List Char) := do
  let t ← files
  let physical ← Builtin.physicalDirectory
  match ← value? "PWD".toList with
  | some path =>
    match t.find (Text.Octets.toString path) with
    | .ok (l, _) => pure (if path.head? == some '/' && l = t.current then path else physical)
    | .error _ => pure physical
  | none => pure physical

/-- Takes the options in front of a shell's other arguments. Gives those, and whether the first of
    them is the text of a script. -/
def shellOptions : (fuel : Nat) → List (List Char) → Run (List (List Char) × Bool)
  | 0, words => pure (words, false)
  | _, [] => pure ([], false)
  | fuel + 1, word :: words => do
    match word with
    | ['-', '-'] | ['-'] => pure (words, false)
    | sign :: letters =>
      if sign != '-' && sign != '+' then pure (word :: words, false)
      else
        let named ← Builtin.putOptions (sign == '-') (letters.filter (· != 'c'))
        let words ← match named, words with
          | 0, words => pure words
          | _, [] => emit 1 (← Builtin.optionTable (sign == '+')); pure []
          | _, name :: words => Builtin.putNamed (sign == '-') name; pure words
        let (words, isText) ← shellOptions fuel words
        pure (words, isText || letters.contains 'c')
    | [] => pure (word :: words, false)

/-- Runs a shell: on the text behind its options, on the file that they name, or on what is read. -/
def shell (run : Runner) (args : List (List Char)) : Run Nat := do
  let own := args.headD []
  let directory ← initialDirectory
  update fun s => { s with
    name := own
    arguments := []
    functions := []
    aliases := []
    status := 0
    line := 0
    command := none
    number := s.process
    latest := none
    loops := 0
    calls := 0
    options := []
    traps := s.traps.filter (·.2 = [])
    saved := []
    savedOptions := none
    optionPlace := (1, none)
    directory
    places := [] }
  update fun s => { s with bindings := initialBindings s }
  toItsEnd run do
    let (operands, isText) ← shellOptions (args.length + 1) args.tail
    match operands, isText with
    | [], true => die 2 "-c requires an argument".toList
    | text :: rest, true =>
      update fun s => { s with name := rest.headD own, arguments := rest.tail }
      scriptText run false true text
    | [], false =>
      Builtin.putOption 's' true
      scriptText run true false (← takeAll 0)
    | path :: rest, false =>
      if (← hasOption 's') then
        update fun s => { s with arguments := path :: rest }
        scriptText run true false (← takeAll 0)
      else
        let t ← files
        match t.readUpTo (Text.Octets.toString path) 0 with
        | .ok (content, _) =>
          update fun s => { s with name := path, arguments := rest }
          scriptText run true false (Text.Octets.ofBytes content)
        | .error .isDirectory => pure ()
        | .error e =>
          die 2
            ("cannot open ".toList ++ path ++ ": ".toList ++ (openingReason e "No such file").toList)

/-- The directories in which programs are looked for. -/
def searchPath : Run (List (List Char)) := do
  match ← value? "PATH".toList with
  | some path => pure (path.splitOn ':')
  | none => pure ["/bin".toList, "/usr/bin".toList]

/-- Finds what runs when a command is started by name. -/
def findProgram (args : List (List Char)) : Run (Except Errno Image) := do
  let paths := Program.candidates (← searchPath) (args.headD [])
  return Program.search (← files) args none .noEntry paths

/-- Runs a step as a program of its own that was started by the one that runs. -/
def asStarted (step : Run Nat) : Run Exit := do
  let parent := (← session).process
  asProgram (← newNumber) do
    update fun s => { s with parent }
    match ← caught do spend startMicros; step with
    | .ok status => pure status
    | .error halt => return (← ending (.error halt)).1

/-- How a program that is no shell starts others. To those a name without letters is that of no
    file. -/
def launcher (step : Image → Run Nat) : Utility.Launcher :=
  let find (words : List (List Char)) : Run (Except Errno Image) :=
    if words.headD [] = [] then pure (.error .noEntry) else findProgram words
  { become words := do
      match ← find words with
      | .ok image => Except.ok <$> step image
      | .error e => pure (.error e)
    start words := do
      match ← find words with
      | .ok image => Except.ok <$> asStarted (step image)
      | .error e => pure (.error e) }

/-- The host's own programs, given how they start others. -/
def utility (run : Runner) (launcher : Utility.Launcher) : Program → Utility.Tool
  | .basename => Utility.baseNames
  | .cat => Utility.cat
  | .chmod => Utility.changeMode
  | .cmp => Utility.compareFiles
  | .cp => Utility.copy
  | .cut => Utility.cut
  | .dirname => Utility.directoryNames
  | .echo => Utility.echo
  | .env => Utility.withEnvironment launcher
  | .expr => Utility.expression
  | .failure => fun _ => pure 1
  | .find => Utility.find launcher
  | .fold => Utility.fold
  | .grep => Utility.search
  | .head => Utility.excerpt '-' Utility.Extent.first
  | .install => Utility.place
  | .ln => Utility.link
  | .ls => Utility.listNames
  | .mkdir => Utility.mkdir
  | .mktemp => Utility.makeTemporary
  | .mv => Utility.move
  | .nice => Utility.withPriority launcher
  | .nl => Utility.numberLines
  | .nohup => Utility.withoutHangup launcher
  | .od => Utility.dump
  | .paste => Utility.paste
  | .printenv => Utility.printenv
  | .printf => Utility.printf
  | .pwd => Utility.pwd
  | .readlink => Utility.linkTargets
  | .realpath => Utility.canonicalPaths
  | .rev => Utility.reverseLines
  | .rm => Utility.rm
  | .rmdir => Utility.rmdir
  | .sed => Utility.editStream
  | .seq => Utility.sequence
  | .setsid => Utility.apartFromOthers launcher
  | .shell => fun _ => pure 0
  | .sleep => fun args => do
    if let some micros := Utility.sleepMicros? args then
      runJobsUntil run ((← host).spent + micros)
    Utility.sleep args
  | .sort => Utility.sort
  | .stat => Utility.tellFacts
  | .success => fun _ => pure 0
  | .tac => Utility.reverseOrder
  | .tail => Utility.excerpt '+' Utility.Extent.last
  | .tee => Utility.branchOff
  | .test => Utility.test
  | .timeout => Utility.limitTime launcher
  | .touch => Utility.touch
  | .tr => Utility.replaceCharacters
  | .uname => Utility.tellHost
  | .uniq => Utility.unique
  | .wc => Utility.count
  | .which => Utility.locate
  | .xargs => Utility.collectArguments launcher
  | .yes => Utility.yes

/-- Runs a program in the session as it is, and gives its status. What it writes has to arrive where
    it is written to. `depth` bounds how many programs may stand in for another. -/
def perform (run : Runner) : (depth : Nat) → Image → Run Nat
  | 0, _ => throw .expired
  | depth + 1, ⟨program, args⟩ => do
    update fun s => { s with
      name := args.headD []
      bindings := s.bindings.filter (·.2.exported)
      command := none
      lost := none }
    if program = .shell then shell run args
    else
      match ← caught (utility run (launcher (perform run depth)) program args.tail) with
      | .ok status | .error (.ended status) =>
        match (← session).lost with
        | none => pure status
        | some e =>
          update fun s => { s with lost := none }
          Utility.lostOutput program e
      | .error halt => throw halt

/-- Runs a program in a session of its own, and gives how it ended. -/
def execute (run : Runner) (depth : Nat) (image : Image) : Run Exit :=
  asStarted (perform run depth image)

/-- The path at which a program is found by its name. -/
def placeOf? (name : List Char) : Run (Option (List Char)) := do
  let t ← files
  return (Program.candidates (← searchPath) name).find? fun path =>
    match t.find (Text.Octets.toString path) with
    | .ok (_, .file _ mode) => FileTree.mayExecute mode
    | _ => false

/-- What runs when a command of a script is started. A file that is no program and names none is a
    script. -/
def findCommand (args : List (List Char)) : Run (Except Errno Image) := do
  match ← findProgram args with
  | .error .notExecutable =>
    let name := args.headD []
    let path ← if name.contains '/' then pure name else pure ((← placeOf? name).getD name)
    pure (.ok ⟨.shell, "/bin/sh".toList :: path :: args.tail⟩)
  | found => pure found

/-- Says that a program cannot be started, and gives the status for that. -/
def refuseStart (subject : List Char) (e : Errno) : Run Nat := do
  complain (subject ++ ": ".toList ++ (openingReason e "not found").toList)
  pure (if Program.isAbsence e || e = .linkLoop || e = .nameTooLong then 127 else 126)

/-- Remembers where a program was found. -/
def remember (name : List Char) : Run Unit := do
  if !name.contains '/' then
    if let some path ← placeOf? name then
      update fun s => { s with
        places :=
          if s.places.any (·.1 == name) then
            s.places.map fun old => if old.1 == name then (name, path, false) else old
          else s.places ++ [(name, path, false)] }

/-- The shelf, of so many, on which a shell keeps what it knows of a name. -/
def shelf (count : Nat) (name : List Char) : Nat :=
  ((name.headD '\x00').toNat * 16 + (name.map Char.toNat).foldl (· + ·) 0) % count

/-- How many shelves a shell has for variables. -/
def variableShelves : Nat := 39

/-- How many shelves a shell has for commands. -/
def commandShelves : Nat := 31

/-- Leaves only the variables that are handed on to programs, shelf after shelf. -/
def handOn : Run Unit :=
  update fun s => { s with
    bindings := (s.bindings.filter (·.2.exported)).mergeSort fun a b =>
      decide (shelf variableShelves a.1 ≤ shelf variableShelves b.1) }

/-- Starts a program, waits for its end, and gives its status. The last command of a program turns
    it into the program that is started, unless something is to be run at its end. -/
def external (run : Runner) (depth : Nat) (last : Bool) (args : List (List Char)) : Run Nat := do
  let name := args.headD []
  match ← findCommand args with
  | .error e =>
    let status ← refuseStart name e
    -- A name that is looked for and stands nowhere for a program that may run is not found.
    if name.contains '/' || (← placeOf? name).isSome then pure status else pure 127
  | .ok image =>
    remember name
    if last && (← session).traps.all (·.2 = []) then
      spend startMicros
      handOn
      throw (.ended (← perform run depth image))
    else awaited (← asStarted do handOn; perform run depth image)

/-- Gives variables back what they held. -/
def giveBack (saved : List (List Char × Option Binding)) : Run Unit := do
  for (name, old) in saved do putBinding name old

/-- How deep calls of functions may stand in each other. -/
def callLimit : Nat := 1000

/-- Calls a function. -/
def callFunction (run : Runner) (tested : Bool) (body : Statement) (args : List (List Char)) :
    Run Nat := do
  let before ← session
  if before.calls ≥ callLimit then
    die 2 ("Maximum function recursion depth (".toList ++ (toString callLimit).toList ++
      ") reached".toList)
  update fun s => { s with
    arguments := args
    loops := 0
    calls := s.calls + 1
    saved := []
    savedOptions := none
    optionPlace := (1, none) }
  let result ← caught (run (.inner tested) body)
  giveBack (← session).saved
  update fun s => { s with
    options := s.savedOptions.getD s.options
    savedOptions := before.savedOptions
    arguments := before.arguments
    loops := before.loops
    calls := before.calls
    saved := before.saved
    optionPlace := before.optionPlace }
  match result with
  | .ok () => return (← session).status
  | .error (.returned status) => pure status
  | .error halt => throw halt

/-- Runs a program in place of the script. -/
def replace (run : Runner) (depth : Nat) (args : List (List Char)) : Run Nat := do
  match ← findCommand args with
  | .error e => throw (.exited (← refuseStart (args.headD []) e))
  | .ok image =>
    spend startMicros
    handOn
    throw (.ended (← perform run depth image))

/-- Runs the statements of another file. One that is named without a slash is looked for where
    programs are. -/
def source (run : Runner) (args : List (List Char)) : Run Nat := do
  let (_, args) ← Builtin.optionLetters [] args
  match args with
  | [] => pure 0
  | name :: _ =>
    let t ← files
    let read (path : List Char) : Except Errno ByteArray :=
      (t.readUpTo (Text.Octets.toString path) 0).map Prod.fst
    let path ←
      if name.contains '/' then pure name
      else
        let found := (Program.candidates (← searchPath) name).find? fun path => (read path).isOk
        match found with
        | some path => pure path
        | none => die 2 (name ++ ": not found".toList)
    match read path with
    | .ok content =>
      let s ← session
      update fun s => { s with loops := 0, status := 0, command := some path }
      let result ← caught (scriptText run true false (Text.Octets.ofBytes content))
      update fun t => { t with line := s.line, loops := s.loops }
      match result with
      | .ok () => return (← session).status
      | .error (.returned status) => pure status
      | .error halt => throw halt
    | .error .isDirectory => pure 0
    | .error e =>
      die 2 ("cannot open ".toList ++ path ++ ": ".toList ++ (openingReason e "No such file").toList)

/-- Runs its arguments as a script. -/
def evaluate (run : Runner) (tested : Bool) (args : List (List Char)) : Run Nat := do
  let line := (← session).line
  setStatus 0
  scriptText (fun manner s => run { manner with tested := manner.tested || tested } s) false false
    ([' '].intercalate args)
  update fun s => { s with line }
  return (← session).status

/-- Runs a program in place of the script, or just goes on. -/
def exec (run : Runner) (depth : Nat) (args : List (List Char)) : Run Nat := do
  let (_, args) ← Builtin.optionLetters [] args
  if args = [] then pure 0 else replace run depth args

/-- The built-in commands that change the shell itself and run nothing else. -/
def plainSpecial? (name : List Char) : Option (List (List Char) → Run Nat) :=
  match String.ofList name with
  | ":" => some fun _ => pure 0
  | "break" => some (Builtin.leave .broken)
  | "continue" => some (Builtin.leave .continued)
  | "exit" => some Builtin.exit
  | "export" => some Builtin.export_
  | "local" => some Builtin.own
  | "readonly" => some Builtin.readonly
  | "return" => some Builtin.return_
  | "set" => some Builtin.set
  | "shift" => some Builtin.shift
  | "times" => some Builtin.times
  | "trap" => some Builtin.trap
  | "unset" => some Builtin.unset
  | _ => none

/-- The built-in commands that change the shell itself. A mistake in one of them ends the script. -/
def special? (run : Runner) (depth : Nat) (tested : Bool) (name : List Char) :
    Option (List (List Char) → Run Nat) :=
  match String.ofList name with
  | "eval" => some (evaluate run tested)
  | "." => some (source run)
  | "exec" => some (exec run depth)
  | _ => plainSpecial? name

/-- The other built-in commands that run nothing else. -/
def plainBuiltin? (name : List Char) : Option (List (List Char) → Run Nat) :=
  match String.ofList name with
  | "[" | "test" => some (Builtin.test name)
  | "alias" => some Builtin.setAliases
  | "bg" | "fg" => some fun _ => die 2 "No current job".toList
  | "cd" | "chdir" => some Builtin.cd
  | "echo" => some Builtin.echo
  | "false" => some fun _ => pure 1
  | "getopts" => some Builtin.getopts
  | "jobs" => some fun _ => pure 0
  | "kill" => some Builtin.kill
  | "printf" => some Builtin.printf
  | "pwd" => some Builtin.pwd
  | "read" => some Builtin.read
  | "true" => some fun _ => pure 0
  | "ulimit" => some Builtin.limit
  | "umask" => some Builtin.mask
  | "unalias" => some Builtin.unalias
  | _ => none

/-- Whether a name is one of a built-in command. Those that change the shell itself are told apart.
    -/
def builtinKind? (name : List Char) : Option Bool :=
  if (plainSpecial? name).isSome || [".", "eval", "exec"].any (·.toList == name) then some true
  else if (plainBuiltin? name).isSome ||
    ["command", "hash", "type", "wait"].any (·.toList == name) then some false
  else none

/-- Says what a name of a command means: in words, or as it would be written. -/
def describe (inWords : Bool) (name : List Char) : Run Nat := do
  let s ← session
  let tell (words plain : List Char) : Run Nat := do
    emit 1 ((if inWords then name ++ words else plain) ++ ['\n'])
    pure 0
  if reservedWords.contains name then tell " is a shell keyword".toList name
  else if let some value := s.aliases.lookup name then
    tell (" is an alias for ".toList ++ value)
      ("alias ".toList ++ name ++ '=' :: Builtin.quotedValue value)
  else if let some isSpecial := if name.contains '/' then none else builtinKind? name then
    let kind := if isSpecial then " is a special shell builtin" else " is a shell builtin"
    if isSpecial || (s.functions.lookup name).isNone then tell kind.toList name
    else tell " is a shell function".toList name
  else if (s.functions.lookup name).isSome then tell " is a shell function".toList name
  else
    let there ←
      if name.contains '/' then
        pure (match (← files).find (Text.Octets.toString name) with
          | .ok _ => some name
          | .error _ => none)
      else placeOf? name
    match there with
    | some path =>
      let known := (s.places.lookup name).isSome
      remember name
      tell ((if known then " is a tracked alias for " else " is ").toList ++ path) path
    | none =>
      if inWords then emit 1 (name ++ ": not found\n".toList)
      pure 127

/-- Says what names of commands mean. -/
def type (names : List (List Char)) : Run Nat := do
  let mut status := 0
  for name in names do
    let n ← describe true name
    if n != 0 then status := n
  pure status

/-- Tells or forgets where programs were found, or looks for them. -/
def hash (args : List (List Char)) : Run Nat := do
  let (letters, names) ← Builtin.optionLetters ['r'] args
  if letters != [] then
    update fun s => { s with places := [] }
    pure 0
  else if names = [] then
    let sorted := (← session).places.mergeSort fun a b =>
      decide (shelf commandShelves a.1 ≤ shelf commandShelves b.1)
    Builtin.write "hash".toList (sorted.flatMap fun (_, path, isStale) =>
      path ++ if isStale then ['*', '\n'] else ['\n'])
  else
    let mut status := 0
    for name in names do
      let isKnown := (builtinKind? name).isSome || ((← session).functions.lookup name).isSome
      if !isKnown then
        if (← placeOf? name).isSome then remember name
        else
          match ← findProgram [name] with
          | .error e => complain (name ++ ": ".toList ++ (openingReason e "not found").toList)
          | .ok _ => pure ()
          status := 1
    pure status

/-- The other built-in commands. -/
def builtin? (run : Runner) (name : List Char) : Option (List (List Char) → Run Nat) :=
  match String.ofList name with
  | "hash" => some hash
  | "type" => some type
  | "wait" => some (wait run)
  | _ => plainBuiltin? name

end Run

end NativeExtension.Shell

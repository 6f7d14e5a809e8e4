import NativeExtension.Command.Letters
import NativeExtension.Files.Permission
import NativeExtension.Shell.Condition
import NativeExtension.Shell.Format
import NativeExtension.Shell.Machine
import NativeExtension.Shell.Pattern

/-!
The commands that a shell has built in and that run nothing else. Each takes its arguments without
its own name and gives its status. Mistakes end the script; whether it goes on all the same is for
those to say who run the command.
-/
namespace NativeExtension.Shell.Builtin

/-- Complains about a word that is no number, and ends the script. -/
def illegalNumber {α : Type} (word : List Char) : Run α :=
  Run.die 2 ("Illegal number: ".toList ++ word)

/-- The number that a word spells, which is not below zero and fits into a signed 32-bit word. -/
def number (word : List Char) : Run Nat := do
  match integer? word with
  | some n => if 0 ≤ n && n < 1 <<< 31 then pure n.toNat else illegalNumber word
  | none => illegalNumber word

/-- The first argument as a number, or a value where there is none. -/
def count (fallback : Nat) : List (List Char) → Run Nat
  | [] => pure fallback
  | word :: _ => number word

/-- Reads the options in front of the arguments. What is no option ends the script. -/
def chosen (plain valued : List Char) (args : List (List Char)) : Run Command.Chosen := do
  match (⟨plain, valued, [], false⟩ : Command.Letters).read args with
  | .ok c => pure c
  | .error (.noValue c) => Run.die 2 ("No arg for -".toList ++ c :: " option".toList)
  | .error (.unknown c) => Run.die 2 ("Illegal option -".toList ++ [c])
  | .error _ => Run.die 2 "Illegal option --".toList

/-- The letters of the options in front of the arguments, and those. A letter that is not allowed
    ends the script. -/
def optionLetters (allowed : List Char) (args : List (List Char)) :
    Run (List Char × List (List Char)) := do
  let c ← chosen allowed [] args
  pure (c.options.map Prod.fst, c.operands)

/-- Writes octets, or says that they cannot be written. -/
def write (name : List Char) (cs : List Char) : Run Nat := do
  match ← Run.writeFault? 1 with
  | none => Run.emit 1 cs; pure 0
  | some _ =>
    if cs = [] then pure 0
    else
      Run.complain (name ++ ": I/O error".toList)
      pure 1

/-- Ends the script. -/
def exit (args : List (List Char)) : Run Nat := do
  throw (.exited (← count (← Run.session).status args))

/-- Ends the function. -/
def return_ (args : List (List Char)) : Run Nat := do
  throw (.returned (← count (← Run.session).status args))

/-- Ends loops, or their rounds. Outside loops it does nothing. -/
def leave (halt : Nat → Halt) (args : List (List Char)) : Run Nat := do
  let n ← count 1 args
  if n = 0 then illegalNumber (args.headD [])
  let loops := (← Run.session).loops
  if loops = 0 then pure 0 else throw (halt (min n loops))

/-- Takes away the first arguments. -/
def shift (args : List (List Char)) : Run Nat := do
  let n ← count 1 args
  if n > (← Run.session).arguments.length then Run.die 2 "can't shift that many".toList
  Run.update fun s => { s with arguments := s.arguments.drop n, optionPlace := (1, none) }
  pure 0

/-- The names of a directory that is gone to from another: points are left out, and two of them take
    away the name before them. -/
def joinedNames (here : List (List Char)) (path : List Char) : List (List Char) :=
  let start := if path.head? == some '/' then [] else here.filter (· != [])
  (path.splitOn '/').foldl (fun names name =>
    if name = [] || name == ['.'] then names
    else if name == ['.', '.'] then names.dropLast
    else names ++ [name]) start

/-- Whether a path starts with two slashes and no more, which are kept. -/
def isDoubled (path : List Char) : Bool :=
  "//".toList.isPrefixOf path && !"///".toList.isPrefixOf path

/-- The text of a directory that is gone to from another. -/
def directoryText (old path : List Char) : List Char :=
  let start := if path.head? == some '/' then path else old
  (if isDoubled start then ['/'] else []) ++
    '/' :: ['/'].intercalate (joinedNames (old.splitOn '/') path)

/-- The text of the directory that relative paths start in, links followed. -/
def physicalDirectory : Run (List Char) :=
  return Text.Octets.ofString (FileTree.locationText (← Run.files).current)

/-- Goes to a directory if there is one. Points in its path are taken by their text, unless links are
    to be followed. -/
def goTo (physical : Bool) (path : List Char) : Run Bool := do
  let t ← Run.files
  let old := (← Run.session).directory
  let text := if physical then path else directoryText old path
  match t.find (Text.Octets.toString text) with
  | .ok (l, .directory _) =>
    Run.setFiles { t with current := l }
    let new ← if physical then physicalDirectory else pure text
    Run.update fun s => { s with
      directory := new
      places := s.places.map fun (name, path, _) => (name, path, true) }
    let put (name value : List Char) : Run Unit :=
      Run.changeBinding name fun b => some { b with value := some value, exported := true }
    put "OLDPWD".toList old
    put "PWD".toList new
    pure true
  | _ => pure false

/-- The directories in which a relative path is looked for, and whether the one that is found is
    told. -/
def homesOf (path : List Char) : Run (List (List Char × Bool)) := do
  let isPlain := path.head? == some '/' ||
    [['.'], ['.', '.']].any fun p => p == path || (p ++ ['/']).isPrefixOf path
  match ← Run.value? "CDPATH".toList with
  | some homes =>
    if isPlain then pure [(path, false)]
    else pure ((homes.splitOn ':').map (fun home =>
      if home = [] then (path, false) else (home ++ '/' :: path, true)) ++ [(path, false)])
  | none => pure [(path, false)]

/-- Goes to a directory: the one that is named, the one before where a dash is given, or the user's
    own. -/
def cd (args : List (List Char)) : Run Nat := do
  let (letters, args) ← optionLetters ['L', 'P'] args
  let physical := letters.getLast? == some 'P'
  let (path, told) ← match args with
    | [] => pure ((← Run.value? "HOME".toList).getD [], false)
    | ['-'] :: _ => pure ((← Run.value? "OLDPWD".toList).getD [], true)
    | path :: _ => pure (path, false)
  let path := if path = [] then ['.'] else path
  for (candidate, isTold) in ← homesOf path do
    if ← goTo physical candidate then
      if told || isTold then
        let here := (← Run.session).directory
        let _ ← write "cd".toList (here ++ ['\n'])
      return 0
  Run.die 2 ("can't cd to ".toList ++ path)

/-- Writes the directory as it was gone to, or with links followed. -/
def pwd (args : List (List Char)) : Run Nat := do
  let (letters, _) ← optionLetters ['L', 'P'] args
  let here ← if letters.getLast? == some 'P' then physicalDirectory
    else pure (← Run.session).directory
  write "pwd".toList (here ++ ['\n'])

/-- Writes words with blanks between them. -/
def echo (args : List (List Char)) : Run Nat := write "echo".toList (Format.echo args)

/-- Writes words after a format. -/
def printf (args : List (List Char)) : Run Nat := do
  let (_, args) ← optionLetters [] args
  match args with
  | [] => Run.die 2 "usage: printf format [arg ...]".toList
  | format :: words =>
    let p := Format.print false format words
    let isFatal (c : Format.Complaint) : Bool :=
      match c with
      | .missingCharacter | .invalidDirective _ => true
      | _ => false
    for c in p.complaints.filter (!isFatal ·) do Run.complain c.text
    let status ← write "printf".toList p.written
    match p.complaints.find? isFatal with
    | some c => Run.die 2 c.text
    | none => pure (if p.complaints = [] then status else 1)

/-- Whether a condition holds, as a status. -/
def test (name : List Char) (args : List (List Char)) : Run Nat := do
  let args ←
    if name != ['['] then pure args
    else if args.getLast? == some [']'] then pure args.dropLast
    else Run.die 2 "missing ]".toList
  match Condition.holds (← Run.files) 4 args with
  | .ok holds => pure (if holds then 0 else 1)
  | .error e => Run.die 2 e.text

/-- A line without the backslashes that quote characters in it, each character with whether it was
    quoted, and whether the last backslash quotes the end of the line. -/
def withoutBackslashes : List Char → List Marked × Bool
  | [] => ([], false)
  | ['\\'] => ([], true)
  | '\\' :: c :: rest => let (cs, continued) := withoutBackslashes rest; (⟨c, true⟩ :: cs, continued)
  | c :: rest => let (cs, continued) := withoutBackslashes rest; (⟨c, false⟩ :: cs, continued)

/-- Takes the next line, and those that continue it, and whether a line feed ended it. Every line
    spends fuel. -/
def takeContinued : (fuel : Nat) → Run (List Marked × Bool)
  | 0 => pure ([], false)
  | fuel + 1 => do
    let (line, ended) ← Run.takeLine 0
    let (cs, continued) := withoutBackslashes line
    if continued && ended then
      let (more, ended) ← takeContinued fuel
      pure (cs ++ more, ended)
    else pure (cs, ended)

/-- Splits a line among names; the last one gets all that is left, without blanks at its end and
    without a separator that ends it alone. -/
def shares (separators : List Char) : List (List Char) → List Marked → List (List Char × List Char)
  | [], _ => []
  | [name], line =>
    let isMark (m : Marked) : Bool := !m.literal && separators.contains m.char
    let isGap (m : Marked) : Bool := isMark m && isCalculationBlank m.char
    let text := ((line.dropWhile isGap).reverse.dropWhile isGap).reverse
    let value :=
      match text.reverse with
      | last :: before =>
        let start := (before.dropWhile isGap).reverse
        if isMark last && !start.any isMark then start else text
      | [] => []
    [(name, value.map Marked.char)]
  | name :: names, line =>
    let isMark (m : Marked) : Bool := !m.literal && separators.contains m.char
    let isGap (m : Marked) : Bool := isMark m && isCalculationBlank m.char
    let line := line.dropWhile isGap
    let value := line.takeWhile (!isMark ·)
    let rest := (line.drop value.length).dropWhile isGap
    let rest := match rest with
      | m :: after => if isMark m then after else rest
      | [] => []
    (name, value.map Marked.char) :: shares separators names rest

/-- Reads a line into variables. Backslashes in it quote characters and continue it on the next line
    unless the option `-r` is given. -/
def read (args : List (List Char)) : Run Nat := do
  let c ← chosen ['r'] ['p'] args
  let names := c.operands
  if names = [] then Run.die 2 "arg count".toList
  let (line, ended) ←
    if c.has 'r' then
      let (line, ended) ← Run.takeLine 0
      pure (line.map fun c => (⟨c, false⟩ : Marked), ended)
    else takeContinued Run.lineLimit
  let separators := (← Run.value? "IFS".toList).getD [' ', '\t', '\n']
  for (name, value) in shares separators names (line.filter (·.char != '\x00')) do
    Run.setVariable name value
  pure (if ended then 0 else 1)

/-- Four octal digits at least. -/
def octalText (n : Nat) : List Char :=
  let digits := Nat.toDigits 8 n
  List.replicate (4 - digits.length) '0' ++ digits

/-- What the mask leaves to the owner, the group and the others. -/
def symbolicMask (mask : Nat) : List Char :=
  let rights (n : Nat) : List Char :=
    (if n &&& 4 = 0 then ['r'] else []) ++ (if n &&& 2 = 0 then ['w'] else []) ++
      (if n &&& 1 = 0 then ['x'] else [])
  "u=".toList ++ rights (mask >>> 6) ++ ",g=".toList ++ rights (mask >>> 3) ++ ",o=".toList ++
    rights mask

/-- Tells or changes which permission bits new files are not given. -/
def mask (args : List (List Char)) : Run Nat := do
  let (letters, args) ← optionLetters ['S'] args
  let old := (← Run.session).mask
  match args with
  | [] =>
    write "umask".toList ((if letters = [] then octalText old else symbolicMask old) ++ ['\n'])
  | word :: _ =>
    let new ←
      if word.head?.any Char.isDigit then
        if word.all Permission.isOctal then pure (Permission.ofOctal word) else illegalNumber word
      else
        match Permission.changed? 0 true (0o777 - old) word with
        | some mode => pure (0o777 - (mode &&& 0o777))
        | none => Run.die 2 ("Illegal mode: ".toList ++ word)
    Run.update fun s => { s with mask := new &&& 0o777 }
    pure 0

/-- The next option among words. `place` is the word that is looked at, counted from one, and the
    place in the word before it if that has letters left. Gives the letter that is found, what its
    argument is set to, the place behind it, and a complaint. -/
structure OptionStep where
  letter : Option Char
  argument : Option (Option (List Char))
  place : Nat × Option Nat
  complaint : List Char

/-- Looks for the next option among words. A colon behind a letter in the specification says that
    the option has an argument, and one in front of all letters that nothing is to be complained
    about. -/
def nextOption (specification : List Char) (words : List (List Char)) (place : Nat × Option Nat) :
    OptionStep :=
  let (index, offset) := place
  let index := max index 1
  let silent := specification.head? == some ':'
  -- The letters that are left of the word before, or else those of the next word.
  let pending := match offset with
    | some n => if index ≤ 1 then [] else ((words.getD (index - 2) []).drop n)
    | none => []
  let (letters, index, ended) :=
    if pending != [] then (pending, index, false)
    else
      match words.drop (index - 1) with
      | ('-' :: '-' :: []) :: _ => ([], index + 1, true)
      | ('-' :: c :: cs) :: _ => (c :: cs, index + 1, false)
      | _ => ([], index, true)
  match letters, ended with
  | [], _ | _, true => ⟨none, none, (index, none), []⟩
  | c :: rest, false =>
    let offsetOf (rest : List Char) : Option Nat :=
      some ((words.getD (index - 2) []).length - rest.length)
    let known := (List.range specification.length).find? fun i =>
      specification[i]? == some c && c != ':'
    match known with
    | none =>
      if silent then ⟨some '?', some (some [c]), (index, offsetOf rest), []⟩
      else ⟨some '?', some none, (index, offsetOf rest), "Illegal option -".toList ++ [c, '\n']⟩
    | some i =>
      if specification[i + 1]? != some ':' then ⟨some c, some (some []), (index, offsetOf rest), []⟩
      else if rest != [] then ⟨some c, some (some rest), (index, none), []⟩
      else
        match words[index - 1]? with
        | some argument => ⟨some c, some (some argument), (index + 1, none), []⟩
        | none =>
          if silent then ⟨some ':', some (some [c]), (index, offsetOf []), []⟩
          else
            ⟨some '?', some none, (index, offsetOf []),
              "No arg for -".toList ++ c :: " option\n".toList⟩

/-- Puts the next option of the script, or of the words that are given, into a variable. -/
def getopts (args : List (List Char)) : Run Nat := do
  let (_, args) ← optionLetters [] args
  match args with
  | specification :: name :: words =>
    let s ← Run.session
    let words := if words = [] then s.arguments else words
    let place := if s.optionPlace.1 > words.length + 1 then (1, none) else s.optionPlace
    let step := nextOption specification words place
    Run.emit 2 step.complaint
    let argument := "OPTARG".toList
    match step.argument with
    | some (some value) => Run.setVariable argument value
    | some none => Run.changeBinding argument fun _ => none
    | none => pure ()
    Run.setVariable "OPTIND".toList (toString step.place.1).toList
    Run.update fun s => { s with optionPlace := step.place }
    Run.setVariable name [step.letter.getD '?']
    pure (if step.letter.isSome then 0 else 1)
  | _ => Run.die 2 "Usage: getopts optstring var [arg...]".toList

/-- Tells a limit, of which there are none, or takes a new one. -/
def limit (args : List (List Char)) : Run Nat := do
  let (letters, args) ← optionLetters "HSatfdscmlpnvwr".toList args
  match args with
  | [] =>
    if letters.contains 'a' then pure 0 else write "ulimit".toList "unlimited\n".toList
  | [word] =>
    if word == "unlimited".toList || (word != [] && word.all Char.isDigit) then pure 0
    else Run.die 2 "bad number".toList
  | _ => Run.die 2 "too many arguments".toList

/-- The times that programs took, which are not told. -/
def times (_ : List (List Char)) : Run Nat :=
  write "times".toList "0m0.000000s 0m0.000000s\n0m0.000000s 0m0.000000s\n".toList

end NativeExtension.Shell.Builtin

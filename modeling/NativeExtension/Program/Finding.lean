import NativeExtension.Program.Launch
import NativeExtension.Program.Listing

/-!
The program that goes through directories, tests what is there, and does something with what passes.
-/
namespace NativeExtension.Utility

open Shell (Run)

namespace Finding

/-- What is asked of a file, or done with it. -/
inductive Test where
  | always (holds : Bool)
  | name (foldsCase whole : Bool) (p : List Char)
  | kind (letters : List Char)
  | empty
  | mode (atLeast anyOf : Bool) (mode : Nat)
  | size (order : Ordering) (unit count : Nat)
  | print (ending : Char)
  | tell (format : List Char)
  | prune
  | delete
  | execute (words : List (List Char))
  | executeAll (words : List (List Char))
  | quit
  | negation (inner : Test)
  | both (first second : Test)
  | either (first second : Test)
  | list (first second : Test)

/-- Whether a test does something that can be seen, so that nothing is written without being asked
    for. -/
def Test.acts : Test → Bool
  | .print _ | .tell _ | .delete | .execute _ | .executeAll _ => true
  | .negation t => t.acts
  | .both a b | .either a b | .list a b => a.acts || b.acts
  | _ => false

/-- Whether directories are tested behind what is in them. -/
def Test.deletes : Test → Bool
  | .delete => true
  | .negation t => t.deletes
  | .both a b | .either a b | .list a b => a.deletes || b.deletes
  | _ => false

/-- What was asked for: the tests, and how deep they reach. -/
structure Request where
  test : Test
  least : Nat
  most : Option Nat
  contentsFirst : Bool
  followsLinks : Bool

/-- What reading the tests has come to: the options that hold for all, the words that are left, and
    the one in front of them. -/
structure Reading where
  before : List Char
  rest : List (List Char)
  least : Nat
  most : Option Nat
  contentsFirst : Bool

/-- Ends the program with a complaint. -/
def refuse {α : Type} (text : List Char) : Run α := do
  complain text
  quit 1

/-- The permission bits that a word asks for. -/
def modeTest (word : List Char) : Run Test := do
  let (atLeast, anyOf, rest) := match word with
    | '-' :: rest => (true, false, rest)
    | '/' :: rest => (false, true, rest)
    | word => (false, false, word)
  match Permission.changed? 0 false 0 rest with
  | some mode => pure (.mode atLeast anyOf mode)
  | none => refuse ("invalid mode ".toList ++ quoted word)

/-- The size that a word asks for. -/
def sizeTest (word : List Char) : Run Test := do
  let (order, rest) := match word with
    | '+' :: rest => (Ordering.gt, rest)
    | '-' :: rest => (.lt, rest)
    | word => (.eq, word)
  let ds := rest.takeWhile Char.isDigit
  let unit := match rest.drop ds.length with
    | [] | ['b'] => some 512
    | ['c'] => some 1
    | ['w'] => some 2
    | ['k'] => some 1024
    | ['M'] => some 1048576
    | _ => none
  match count? ds, unit with
  | some n, some unit => pure (.size order unit n)
  | _, _ => refuse ("Invalid argument \x60".toList ++ word ++ "' to -size".toList)

mutual

/-- Tests with commas between them. Every step spends fuel. -/
def readList : (fuel : Nat) → Reading → Run (Test × Reading)
  | 0, r => pure (.always true, r)
  | fuel + 1, r => do
    let (first, r) ← readEither fuel r
    match r.rest with
    | word :: rest =>
      if word == [','] then
        let (second, r) ← readList fuel { r with before := word, rest }
        pure (.list first second, r)
      else pure (first, r)
    | [] => pure (first, r)

/-- Tests of which one is to hold. -/
def readEither : (fuel : Nat) → Reading → Run (Test × Reading)
  | 0, r => pure (.always true, r)
  | fuel + 1, r => do
    let (first, r) ← readBoth fuel r
    match r.rest with
    | word :: rest =>
      if word == "-o".toList || word == "-or".toList then
        if rest = [] then refuse ("expected an expression after '".toList ++ word ++ ['\''])
        let (second, r) ← readEither fuel { r with before := word, rest }
        pure (.either first second, r)
      else pure (first, r)
    | [] => pure (first, r)

/-- Tests that are all to hold. -/
def readBoth : (fuel : Nat) → Reading → Run (Test × Reading)
  | 0, r => pure (.always true, r)
  | fuel + 1, r => do
    let (first, r) ← readOne fuel r
    match r.rest with
    | word :: rest =>
      if ["-o", "-or", ",", ")"].any (·.toList == word) then pure (first, r)
      else
        let isWord := word == "-a".toList || word == "-and".toList
        if isWord && rest = [] then
          refuse ("expected an expression after '".toList ++ word ++ ['\''])
        let (second, r) ← readBoth fuel (if isWord then { r with before := word, rest } else r)
        pure (.both first second, r)
    | [] => pure (first, r)

/-- One test. -/
def readOne : (fuel : Nat) → Reading → Run (Test × Reading)
  | 0, r => pure (.always true, r)
  | fuel + 1, r => do
    match r.rest with
    | [] => refuse ("expected an expression after '".toList ++ r.before ++ ['\''])
    | word :: rest =>
      let r := { r with before := word, rest }
      let plain (t : Test) : Run (Test × Reading) := pure (t, r)
      let valued (f : List Char → Run Test) : Run (Test × Reading) := do
        match rest with
        | [] => refuse ("missing argument to \x60".toList ++ word ++ ['\''])
        | value :: rest => pure (← f value, { r with before := value, rest })
      let depth (set : Nat → Reading → Reading) : Run (Test × Reading) := do
        match rest with
        | [] => refuse ("missing argument to \x60".toList ++ word ++ ['\''])
        | value :: rest =>
          match count? value with
          | some n => pure (.always true, set n { r with before := value, rest })
          | none =>
            refuse ("Expected a positive decimal integer argument to ".toList ++ word ++
              ", but got ".toList ++ quoted value)
      match String.ofList word with
      | "(" =>
        let (inner, r) ← readList fuel r
        match r.rest with
        | [')'] :: rest => pure (inner, { r with before := [')'], rest })
        | _ => refuse ("invalid expression; I was expecting to find a ')' somewhere but did not " ++
            "see one.").toList
      | "!" | "-not" =>
        let (inner, r) ← readOne fuel r
        pure (.negation inner, r)
      | "-name" => valued fun p => pure (.name false false p)
      | "-iname" => valued fun p => pure (.name true false p)
      | "-path" | "-wholename" => valued fun p => pure (.name false true p)
      | "-ipath" => valued fun p => pure (.name true true p)
      | "-type" => valued fun letters => do
        let kinds := letters.filter (· != ',')
        match kinds.find? fun c => !"fdlcbps".toList.contains c with
        | some c => refuse ("Unknown argument to -type: ".toList ++ [c])
        | none => pure (.kind kinds)
      | "-empty" => plain .empty
      | "-perm" => valued modeTest
      | "-size" => valued sizeTest
      | "-true" => plain (.always true)
      | "-false" => plain (.always false)
      | "-print" => plain (.print '\n')
      | "-print0" => plain (.print '\x00')
      | "-printf" => valued fun format => pure (.tell format)
      | "-prune" => plain .prune
      | "-delete" => plain .delete
      | "-quit" => plain .quit
      | "-depth" => pure (.always true, { r with contentsFirst := true })
      | "-maxdepth" => depth fun n r => { r with most := some n }
      | "-mindepth" => depth fun n r => { r with least := n }
      | "-exec" =>
        let words := rest.takeWhile fun w => w != [';'] && w != ['+']
        match rest.drop words.length with
        | [] => refuse "missing argument to \x60-exec'".toList
        | stop :: after =>
          let r := { r with before := stop, rest := after }
          if stop == ['+'] && words.getLast? == some ['\x7b', '\x7d'] then
            pure (.executeAll words.dropLast, r)
          else if stop == ['+'] || words = [] then refuse "missing argument to \x60-exec'".toList
          else pure (.execute words, r)
      | _ =>
        if word.head? == some '-' && word.length > 1 then
          refuse ("unknown predicate \x60".toList ++ word ++ ['\''])
        else refuse ("paths must precede expression: \x60".toList ++ word ++ ['\''])

end

/-- A file that is tested: its path, the one that it was found from, its place, how deep that is, and
    what stands there. -/
structure Found where
  path : List Char
  start : List Char
  location : Location
  depth : Nat
  entry : Entry

/-- What a test of a file comes to: whether it holds, whether what is in a directory is left out, what
    is collected for commands, and whether all is over. -/
structure Verdict where
  holds : Bool
  prunes : Bool
  collected : List (List (List Char) × List Char)
  stops : Bool

/-- A verdict that says nothing else. -/
def Verdict.plain (holds : Bool) : Verdict := ⟨holds, false, [], false⟩

/-- Two verdicts one after the other. -/
def Verdict.then (a b : Verdict) : Verdict :=
  ⟨b.holds, a.prunes || b.prunes, a.collected ++ b.collected, a.stops || b.stops⟩

/-- Whether a path or a name matches a pattern. -/
def isNamed (foldsCase : Bool) (p cs : List Char) : Bool :=
  let fold (cs : List Char) := if foldsCase then cs.map Char.toLower else cs
  let rec marked : List Char → List Shell.Marked
    | '\\' :: c :: rest => ⟨c, true⟩ :: marked rest
    | c :: rest => ⟨c, false⟩ :: marked rest
    | [] => []
  (Shell.Pattern.ofMarked (marked (fold p))).isMatch (fold cs)

/-- The letter for what stands somewhere. -/
def kindLetter (e : Entry) : Char :=
  match e with
  | .directory _ => 'd'
  | .link _ => 'l'
  | .file .. => 'f'
  | .device _ => 'c'

/-- How many octets an entry has. -/
def octetCount (e : Entry) : Nat :=
  match e with
  | .file content _ => content.size
  | .link text => text.utf8ByteSize
  | .directory _ => 4096
  | .device _ => 0

/-- A format with what is known of a file that was found. -/
def foundText (f : Found) : List Char → List Char
  | '%' :: letter :: rest =>
    let known := match letter with
      | 'p' => f.path
      | 'f' => baseName f.path
      | 'h' => directoryName f.path
      | 'P' => (f.path.drop f.start.length).dropWhile (· == '/')
      | 'd' => digits f.depth
      | 's' => digits (octetCount f.entry)
      | 'm' => Nat.toDigits 8 (entryMode f.entry)
      | 'y' => [kindLetter f.entry]
      | 'l' =>
        match f.entry with
        | .link text => Text.Octets.ofString text
        | _ => []
      | '%' => ['%']
      | c => ['%', c]
    known ++ foundText f rest
  | c :: rest => c :: foundText f rest
  | [] => []

/-- Tests a file. -/
def Test.verdict (launcher : Launcher) (f : Found) : Test → Run Verdict
  | .always holds => pure (.plain holds)
  | .name foldsCase whole p =>
    pure (.plain (isNamed foldsCase p (if whole then f.path else baseName f.path)))
  | .kind letters => pure (.plain (letters.contains (kindLetter f.entry)))
  | .empty => do
    let t ← Run.files
    match f.entry with
    | .file content _ => pure (.plain (content.size = 0))
    | .directory _ => pure (.plain ((t.names f.location).isEmpty))
    | _ => pure (.plain false)
  | .mode atLeast anyOf bits =>
    let own := entryMode f.entry
    pure (.plain (if atLeast then own &&& bits = bits
      else if anyOf then bits = 0 || own &&& bits != 0 else own = bits))
  | .size order unit count =>
    pure (.plain (compare ((octetCount f.entry + unit - 1) / unit) count == order))
  | .print ending => do Run.emit 1 (f.path ++ [ending]); pure (.plain true)
  | .tell format => do
    let resolved := (Shell.Format.unescape false (format.length + 1) format).1
    Run.emit 1 (foundText f resolved)
    pure (.plain true)
  | .prune => pure ⟨true, true, [], false⟩
  | .quit => pure ⟨true, false, [], true⟩
  | .delete => do
    let t ← Run.files
    let refuse (e : Errno) : Run Verdict := do
      complain ("cannot delete ".toList ++ quoted f.path ++ ": ".toList ++ e.reason.toList)
      pure (.plain false)
    if f.path == ['.'] then pure (.plain true)
    else if !t.mayChange f.location then refuse .accessDenied
    else if f.entry.isDirectory && !(t.names f.location).isEmpty then refuse .notEmpty
    else
      Run.setFiles (t.remove f.location)
      pure (.plain true)
  | .execute words => do
    let mark := ['\x7b', '\x7d']
    let words := words.map fun w => filled mark f.path (w.length + 1) w
    match ← launcher.start words with
    | .ok exit => pure (.plain (exit.toStatus = 0))
    | .error e => complainOf (quoted (words.headD [])) e; pure (.plain false)
  | .executeAll words => pure ⟨true, false, [(words, f.path)], false⟩
  | .negation inner => do
    let v ← inner.verdict launcher f
    pure { v with holds := !v.holds }
  | .both first second => do
    let v ← first.verdict launcher f
    if v.holds && !v.stops then pure (v.then (← second.verdict launcher f)) else pure v
  | .either first second => do
    let v ← first.verdict launcher f
    if v.holds || v.stops then pure v else pure (v.then (← second.verdict launcher f))
  | .list first second => do
    let v ← first.verdict launcher f
    if v.stops then pure v else pure (v.then (← second.verdict launcher f))

/-- Goes through what is at a place and below it. Gives what is collected for commands, and whether all
    is over. Every level spends fuel. -/
def visit (launcher : Launcher) (request : Request) :
    (fuel : Nat) → Found → Run (List (List (List Char) × List Char) × Bool)
  | 0, _ => pure ([], false)
  | fuel + 1, f => do
    let isTested := request.least ≤ f.depth
    let test : Run Verdict :=
      if isTested then request.test.verdict launcher f else pure (.plain true)
    let inside : Run (List (List (List Char) × List Char) × Bool) := do
      let t ← Run.files
      if !f.entry.isDirectory || request.most.any (· ≤ f.depth) then return ([], false)
      let mut collected := []
      for name in sortedNames t f.location do
        let l := f.location ++ [Text.Octets.toString name]
        if let some e := (← Run.files).get? l then
          let (more, stops) ←
            visit launcher request fuel ⟨joined f.path name, f.start, l, f.depth + 1, e⟩
          collected := collected ++ more
          if stops then return (collected, true)
      return (collected, false)
    if request.contentsFirst then
      let (collected, stops) ← inside
      if stops then return (collected, true)
      let v ← test
      return (collected ++ v.collected, v.stops)
    else
      let v ← test
      if v.stops || v.prunes then return (v.collected, v.stops)
      let (collected, stops) ← inside
      return (v.collected ++ collected, stops)

end Finding

/-- Goes through directories and tests what is there. -/
def find (launcher : Launcher) : Tool := fun args => do
  let args := args.dropWhile fun arg => ["-H", "-P", "-L"].any (·.toList == arg)
  let isTest (word : List Char) : Bool :=
    (word.head? == some '-' && word.length > 1) || word == ['('] || word == ['!'] || word == [')']
  let paths := args.takeWhile fun word => !isTest word
  let words := args.drop paths.length
  let fuel := 8 * (words.length + 2)
  let (test, r) ←
    if words = [] then pure (Finding.Test.always true, (⟨[], [], 0, none, false⟩ : Finding.Reading))
    else Finding.readList fuel ⟨[], words, 0, none, false⟩
  if let some word := r.rest.head? then
    if word == [')'] then
      Finding.refuse "you have too many ')'".toList
    else Finding.refuse ("paths must precede expression: \x60".toList ++ word ++ ['\''])
  let test := if test.acts then test else .both test (.print '\n')
  let request : Finding.Request :=
    ⟨test, r.least, r.most, r.contentsFirst || test.deletes, false⟩
  let mut status := 0
  let mut collected := []
  for path in if paths = [] then [['.']] else paths do
    let t ← Run.files
    match ← entryAt .link path, t.resolve .link (Text.Octets.toString path) with
    | .ok e, .ok l =>
      let (more, stops) ← Finding.visit launcher request directoryDepth ⟨path, path, l, 0, e⟩
      collected := collected ++ more
      if stops then break
    | .error e, _ | _, .error e =>
      complainOf (quoted path) e
      status := 1
  for command in (collected.map Prod.fst).eraseDups do
    let paths := (collected.filter (·.1 == command)).map Prod.snd
    match ← launcher.start (command ++ paths) with
    | .ok exit => if exit.toStatus != 0 then status := 1
    | .error e =>
      complainOf (quoted (command.headD [])) e
      status := 1
  pure status

end NativeExtension.Utility

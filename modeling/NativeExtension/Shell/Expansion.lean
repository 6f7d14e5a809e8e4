import NativeExtension.Shell.Calculation
import NativeExtension.Shell.Machine
import NativeExtension.Shell.Pattern

/-!
From words to the fields that a command is called with. Parameters, calculations and the output of
statements are put in; what they give is split into fields and fields that are patterns become the
paths that match, unless it is quoted.
-/
namespace NativeExtension.Shell

/-- A part of an expanded word: a character that belongs to its field, one that may separate fields,
    a mark that there is a field even if nothing else is in it, or the place between two fields. -/
inductive Atom where
  | char (m : Marked)
  | loose (c : Char)
  | mark
  | boundary
  deriving DecidableEq, Repr

namespace Atom

/-- The atoms of a value. -/
def ofValue (quoted : Bool) (cs : List Char) : List Atom :=
  if quoted then .mark :: cs.map fun c => .char ⟨c, true⟩ else cs.map .loose

/-- The atoms of a text in a word. -/
def ofText (quoted : Bool) (cs : List Char) : List Atom :=
  let atoms := cs.map fun c => .char ⟨c, quoted⟩
  if quoted then .mark :: atoms else atoms

/-- What is not quoted in a word for a value may separate fields. -/
def loosen : Atom → Atom
  | .char ⟨c, false⟩ => .loose c
  | atom => atom

/-- The characters of atoms that are no fields. -/
def marked (atoms : List Atom) : List Marked :=
  atoms.filterMap fun
    | .char m => some m
    | .loose c => some ⟨c, false⟩
    | .mark => none
    | .boundary => some ⟨' ', false⟩

/-- The text of atoms that are no fields. -/
def text (atoms : List Atom) : List Char := (marked atoms).map Marked.char

end Atom

/-- Fields that are being gathered: those done, in reverse, the one that is open, in reverse, and
    whether blanks have just ended one. -/
structure Gathering where
  done : List (List Marked)
  current : Option (List Marked)
  afterBlank : Bool

namespace Gathering

/-- Adds a character to the open field. -/
def add (g : Gathering) (m : Marked) : Gathering :=
  ⟨g.done, some (m :: g.current.getD []), false⟩

/-- Ends the open field, if there is one. -/
def close (g : Gathering) (afterBlank : Bool) : Gathering :=
  match g.current with
  | some field => ⟨field.reverse :: g.done, none, afterBlank⟩
  | none => { g with afterBlank := g.afterBlank || afterBlank }

/-- Takes the next atom. A blank separator ends a field; any other one does so too, and ends an
    empty one where none is open. -/
def next (separators : List Char) (g : Gathering) : Atom → Gathering
  | .char m => g.add m
  | .mark => { g with current := some (g.current.getD []), afterBlank := false }
  | .boundary => g.close false
  | .loose c =>
    if !separators.contains c then g.add ⟨c, false⟩
    else if isCalculationBlank c then if g.current.isSome then g.close true else g
    else
      match g.current with
      | some _ => g.close false
      | none => if g.afterBlank then { g with afterBlank := false } else ⟨[] :: g.done, none, false⟩

/-- The fields that atoms make. -/
def fields (separators : List Char) (atoms : List Atom) : List (List Marked) :=
  ((atoms.foldl (next separators) ⟨[], none, false⟩).close false).done.reverse

end Gathering

/-- A text in which a tilde behind each colon stands for the directory of a user, as pieces. -/
def behindColons (home : List Char → Option (List Char)) : List (List Char) → Word
  | [] => []
  | part :: parts =>
    let here : Word :=
      match part with
      | '~' :: cs =>
        let name := cs.takeWhile (· != '/')
        match home name with
        | some directory => [.text true directory, .text false (cs.drop name.length)]
        | none => [.text false part]
      | part => [.text false part]
    if parts = [] then here else here ++ .text false [':'] :: behindColons home parts

/-- A word in which a tilde at the start stands for the directory of a user, and in a value that is
    assigned one behind a colon. `home` gives the directories. What stands next to a tilde has to be
    text that is not quoted, up to a slash. -/
def withHomes (home : List Char → Option (List Char)) (isAssigned : Bool) : Word → Word
  | .text false cs :: rest =>
    let parts := if isAssigned then cs.splitOn ':' else [cs]
    let isCut (part : List Char) : Bool := part.head? == some '~' && !part.contains '/'
    match rest, parts.reverse with
    | _ :: _, last :: before =>
      if isCut last then
        let start := behindColons home before.reverse
        (if before = [] then [] else start ++ [.text false [':']]) ++ .text false last :: rest
      else behindColons home parts ++ rest
    | _, _ => behindColons home parts ++ rest
  | w => w

namespace Run

/-- The directory of the user that is named, or of the one that runs the script. -/
def homeOf (s : Session) (name : List Char) : Option (List Char) :=
  if name = [] then (s.bindings.lookup "HOME".toList).bind Binding.value
  else if name == "root".toList then some "/root".toList
  else none

/-- The characters that separate fields. -/
def separators : Run (List Char) :=
  return (← value? "IFS".toList).getD [' ', '\t', '\n']

/-- The letters of all options, in the order in which they are told. -/
def optionLetters : List Char :=
  ['p', 'u', 'b', 'a', 'C', 'E', 'V', 'v', 'x', 's', 'n', 'm', 'i', 'I', 'f', 'e']

/-- The value of a parameter other than the list of arguments, if it is set. -/
def parameter? (name : List Char) : Run (Option (List Char)) := do
  let s ← session
  match name with
  | ['#'] => pure (some (toString s.arguments.length).toList)
  | ['?'] => pure (some (toString s.status).toList)
  | ['$'] => pure (some (toString s.number).toList)
  | ['!'] => pure (s.latest.map fun n => (toString n).toList)
  | ['-'] => pure (some (optionLetters.filter s.options.contains))
  | name =>
    if name.all Char.isDigit then
      match name.foldl (fun n c => n * 10 + digitValue c) 0 with
      | 0 => pure (some s.name)
      | n + 1 => pure s.arguments[n]?
    else value? name

/-- The list of arguments as atoms: one field each, or one text where the quoted star asks for it.
    -/
def argumentAtoms (quoted star : Bool) (arguments : List (List Char)) : Run (List Atom) := do
  if quoted && star then
    let between := match (← separators) with
      | c :: _ => [c]
      | [] => []
    pure (Atom.ofValue true (between.intercalate arguments))
  else
    pure ((arguments.map (Atom.ofValue quoted)).intersperse [.boundary]).flatten

/-- The value of a calculation. -/
def calculate (cs : List Char) : Run (List Char) := do
  let bindings := (← session).bindings
  let value (name : List Char) : List Char := ((bindings.lookup name).bind Binding.value).getD []
  match Calculation.ofText value cs with
  | .ok (n, assigned) =>
    for (name, n) in assigned do setVariable name (toString n).toList
    pure (toString n).toList
  | .error e => die 2 (e.text cs)

/-- What is made of a parameter. `atoms` expands a word. -/
def useAtoms (atoms : Word → Run (List Atom)) (quoted : Bool) (name : List Char) (use : Use) :
    Run (List Atom) := do
  let isStar := name == ['*']
  let isList := name == ['@'] || isStar
  let value ← if isList then pure none else parameter? name
  let arguments := (← session).arguments
  let isSet := if isList then !arguments.isEmpty else value.isSome
  let isEmpty := if isList then false else value.all List.isEmpty
  let own : Run (List Atom) :=
    if isList then argumentAtoms quoted isStar arguments
    else pure (Atom.ofValue quoted (value.getD []))
  let refuseUnset : Run Unit := do
    if !isSet && !isList && (← hasOption 'u') then die 2 (name ++ ": parameter not set".toList)
  let cut (trim : Pattern → List Char → List Char) (pattern : Word) : Run (List Atom) := do
    refuseUnset
    let p := Pattern.ofMarked (Atom.marked (← atoms pattern))
    if isList then
      let between := '\x00'
      argumentAtoms quoted isStar ((trim p ([between].intercalate arguments)).splitOn between)
    else pure (Atom.ofValue quoted (trim p (value.getD [])))
  match use with
  | .invalid => die 2 "Bad substitution".toList
  | .value => refuseUnset; own
  | .length =>
    refuseUnset
    let cs := if isList then [' '].intercalate arguments else value.getD []
    pure (Atom.ofValue quoted (toString cs.length).toList)
  | .dropStart longest pattern => cut (·.withoutStart longest) pattern
  | .dropEnd longest pattern => cut (·.withoutEnd longest) pattern
  | .otherwise emptyToo fallback word =>
    let present := isSet && !(emptyToo && isEmpty)
    let s ← session
    let word := if quoted then word else withHomes (homeOf s) false word
    let other : Run (List Atom) := do
      if quoted && word.isEmpty then pure [.mark]
      else return (← atoms word).map fun a => if quoted then a else a.loosen
    match fallback, present with
    | .use, true | .assign, true | .require, true => own
    | .use, false | .replace, true => other
    | .replace, false => pure (Atom.ofValue quoted [])
    | .assign, false =>
      let cs := Atom.text (← atoms word)
      setVariable name cs
      pure (Atom.ofValue quoted cs)
    | .require, false =>
      let cs := Atom.text (← atoms word)
      let reason :=
        if cs != [] then cs
        else if emptyToo then "parameter not set or null".toList
        else "parameter not set".toList
      die 2 (name ++ ": ".toList ++ reason)

/-- Runs a statement apart and takes what it writes. -/
abbrev Capture := Statement → Run (List Char)

/-- The atoms of a word. Words nest at most `depth` deep. -/
def wordAtoms (capture : Capture) : (depth : Nat) → Word → Run (List Atom)
  | 0, _ => throw (.killed segmentationFault)
  | depth + 1, word => do
    let parts ← word.mapM fun
      | .text quoted cs => pure (Atom.ofText quoted cs)
      | .parameter quoted name use => useAtoms (wordAtoms capture depth) quoted name use
      | .sum quoted expression => do
        let cs := Atom.text (← wordAtoms capture depth expression)
        return Atom.ofValue quoted (← calculate cs)
      | .output quoted body => do
        let cs ← capture body
        pure (Atom.ofValue quoted ((cs.reverse.dropWhile (· == '\n')).reverse.filter (· != '\x00')))
    pure parts.flatten

/-- The text of a word that is not split. -/
def wordText (capture : Capture) (depth : Nat) (word : Word) : Run (List Char) := do
  return Atom.text (← wordAtoms capture depth (withHomes (homeOf (← session)) false word))

/-- The text of a value that is assigned. -/
def valueText (capture : Capture) (depth : Nat) (word : Word) : Run (List Char) := do
  return Atom.text (← wordAtoms capture depth (withHomes (homeOf (← session)) true word))

/-- The text of a document. -/
def documentText (capture : Capture) (depth : Nat) (word : Word) : Run (List Char) :=
  return Atom.text (← wordAtoms capture depth word)

/-- The pattern that a word spells. -/
def wordPattern (capture : Capture) (depth : Nat) (word : Word) : Run Pattern := do
  let word := withHomes (homeOf (← session)) false word
  return Pattern.ofMarked (Atom.marked (← wordAtoms capture depth word))

end Run

/-- Whether a marked text is more than itself. -/
def isPattern (cs : List Marked) : Bool :=
  cs.any fun m => !m.literal && ['*', '?', '['].contains m.char

/-- The paths that match names and patterns, one after the other, under the paths found so far. A
    name that starts with a point is matched by a point only. -/
def matchingPaths (t : FileTree) : (parts : List (List Marked)) → (found : List (List Char)) →
    List (List Char)
  | [], found => found
  | part :: parts, found =>
    let next := found.flatMap fun path =>
      if isPattern part then
        let pattern := Pattern.ofMarked part
        let directory := if path = [] then ".".toList else path
        let names := match t.find (Text.Octets.toString directory) with
          | .ok (l, .directory _) => ['.'] :: ['.', '.'] :: (t.names l).map Text.Octets.ofString
          | _ => []
        let hits := names.filter fun name =>
          Pattern.isMatch pattern name && (name.head? != some '.' || part.head?.any (·.char == '.'))
        hits.mergeSort.map (path ++ ·)
      else
        [path ++ part.map Marked.char]
    let next := if parts = [] then next else next.map (· ++ ['/'])
    matchingPaths t parts next

/-- The fields that a field stands for: the paths that it matches, in order, or itself. -/
def pathFields (t : FileTree) (field : List Marked) : List (List Char) :=
  let plain := field.map Marked.char
  if isPattern field then
    let parts := (Pattern.withoutEscapes field).splitOnP (·.char == '/')
    let hits := (matchingPaths t parts [[]]).filter fun path =>
      match t.resolve .link (Text.Octets.toString path) with
      | .ok l => (t.get? l).isSome
      | .error _ => false
    if hits = [] then [plain] else hits
  else [plain]

/-- The fields that a word stands for. -/
def Run.fieldsOf (capture : Run.Capture) (depth : Nat) (word : Word) : Run (List (List Char)) := do
  let word := withHomes (homeOf (← session)) false word
  let fields := Gathering.fields (← separators) (← wordAtoms capture depth word)
  if ← hasOption 'f' then pure (fields.map (·.map Marked.char))
  else return fields.flatMap (pathFields (← files))

/-- The fields that words stand for. -/
def Run.fields (capture : Run.Capture) (depth : Nat) (words : List Word) :
    Run (List (List Char)) := do
  let mut all := []
  for w in words do all := all ++ (← fieldsOf capture depth w)
  pure all

end NativeExtension.Shell

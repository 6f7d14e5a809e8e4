import NativeExtension.Shell.Word

/-!
Reading statements. A script is read line by line, so that what comes before a mistake still runs.
The functions take the reader of nested statements as an argument; nesting is bounded by the length
of the text.
-/
namespace NativeExtension.Shell

/-- The characters of a word that holds nothing but text. -/
def plainText : Word → Option (List Char)
  | [] => some []
  | .text _ cs :: rest => (plainText rest).map (cs ++ ·)
  | _ :: _ => none

/-- Whether any piece of a word is quoted text. -/
def hasQuotedText (w : Word) : Bool :=
  w.any fun
    | .text quoted _ => quoted
    | _ => false

/-- Cuts a document out of the lines of a text: the document, the lines behind it and how many line
    feeds were taken. It ends before a line that is the delimiter, or with the text. -/
def cutDocument (delimiter : List Char) (dropTabs : Bool) :
    List (List Char) → List Char × List (List Char) × Nat
  | [] => ([], [], 0)
  | line :: others =>
    let line := if dropTabs then line.dropWhile (· == '\t') else line
    if line == delimiter then ([], others, if others.isEmpty then 0 else 1)
    else if others.isEmpty then (line, [], 0)
    else
      let (body, rest, n) := cutDocument delimiter dropTabs others
      (line ++ '\n' :: body, rest, n + 1)

namespace Reader

/-- The word that has to stand here, after blanks. -/
def neededWord (statements : Reader Statement) : Reader Word := do
  blanks
  match ← rest with
  | [] => unexpected none
  | c :: _ => if endsWord c then unexpected none else word statements

/-- The document that starts behind this line, and takes its lines away. -/
def document (statements : Reader Statement) (dropTabs : Bool) : Reader Word := do
  let w ← neededWord statements
  let delimiter := (plainText w).getD []
  let cs ← rest
  let here := cs.takeWhile (· != '\n')
  let c ← get
  let (text, others, n) :=
    if here.length < cs.length then
      cutDocument delimiter dropTabs ((cs.drop (here.length + 1)).splitOn '\n')
    else ([], [], 0)
  let behind := if here.length < cs.length then '\n' :: ['\n'].intercalate others else []
  set ({ c with rest := here ++ behind, cut := c.cut + n } : Cursor)
  if hasQuotedText w then pure [.text true text]
  else within (c.line + 1 + c.cut) text (pieces statements .text (text.length + 1) [])

/-- The descriptor in front of a redirection, if one starts here, and what follows it. -/
def redirectionStart? : List Char → Option (Option Nat × List Char)
  | d :: c :: after =>
    if c == '<' || c == '>' then
      if d.isDigit then some (some (d.toNat - '0'.toNat), c :: after)
      else if d == '<' || d == '>' then some (none, d :: c :: after) else none
    else if d == '<' || d == '>' then some (none, d :: c :: after) else none
  | [c] => if c == '<' || c == '>' then some (none, [c]) else none
  | [] => none

/-- The redirection that starts here, if there is one. -/
def redirection? (statements : Reader Statement) : Reader (Option Redirection) := do
  let opening (usual : Nat) (given : Option Nat) (d : Direction) (after : List Char) :
      Reader (Option Redirection) := do
    goTo after
    return some (.mk (given.getD usual) d (← neededWord statements))
  match redirectionStart? (← rest) with
  | none => pure none
  | some (given, '>' :: '>' :: after) => opening 1 given .append after
  | some (given, '>' :: '&' :: after) => opening 1 given .duplicate after
  | some (given, '>' :: '|' :: after) => opening 1 given .writeAnyway after
  | some (given, '>' :: after) => opening 1 given .write after
  | some (given, '<' :: '<' :: '-' :: after) =>
    goTo after
    return some (.mk (given.getD 0) .document (← document statements true))
  | some (given, '<' :: '<' :: after) =>
    goTo after
    return some (.mk (given.getD 0) .document (← document statements false))
  | some (given, '<' :: '&' :: after) => opening 0 given .duplicate after
  | some (given, '<' :: '>' :: after) => opening 0 given .readWrite after
  | some (given, '<' :: after) => opening 0 given .read after
  | some _ => pure none

/-- The redirections behind a statement; `reversed` holds those read so far. -/
def redirections (statements : Reader Statement) :
    (fuel : Nat) → (reversed : List Redirection) → Reader (List Redirection)
  | 0, reversed => pure reversed.reverse
  | fuel + 1, reversed => do
    blanks
    match ← redirection? statements with
    | some r => redirections statements fuel (r :: reversed)
    | none => pure reversed.reverse

end Reader

/-- The name and the value of an assignment, if a word is one. -/
def assignment? : Word → Option (List Char × Word)
  | .text false cs :: rest =>
    let name := cs.takeWhile continuesName
    match cs.drop name.length with
    | '=' :: value =>
      if name.head?.any startsName then
        some (name, if value = [] then rest else .text false value :: rest)
      else none
    | _ => none
  | _ => none

/-- The parts of a simple statement, each in reverse. -/
structure SimpleParts where
  assignments : List (List Char × Word)
  words : List Word
  redirections : List Redirection

namespace Reader

/-- The parts of a simple statement, up to an operator or the end of the line. -/
def simpleParts (statements : Reader Statement) :
    (fuel : Nat) → SimpleParts → Reader SimpleParts
  | 0, parts => pure parts
  | fuel + 1, parts => do
    blanks
    match ← redirection? statements with
    | some r => simpleParts statements fuel { parts with redirections := r :: parts.redirections }
    | none =>
      match ← rest with
      | [] => pure parts
      | c :: _ =>
        if endsWord c then pure parts
        else
          let w ← word statements
          match parts.words, assignment? w with
          | [], some a =>
            simpleParts statements fuel { parts with assignments := a :: parts.assignments }
          | _, _ => simpleParts statements fuel { parts with words := w :: parts.words }

/-- A simple statement, or the definition of a function. `body` reads the statement of a function.
    -/
def simple (body statements : Reader Statement) : Reader Statement := do
  let line := (← get).line
  let parts ← simpleParts statements ((← rest).length + 1) ⟨[], [], []⟩
  match parts.words, parts.assignments, parts.redirections, ← rest with
  | [], [], [], _ => unexpected none
  | [w], [], [], '(' :: after =>
    goTo after
    blanks
    -- No word has a meaning of its own between parentheses.
    if reservedWords.contains (rawWord (← rest)) then fail (.unexpected .word (some [')']))
    expectMark [')']
    match plainText w with
    | some name =>
      let isName := name.head?.any startsName && name.all continuesName
      if isName && !specialNames.contains name then
        gap
        return .function name (← body)
      else fail .badFunctionName
    | none => fail .badFunctionName
  | words, assignments, rs, _ =>
    pure (.simple line assignments.reverse words.reverse rs.reverse)

/-- A list of statements, up to a word or mark that closes it; `reversed` holds those read so far.
    `item` reads one statement. -/
def items (item : Reader Statement) (mayBeEmpty : Bool) :
    (fuel : Nat) → (reversed : List Statement) → Reader Statement
  | 0, reversed => pure (.sequence reversed.reverse)
  | fuel + 1, reversed => do
    gap
    let cs ← rest
    let closes := closingWords.contains (rawWord cs) || [';', ';'].isPrefixOf cs
    if closes || cs.head?.all (· == ')') then
      if reversed.isEmpty && !mayBeEmpty && cs != [] then unexpected none
      pure (.sequence reversed.reverse)
    else
      let s ← item
      blanks
      match ← rest with
      | ';' :: ';' :: _ => pure (.sequence (s :: reversed).reverse)
      | ';' :: after => goTo after; items item mayBeEmpty fuel (s :: reversed)
      | '&' :: after => goTo after; items item mayBeEmpty fuel (.background s :: reversed)
      | '\n' :: _ => items item mayBeEmpty fuel (s :: reversed)
      | _ => pure (.sequence (s :: reversed).reverse)

/-- A list of statements that may be empty. -/
def listOrNone (item : Reader Statement) : Reader Statement := do
  items item true ((← rest).length + 1) []

/-- A list of statements. -/
def list (item : Reader Statement) : Reader Statement := do
  items item false ((← rest).length + 1) []

/-- A conditional behind its first word. -/
def conditional (item : Reader Statement) : (fuel : Nat) → Reader Statement
  | 0 => unexpected none
  | fuel + 1 => do
    let condition ← list item
    expectWord "then".toList
    let yes ← list item
    let cs ← rest
    if rawWord cs == "elif".toList then
      goTo (cs.drop 4)
      return .branch condition yes (← conditional item fuel)
    else if rawWord cs == "else".toList then
      goTo (cs.drop 4)
      let no ← list item
      expectWord "fi".toList
      pure (.branch condition yes no)
    else
      expectWord "fi".toList
      pure (.branch condition yes (.sequence []))

/-- The body of a loop. -/
def loopBody (item : Reader Statement) : Reader Statement := do
  gap
  expectWord "do".toList
  let body ← list item
  expectWord "done".toList
  pure body

/-- The words that a loop runs over, up to the end of its line or a semicolon. -/
def loopWords (item : Reader Statement) : (fuel : Nat) → (reversed : List Word) → Reader (List Word)
  | 0, reversed => pure reversed.reverse
  | fuel + 1, reversed => do
    blanks
    match ← rest with
    | ';' :: after => goTo after; pure reversed.reverse
    | '\n' :: _ => pure reversed.reverse
    | [] => unexpected none
    | c :: _ =>
      if endsWord c then unexpected none
      else loopWords item fuel ((← word (listOrNone item)) :: reversed)

/-- A loop over words, behind its first word. -/
def eachLoop (item : Reader Statement) : Reader Statement := do
  let line := (← get).line
  blanks
  let cs ← rest
  let name := rawWord cs
  if !(name.head?.any startsName && name.all continuesName) then fail .badLoopVariable
  goTo (cs.drop name.length)
  gap
  let cs ← rest
  if rawWord cs == "in".toList then
    goTo (cs.drop 2)
    let words ← loopWords item (cs.length + 1) []
    return .each line name (some words) (← loopBody item)
  else
    if cs.head? == some ';' then goTo (cs.drop 1)
    return .each line name none (← loopBody item)

/-- The patterns of a case, up to the parenthesis behind them. -/
def patterns (item : Reader Statement) : (fuel : Nat) → (reversed : List Word) → Reader (List Word)
  | 0, reversed => pure reversed.reverse
  | fuel + 1, reversed => do
    blanks
    let w ← match ← rest with
      | [] => unexpected (some [')'])
      | c :: after => if endsWord c then do goTo after; pure [] else word (listOrNone item)
    blanks
    match ← rest with
    | '|' :: after => goTo after; patterns item fuel (w :: reversed)
    | _ => expectMark [')']; pure (w :: reversed).reverse

/-- The cases of a choice, up to the word that closes it. -/
def cases (item : Reader Statement) :
    (fuel : Nat) → (reversed : List (List Word × Statement)) → Reader (List (List Word × Statement))
  | 0, reversed => pure reversed.reverse
  | fuel + 1, reversed => do
    gap
    let cs ← rest
    if rawWord cs == "esac".toList then
      goTo (cs.drop 4)
      pure reversed.reverse
    else
      if cs.head? == some '(' then goTo (cs.drop 1)
      let ps ← patterns item (cs.length + 1) []
      let body ← listOrNone item
      blanks
      match ← rest with
      | ';' :: ';' :: after => goTo after; cases item fuel ((ps, body) :: reversed)
      | cs =>
        if rawWord cs != "esac".toList then unexpected (some [';', ';'])
        goTo (cs.drop 4)
        pure ((ps, body) :: reversed).reverse

/-- A choice behind its first word. -/
def choice (item : Reader Statement) : Reader Statement := do
  let line := (← get).line
  let subject ← neededWord (listOrNone item)
  gap
  expectWord "in".toList
  return .choice line subject (← cases item ((← rest).length + 1) [])

/-- A statement without operators, with its redirections. `item` reads nested statements. -/
def command (item : Reader Statement) : Reader Statement := do
  blanks
  let aliases := (← get).aliases
  if aliases != [] then
    goTo (withAliases (aliases.length + 1) aliases (← rest))
    blanks
  let line := (← get).line
  let cs ← rest
  let first := rawWord cs
  let after := cs.drop first.length
  let compound (reader : Reader Statement) : Reader Statement := do
    let s ← reader
    match ← redirections (listOrNone item) ((← rest).length + 1) [] with
    | [] => pure s
    | rs => pure (.redirected line s rs)
  if first == "if".toList then compound do goTo after; conditional item (cs.length + 1)
  else if first == "for".toList then compound do goTo after; eachLoop item
  else if first == "case".toList then compound do goTo after; choice item
  else if first == "while".toList || first == "until".toList then compound do
    goTo after
    let condition ← list item
    return .loop (first == "until".toList) condition (← loopBody item)
  else if first == ['{'] then compound do
    goTo after
    let body ← list item
    expectWord ['}']
    pure body
  else if cs.head? == some '(' then compound do
    goTo (cs.drop 1)
    let body ← list item
    expectMark [')']
    pure (.subshell body)
  else if reservedWords.contains first then unexpected none
  else simple item (listOrNone item)

/-- The stages of a pipeline behind the first; `reversed` holds those read so far. -/
def stages (item : Reader Statement) :
    (fuel : Nat) → (reversed : List Statement) → Reader (List Statement)
  | 0, reversed => pure reversed.reverse
  | fuel + 1, reversed => do
    blanks
    match ← rest with
    | '|' :: '|' :: _ => pure reversed.reverse
    | '|' :: after =>
      goTo after
      gap
      stages item fuel ((← command item) :: reversed)
    | _ => pure reversed.reverse

/-- A pipeline, perhaps with its status turned round. -/
def pipeline (item : Reader Statement) : Reader Statement := do
  blanks
  let cs ← rest
  let negated := rawWord cs == ['!']
  if negated then goTo (cs.drop 1)
  let s ← match ← stages item (cs.length + 1) [← command item] with
    | [s] => pure s
    | stages => pure (.pipeline stages)
  pure (if negated then .negation s else s)

/-- Statements tied by operators; `first` is what they come to so far. -/
def tied (item : Reader Statement) : (fuel : Nat) → (first : Statement) → Reader Statement
  | 0, first => pure first
  | fuel + 1, first => do
    blanks
    match ← rest with
    | '&' :: '&' :: after =>
      goTo after
      gap
      tied item fuel (.both first (← pipeline item))
    | '|' :: '|' :: after =>
      goTo after
      gap
      tied item fuel (.either first (← pipeline item))
    | _ => pure first

/-- A statement with its operators. Statements nest at most `depth` deep. -/
def item : (depth : Nat) → Reader Statement
  | 0 => unexpected none
  | depth + 1 => do
    let first ← pipeline (item depth)
    tied (item depth) ((← rest).length + 1) first

/-- The statements up to the end of a line. -/
def lineItems : (fuel : Nat) → (reversed : List Statement) → Reader Statement
  | 0, reversed => pure (.sequence reversed.reverse)
  | fuel + 1, reversed => do
    let s ← item ((← rest).length + 1)
    let more (s : Statement) (after : List Char) : Reader Statement := do
      goTo after
      blanks
      match ← rest with
      | [] => pure (.sequence (s :: reversed).reverse)
      | '\n' :: after => nextLine after; pure (.sequence (s :: reversed).reverse)
      | _ => lineItems fuel (s :: reversed)
    blanks
    match ← rest with
    | [] => pure (.sequence (s :: reversed).reverse)
    | '\n' :: after => nextLine after; pure (.sequence (s :: reversed).reverse)
    | ';' :: ';' :: _ => unexpected none
    | ';' :: after => more s after
    | '&' :: after => more (.background s) after
    | _ => unexpected none

/-- The statements on the next line that has any; nothing at the end of the script. -/
def line? : Reader (Option Statement) := do
  gap
  match ← rest with
  | [] => pure none
  | cs => return some (← lineItems (cs.length + 1) [])

/-- The pieces of a text that is read like a document, if it can be. -/
def document? (text : List Char) : Option Word :=
  let pieces := pieces (listOrNone (item (text.length + 1))) .text (text.length + 1) []
  match pieces.run ⟨text, 1, 0, []⟩ with
  | .ok (word, _) => some word
  | .error _ => none

end Reader

end NativeExtension.Shell

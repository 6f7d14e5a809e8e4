import NativeExtension.Shell.Cursor
import NativeExtension.Shell.Statement

/-!
Reading words. The functions take the reader of nested statements as an argument, since a word can
hold statements whose output it stands for.
-/
namespace NativeExtension.Shell

/-- Where a run of pieces ends. -/
inductive Ending where
  /-- At a blank or an operator. -/
  | word
  /-- Behind a double quote. -/
  | quote
  /-- At the end of the text. -/
  | text
  /-- Behind the brace that closes a parameter. -/
  | brace (quoted : Bool)
  /-- Behind two parentheses, with so many others still open. -/
  | sum (opened : Nat)
  deriving DecidableEq, Repr

/-- Whether what stands in a run is quoted. -/
def Ending.isQuoted : Ending → Bool
  | .word => false
  | .brace quoted => quoted
  | .quote | .text | .sum _ => true

/-- Whether a backslash quotes a character in a run. -/
def Ending.escapes (e : Ending) (c : Char) : Bool :=
  match e with
  | .word | .brace false => true
  | .quote | .sum _ => ['$', '\x60', '"', '\\'].contains c
  | .brace true => ['$', '\x60', '"', '\\', '}'].contains c
  | .text => ['$', '\x60', '\\'].contains c

/-- Adds text to the end of a word; `reversed` holds the pieces in reverse. -/
def addText (quoted : Bool) (cs : List Char) : List Piece → List Piece
  | .text q before :: rest =>
    if q = quoted then .text q (before ++ cs) :: rest else .text quoted cs :: .text q before :: rest
  | reversed => .text quoted cs :: reversed

/-- The text between two backquotes: backslashes quote only the dollar, the backquote and the
    backslash, and the double quote where all is in double quotes. -/
def backquoted (quoted : Bool) : List Char → Option (List Char × List Char)
  | [] => none
  | '\x60' :: rest => some ([], rest)
  | '\\' :: c :: rest =>
    (backquoted quoted rest).map fun (inner, after) =>
      let escapes := ['$', '\x60', '\\'].contains c || (quoted && c == '"')
      (if escapes then c :: inner else '\\' :: c :: inner, after)
  | c :: rest => (backquoted quoted rest).map fun (inner, after) => (c :: inner, after)

namespace Reader

/-- The name of a parameter in braces, if there is one. -/
def parameterName : Reader (Option (List Char)) := do
  match ← rest with
  | c :: after =>
    if startsName c then
      let name := (c :: after).takeWhile continuesName
      goTo ((c :: after).drop name.length)
      pure (some name)
    else if c.isDigit then
      let name := (c :: after).takeWhile Char.isDigit
      goTo ((c :: after).drop name.length)
      pure (some name)
    else if isSpecialParameter c then goTo after; pure (some [c])
    else pure none
  | [] => pure none

/-- What is wrong where the text ends before the brace that closes a parameter. -/
def openBrace (quoted : Bool) : Mistake := if quoted then .unterminatedQuote else .missingBrace

/-- What can be made of no parameter, up to the brace that closes it. -/
def invalidUse (quoted : Bool) : Reader Use := do
  match (← rest).dropWhile (· != '}') with
  | [] => fail (openBrace quoted)
  | _ :: after => goTo after; pure .invalid

/-- What is to be made of a parameter, up to the brace that closes it. `pieces` reads the word that
    follows an operator. A pattern is read as if it stood outside of quotes. -/
def parameterUse (pieces : Ending → Reader (List Piece)) (quoted : Bool) : Reader Use := do
  let fallback (emptyToo : Bool) (kind : Fallback) (after : List Char) : Reader Use := do
    goTo after
    return .otherwise emptyToo kind (← pieces (.brace quoted))
  let pattern := pieces (.brace false)
  match ← rest with
  | '}' :: after => goTo after; pure .value
  | ':' :: '-' :: after => fallback true .use after
  | ':' :: '=' :: after => fallback true .assign after
  | ':' :: '?' :: after => fallback true .require after
  | ':' :: '+' :: after => fallback true .replace after
  | '-' :: after => fallback false .use after
  | '=' :: after => fallback false .assign after
  | '?' :: after => fallback false .require after
  | '+' :: after => fallback false .replace after
  | '#' :: '#' :: after => goTo after; return .dropStart true (← pattern)
  | '#' :: after => goTo after; return .dropStart false (← pattern)
  | '%' :: '%' :: after => goTo after; return .dropEnd true (← pattern)
  | '%' :: after => goTo after; return .dropEnd false (← pattern)
  | _ => invalidUse quoted

/-- What stands for a parameter in braces. -/
def braced (pieces : Ending → Reader (List Piece)) (quoted : Bool) : Reader Piece := do
  match ← rest with
  | '#' :: '}' :: after => goTo after; pure (.parameter quoted ['#'] .value)
  | '#' :: after =>
    goTo after
    let name ← parameterName
    match name, ← rest with
    | some name, '}' :: after => goTo after; pure (.parameter quoted name .length)
    | _, _ => return .parameter quoted [] (← invalidUse quoted)
  | _ =>
    match ← parameterName with
    | some name => return .parameter quoted name (← parameterUse pieces quoted)
    | none => return .parameter quoted [] (← invalidUse quoted)

/-- What follows a dollar. One that nothing follows stands for itself. -/
def dollar (statements : Reader Statement) (pieces : Ending → Reader (List Piece)) (quoted : Bool) :
    Reader Piece := do
  match ← rest with
  | '(' :: '(' :: after => goTo after; return .sum quoted (← pieces (.sum 0))
  | '(' :: after =>
    goTo after
    let body ← statements
    gap
    expectMark [')']
    pure (.output quoted body)
  | '{' :: after => goTo after; braced pieces quoted
  | c :: after =>
    if startsName c then
      let name := (c :: after).takeWhile continuesName
      goTo ((c :: after).drop name.length)
      pure (.parameter quoted name .value)
    else if c.isDigit || isSpecialParameter c then
      goTo after
      pure (.parameter quoted [c] .value)
    else pure (.text quoted ['$'])
  | [] => pure (.text quoted ['$'])

/-- What follows a backquote. -/
def backquote (statements : Reader Statement) (quoted : Bool) : Reader Piece := do
  match backquoted quoted (← rest) with
  | none => fail .unterminatedSubstitution
  | some (inner, after) =>
    let body ← within (← get).line inner do
      let body ← statements
      gap
      if (← rest) != [] then unexpected none
      pure body
    goTo after
    pure (.output quoted body)

/-- The pieces of a run; `reversed` holds those read so far. Every round takes a character. -/
def pieces (statements : Reader Statement) (ending : Ending) :
    (fuel : Nat) → (reversed : List Piece) → Reader (List Piece)
  | 0, _ => fail .unterminatedQuote
  | fuel + 1, reversed => do
    let quoted := ending.isQuoted
    let more (q : Bool) (cs : List Char) : Reader (List Piece) :=
      pieces statements ending fuel (addText q cs reversed)
    match ← rest with
    | [] =>
      match ending with
      | .word | .text => pure reversed.reverse
      | .quote => fail .unterminatedQuote
      | .brace quoted => fail (openBrace quoted)
      | .sum _ => fail .unterminatedSum
    | '\\' :: '\n' :: after => nextLine after; pieces statements ending fuel reversed
    | '\\' :: c :: after =>
      if ending.escapes c then goTo after; more true [c]
      else goTo (c :: after); more quoted ['\\']
    | '$' :: after =>
      goTo after
      let p ← dollar statements (fun e => pieces statements e fuel []) quoted
      match p with
      | .text q cs => more q cs
      | p => pieces statements ending fuel (p :: reversed)
    | '\x60' :: after =>
      goTo after
      let p ← backquote statements quoted
      pieces statements ending fuel (p :: reversed)
    | c :: after =>
      match ending, c with
      | .quote, '"' =>
        goTo after
        pure (if reversed.isEmpty then [.text true []] else reversed.reverse)
      | .brace _, '}' => goTo after; pure reversed.reverse
      | .sum 0, ')' =>
        match after with
        | ')' :: after => goTo after; pure reversed.reverse
        | _ => fail .unterminatedSum
      | .sum (opened + 1), ')' =>
        goTo after
        pieces statements (.sum opened) fuel (addText true [c] reversed)
      | .sum opened, '(' =>
        goTo after
        pieces statements (.sum (opened + 1)) fuel (addText true [c] reversed)
      | .word, '"' | .brace _, '"' =>
        goTo after
        let inner ← pieces statements .quote fuel []
        pieces statements ending fuel (inner.reverse ++ reversed)
      | .word, '\'' | .brace false, '\'' =>
        let inner := after.takeWhile (· != '\'')
        match after.drop inner.length with
        | [] => fail .unterminatedQuote
        | _ :: behind =>
          let lines := inner.count '\n'
          modify fun c =>
            if lines = 0 then { c with rest := behind }
            else { c with rest := behind, line := c.line + lines + c.cut, cut := 0 }
          more true inner
      | .word, c => if endsWord c then pure reversed.reverse else do goTo after; more false [c]
      | _, '\n' => nextLine after; more quoted [c]
      | _, c => goTo after; more quoted [c]

/-- The word that starts here. -/
def word (statements : Reader Statement) : Reader Word := do
  pieces statements .word ((← rest).length + 1) []

end Reader

end NativeExtension.Shell

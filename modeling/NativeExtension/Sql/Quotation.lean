import NativeExtension.Sql.Escape

/-!
The text between the quotes of strings and quoted names. A doubled quote stands for one, and where
the backslash escapes it is decoded.
-/
namespace NativeExtension.Sql

/-- How a quoted text is written: what closes it, which characters escape, whether its contents are
    kept as they are, and whether the end of the whole text may close it. -/
structure Quotation where
  closer : List Char
  escapes : List Char
  verbatim : Bool := false
  endCloses : Bool := false

/-- What a backslash followed by one character stands for. -/
def simpleEscape? : Char → Option Char
  | 'b' => some '\x08'
  | 'f' => some '\x0c'
  | 'n' => some '\n'
  | 'r' => some '\r'
  | 't' => some '\t'
  | 'v' => some '\x0b'
  | '\\' => some '\\'
  | _ => none

namespace Quotation

/-- Whether a character escapes the next one. -/
def isEscape (q : Quotation) (c : Char) : Bool := q.escapes.contains c

/-- The whole text at once, when one character closes it and nothing up to there is escaped. -/
def readAtOnce? (q : Quotation) (c : Cursor) : Option (List Char × Cursor) :=
  match q.closer with
  | [x] => do
    let first := c.place - 1
    let last ← c.find? x first
    guard (c.text[last + 1]? != some x || !q.isEscape x)
    let body := c.slice first last
    guard (!body.contains '\\')
    pure (body, { c with place := last + 1, line := c.line + body.count '\n' })
  | _ => none

/-- Whether a pair of the current and the next character stands for one of them: both escape, and a
    quote only pairs with a quote. The second part says that the pair is a doubled closer. -/
def pairAt (q : Quotation) (c : Cursor) : Bool × Bool :=
  match c.current?, c.next? with
  | some x, some y =>
    let doubled := [y] == q.closer || (1 < q.closer.length && q.closer.head? == some y && y == '\x27')
    (q.isEscape x && (doubled || q.isEscape y) && (x != '\x27' || x == y), doubled)
  | _, _ => (false, false)

/-- A backslash escape at the current character: what it stands for and the cursor behind it. -/
def backslash? (q : Quotation) (c : Cursor) : Move (Option (List Char × Cursor)) := do
  if q.verbatim || !c.currentIs '\\' || !q.isEscape '\\' then pure none
  else
    match ← numericEscape c with
    | some (char, c) => pure (some ([char], c))
    | none =>
      match c.next? with
      | none => pure none
      | some y =>
        if c.place + 1 < c.text.size then
          match simpleEscape? y with
          | some plain => pure (some ([plain], ← c.advance 2))
          | none => pure (some ([y], ← (← c.advance 1).advance 1))
        else pure none

/-- The rest of a quoted text; `read` holds what was read of it. Every step moves forward, so the
    length of the text is fuel enough. -/
def readOn (q : Quotation) : (fuel : Nat) → (read : Array Char) → Cursor → Move (List Char × Cursor)
  | 0, _, c => .error c.place
  | fuel + 1, read, c => do
    match ← q.backslash? c with
    | some (escaped, c) => readOn q fuel (read ++ escaped.toArray) c
    | none =>
      let (pair, doubled) := q.pairAt c
      if pair then
        let taken := c.slice (if doubled && !q.verbatim then c.place else c.place - 1) (c.place + 1)
        if c.text.size ≤ c.place + 1 then throw c.place
        readOn q fuel (read ++ taken.toArray) (← c.advance 2)
      else if c.looksAt q.closer then
        let last ← if 1 < q.closer.length then c.advance (q.closer.length - 1) else pure c
        pure (read.toList, last)
      else if c.atEnd then
        if q.endCloses then pure (read.toList ++ c.current?.toList, c) else throw c.place
      else
        let moved ← c.advanceRun
        readOn q fuel (read ++ (c.slice (c.place - 1) (moved.place - 1)).toArray) moved

/-- The quoted text from the current character on. The cursor is left on the last character of the
    closer. -/
def read (q : Quotation) (c : Cursor) : Move (List Char × Cursor) :=
  match q.readAtOnce? c with
  | some found => .ok found
  | none => q.readOn (c.text.size + 1) #[] c

end Quotation

end NativeExtension.Sql

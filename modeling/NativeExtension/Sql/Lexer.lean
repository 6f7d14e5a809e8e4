import NativeExtension.Sql.Quotation
import NativeExtension.Sql.Token
import NativeExtension.Sql.Vocabulary
import NativeExtension.Text.Numeral

/-!
The tokens of an SQL text. Comments and white space are dropped. A text with an unclosed quotation
or comment has no tokens; `tokenize` then gives the characters around the place where reading
failed.
-/
namespace NativeExtension.Sql

/-- A token that was read and the cursor behind it; comments give no token. -/
abbrev Lexeme := Option (Kind × List Char) × Cursor

/-- Whether the token before makes the next one its name. -/
def followsParameter (previous : Option Kind) : Bool := previous == some .parameter

/-- The rest of a decimal number. `point` and `power` say what was seen of it; `signed` that the
    power of ten has its sign. -/
def readDecimal (previous : Option Kind) :
    (fuel : Nat) → (point power signed : Bool) → Cursor → Move Cursor
  | 0, _, _, _, c => .ok c
  | fuel + 1, point, power, signed, c => do
    match c.next? with
    | none => pure c
    | some x =>
      if x.isDigit then readDecimal previous fuel point power signed (← c.advance 1)
      else if x == '.' && !point then
        if followsParameter previous then pure c
        else readDecimal previous fuel true power signed (← c.advance 1)
      else if (x == '-' || x == '+') && power && !signed then
        if (c.text[c.place + 1]?).any Char.isDigit then
          readDecimal previous fuel point power true (← c.advance 1)
        else pure c
      else if (x == 'e' || x == 'E') && !power then
        readDecimal previous fuel point true signed (← c.advance 1)
      else pure c

/-- A number, from its first digit at place `start` on. What follows `0b` or `0x` and is no number
    is a quoted name. -/
def readNumber (previous : Option Kind) (start : Nat) (c : Cursor) : Move Lexeme := do
  let mark := c.next?.filter ['b', 'B', 'x', 'X'].contains
  match c.currentIs '0', mark with
  | true, some mark =>
    let base := if mark == 'b' || mark == 'B' then 2 else 16
    let first ← c.advance 1
    let last ← first.advanceWhile (fun x => !Text.isBlank x && !isSingle x) c.text.size
    let spelled := last.slice start last.place
    if (Text.integer? base spelled).isSome then pure (some (.literal, spelled.drop 2), last)
    else pure (some (.quotedName, spelled), last)
  | _, _ =>
    let last ← readDecimal previous c.text.size false false false c
    pure (some (.literal, last.slice start last.place), last)

/-- Drops the rest of a block comment, in which comments nest. -/
def skipBlockComment (opener closer : List Char) : (fuel depth : Nat) → Cursor → Move Cursor
  | 0, _, c => .error c.place
  | fuel + 1, depth, c => do
    if c.atEnd then c.advance 1
    else
      let depth := if c.looksAt closer then depth - 1 else depth
      if depth == 0 then c.advance 1
      else
        let c ← c.advanceRun
        if !c.atEnd && c.looksAt opener then
          skipBlockComment opener closer fuel (depth + 1) (← c.advance 2)
        else skipBlockComment opener closer fuel depth c

/-- Drops a comment from its opener on. -/
def skipComment (comment : Comment) (c : Cursor) : Move Cursor := do
  match comment with
  | .line => c.advanceWhile (fun x => x != '\n' && x != '\r') c.text.size
  | .block opener closer =>
    skipBlockComment opener closer (c.text.size + 1) 1 (← c.advance 2)

/-- Whether a text between dollar signs can be no tag, so that the first dollar sign starts a
    parameter. -/
def isNoTag (tag : List Char) (atEnd : Bool) : Bool :=
  tag != [] && (atEnd || tag.all Text.isDigit || tag.any Text.isBlank)

/-- A string from its opener on; `start` is the place of the opener. -/
def readString (sort : StringSort) (opener : List Char) (start : Nat) (c : Cursor) :
    Move Lexeme := do
  match sort with
  | .dollarQuoted =>
    let c ← c.advance 1
    let (tag, c) ←
      if c.currentIs '$' then pure ([], c)
      else ({ closer := ['$'], escapes := ['\x27'], verbatim := true, endCloses := true : Quotation }).read c
    if isNoTag tag c.atEnd then
      let c := (if c.atEnd then c else c.retreat 1).retreat tag.length
      pure (some (.parameter, c.slice start c.place), c)
    else
      let c ← c.advance 1
      let closer := '$' :: tag ++ ['$']
      let (body, c) ← ({ closer, escapes := ['\x27'], verbatim := true : Quotation }).read c
      pure (some (.literal, body), c)
  | sort =>
    let escapes := if sort == .escaped then ['\x27', '\\'] else ['\x27']
    let (body, c) ← ({ closer := ['\x27'], escapes : Quotation }).read (← c.advance opener.length)
    let base? := if sort == .bits then some 2 else if sort == .hexadecimal then some 16 else none
    if body != [] && base?.any fun base => (Text.integer? base body).isNone then throw c.place
    let kind := match sort with
      | .plain => Kind.string
      | .unicode => .word
      | _ => .literal
    pure (some (kind, body), c)

/-- What the search for a phrase saw: the longest phrase, how many characters were looked at,
    whether the last of them was white space or past the end, and whether any was a token on its
    own. -/
structure PhraseSearch where
  found : Option (List Char)
  looked : Nat
  endedBlank : Bool
  pastEnd : Bool
  sawSingle : Bool

/-- Looks for the longest phrase from the current character on. `seen` holds the characters so far
    with each run of white space as one space; `fresh` says that the last step added to it. -/
def searchPhrase (c : Cursor) :
    (fuel : Nat) → (seen : List Char) → (fresh : Bool) → PhraseSearch → PhraseSearch
  | 0, _, _, s => s
  | fuel + 1, seen, fresh, s =>
    let key := seen.map Char.toUpper
    if fresh && !startsPhrase key then s
    else
      let s := if fresh && isPhrase key then { s with found := some seen } else s
      match c.text[c.place + s.looked]? with
      | none => { s with looked := s.looked + 1, pastEnd := true }
      | some x =>
        let blank := Text.isBlank x
        let again := blank && s.endedBlank
        let s := { s with
          looked := s.looked + 1
          endedBlank := blank
          sawSingle := s.sawSingle || isSingle x }
        searchPhrase c fuel (if again then seen else seen ++ [if blank then ' ' else x]) (!again) s

/-- The kind of a token of one character. -/
def singleKind : Char → Kind
  | '.' => .dot
  | ';' => .semicolon
  | '@' => .parameter
  | _ => .word

/-- The kind of a word. A word after a parameter sign is never a command. -/
def wordKind (previous : Option Kind) (word : List Char) : Kind :=
  if followsParameter previous then .word
  else
    let capitals := Text.capitals (String.ofList word)
    if commandWords.contains capitals then .command
    else if capitals == "BEGIN" then .block
    else .word

/-- Whether a character goes on with a word. -/
def continuesWord (c : Char) : Bool := !Text.isBlank c && (c == '$' || !isSingle c)

/-- A token of one character, or a word, from the current character on. -/
def readWord (previous : Option Kind) (start : Nat) (c : Cursor) : Move Lexeme := do
  match c.current?.filter isSingle with
  | some x => pure (some (singleKind x, [x]), c)
  | none =>
    let c ← c.advanceWhile continuesWord c.text.size
    let word := c.slice start c.place
    pure (some (wordKind previous word, word), c)

/-- A string, a comment, a phrase or a word, from the current character on. -/
def readPhrase (previous : Option Kind) (start : Nat) (c : Cursor) : Move Lexeme := do
  let first := c.current?.toList
  let s := searchPhrase c (c.text.size + 1) first true ⟨none, 0, false, false, first.any isSingle⟩
  match s.found with
  | none => readWord previous start c
  | some found =>
    let capitals := found.map Char.toUpper
    match stringSort? capitals, comment? found with
    | some sort, _ => readString sort found start c
    | none, some comment => pure (none, ← skipComment comment c)
    | none, none =>
      if s.endedBlank || s.sawSingle || s.pastEnd then
        pure (some (.word, capitals), ← c.advance (s.looked - 1))
      else readWord previous start c

/-- A token from its first character on, which is the current one. -/
def readLexeme (previous : Option Kind) (start : Nat) (c : Cursor) : Move Lexeme := do
  match c.current? with
  | none => pure (none, c)
  | some x =>
    if x.isDigit then readNumber previous start c
    else if x == '"' then
      let (name, c) ← ({ closer := ['"'], escapes := ['"'] : Quotation }).read (← c.advance 1)
      pure (some (.quotedName, name), c)
    else readPhrase previous start c

/-- Whether a command stands where a statement starts: `before` are the tokens before it, the last
    one first. -/
def startsStatement (before : List Token) : Bool :=
  match before with
  | [] => true
  | t :: _ => t.kind == .semicolon || t.kind == .block

/-- Whether a character is a space or a tab. -/
def isInlineBlank (x : Char) : Bool := x == ' ' || x == '\t'

/-- Reads tokens and puts them in front of `done`. With `stop` it ends before the next semicolon. Of
    a statement that starts with a command the rest is read without keeping its tokens, and becomes
    one string. Every round moves forward, so the length of the text is fuel enough. -/
def readTokens :
    (fuel : Nat) → (stop : Bool) → (done : List Token) → Cursor → Move (List Token × Cursor)
  | 0, _, done, c => .ok (done, c)
  | fuel + 1, stop, done, c => do
    if c.atEnd then pure (done, c)
    else
      let start := c.firstOutside isInlineBlank c.place
      let c ← c.advance (max (start - c.place) 1)
      let (done, c) ←
        if c.current?.any Text.isBlank then pure (done, c)
        else
          match ← readLexeme (done.head?.map Token.kind) start c with
          | (none, c) => pure (done, c)
          | (some (kind, text), c) =>
            let done' := ⟨kind, String.ofList text, c.line⟩ :: done
            if kind == .command && !c.nextIs ';' && startsStatement done then
              let (_, after) ← readTokens fuel true done' c
              match Text.trim (after.slice c.place after.place) with
              | [] => pure (done', after)
              | rest => pure (⟨.string, String.ofList rest, after.line⟩ :: done', after)
            else pure (done', c)
      if stop && c.nextIs ';' then pure (done, c) else readTokens fuel stop done c

/-- The characters around a place: at most fifty before it, and fewer than fifty after it. -/
def around (text : Array Char) (place : Nat) : String :=
  String.ofList (text.extract (place - 50) (min (place + 50) (text.size - 1))).toList

/-- The tokens of an SQL text, or the characters around the place where reading failed. -/
def tokenize (sql : String) : Except String (List Token) :=
  let text := sql.toList.toArray
  match readTokens (text.size + 1) false [] (.start text) with
  | .ok (tokens, _) => .ok tokens.reverse
  | .error place => .error (around text place)

end NativeExtension.Sql

import NativeExtension.Toml.Error
import NativeExtension.Toml.Value
import NativeExtension.Text.Digits

/-!
The parts of a document that hold no other parts: comments, keys, strings, dates, times and numbers.
Every reader takes the unread characters and returns those that follow what it read.
-/
namespace NativeExtension.Toml

/-- Why a reader stopped: a problem with the number of characters left unread at its place, an
    integer that is too long, or values that are nested too deeply. -/
inductive Stop where
  | malformed (problem : Problem) (remaining : Nat)
  | integerTooLong (digits : Nat)
  | tooDeep

/-- Stops in front of the unread characters. -/
def stopAt {α : Type} (problem : Problem) (unread : List Char) : Except Stop α :=
  .error (.malformed problem unread.length)

/-- Blanks within a line. -/
def isInlineBlank (c : Char) : Bool := c == ' ' || c == '\t'

/-- Blanks and line ends. -/
def isGap (c : Char) : Bool := isInlineBlank c || c == '\n'

/-- Controls other than the tab, which stand in no comment and in no string of one line. -/
def isControl (c : Char) : Bool := (c.toNat < 0x20 || c.toNat == 0x7f) && c != '\t'

/-- Controls that stand in no string of several lines. -/
def isMultilineControl (c : Char) : Bool := isControl c && c != '\n'

/-- Drops blanks within a line. -/
def skipBlanks (cs : List Char) : List Char := cs.dropWhile isInlineBlank

/-- The text up to the first occurrence of a delimiter, and what follows the delimiter. -/
def splitAtDelimiter? (delimiter : List Char) : List Char → Option (List Char × List Char)
  | [] => none
  | c :: rest =>
    if delimiter.isPrefixOf (c :: rest) then some ([], (c :: rest).drop delimiter.length)
    else (splitAtDelimiter? delimiter rest).map fun (before, after) => (c :: before, after)

/-- Refuses the first character of class `bad` among those in front of `unread`. -/
def refuseWhere (bad : Char → Bool) (cs unread : List Char) : Except Stop Unit :=
  match cs.dropWhile (!bad ·) with
  | [] => .ok ()
  | c :: rest => .error (.malformed (.invalidCharacter c) (rest.length + 1 + unread.length))

/-- Drops a comment, its line end excepted. -/
def skipComment : List Char → Except Stop (List Char)
  | '#' :: rest => do
    let after := rest.dropWhile (· != '\n')
    refuseWhere isControl (rest.takeWhile (· != '\n')) after
    pure after
  | cs => .ok cs

/-- Text between delimiters in which nothing is escaped. -/
def readLiteral (delimiter : List Char) (bad : Char → Bool) (cs : List Char) :
    Except Stop (String × List Char) :=
  match splitAtDelimiter? delimiter cs with
  | none => stopAt (.expectedDelimiter (String.ofList delimiter)) []
  | some (before, after) => do
    refuseWhere bad before (delimiter ++ after)
    pure (String.ofList before, after)

/-- Whether a number is the code point of a character. -/
def isScalarValue (n : Nat) : Bool := n < 0xd800 || (0xe000 ≤ n && n ≤ 0x10ffff)

/-- A character given by so many hexadecimal digits. -/
def readHexChar (width : Nat) (cs : List Char) : Except Stop (List Char × List Char) :=
  let digits := (cs.take width).map fun c => (Text.digitOrLetter? c).filter (· < 16)
  match digits.mapM id with
  | some values =>
    let rest := cs.drop width
    let n := values.foldl (fun n d => n * 16 + d) 0
    if values.length < width then stopAt .invalidHexadecimal cs
    else if isScalarValue n then .ok ([Char.ofNat n], rest)
    else stopAt .notScalarValue rest
  | none => stopAt .invalidHexadecimal cs

/-- What a backslash followed by one character stands for. -/
def simpleEscape? : Char → Option Char
  | 'b' => some '\x08'
  | 't' => some '\t'
  | 'n' => some '\n'
  | 'f' => some '\x0c'
  | 'r' => some '\r'
  | '"' => some '"'
  | '\\' => some '\\'
  | _ => none

/-- What follows a backslash. In a string of several lines a backslash at the end of a line takes
    the line end and the blanks after it away. -/
def readEscape (multiline : Bool) : List Char → Except Stop (List Char × List Char)
  | [] => stopAt .unescapedBackslash []
  | c :: rest =>
    if multiline && c == '\n' then .ok ([], rest.dropWhile isGap)
    else if multiline && isInlineBlank c then
      match skipBlanks rest with
      | [] => .ok ([], [])
      | '\n' :: rest => .ok ([], rest.dropWhile isGap)
      | rest => stopAt .unescapedBackslash rest
    else if c == 'u' then readHexChar 4 rest
    else if c == 'U' then readHexChar 8 rest
    else
      match simpleEscape? c with
      | some plain => .ok ([plain], rest)
      | none => stopAt .unescapedBackslash rest

/-- The rest of a string with escapes, `read` holding what was read of it in reverse. Fuel is spent
    on every character read; the number of unread characters and one more is enough. -/
def readBasicBody (multiline : Bool) :
    (fuel : Nat) → (read : List Char) → List Char → Except Stop (String × List Char)
  | 0, _, unread => stopAt .unterminatedString unread
  | _, _, [] => stopAt .unterminatedString []
  | fuel + 1, read, c :: rest =>
    if c == '"' then
      if !multiline then .ok (String.ofList read.reverse, rest)
      else
        match rest with
        | '"' :: '"' :: rest => .ok (String.ofList read.reverse, rest)
        | _ => readBasicBody multiline fuel (c :: read) rest
    else if c == '\\' then do
      let (escaped, rest) ← readEscape multiline rest
      readBasicBody multiline fuel (escaped.reverse ++ read) rest
    else if if multiline then isMultilineControl c else isControl c then
      stopAt (.illegalCharacter c) (c :: rest)
    else readBasicBody multiline fuel (c :: read) rest

/-- The rest of a string with escapes. -/
def readBasic (multiline : Bool) (cs : List Char) : Except Stop (String × List Char) :=
  readBasicBody multiline (cs.length + 1) [] cs

/-- Up to two further quotes at the end of a string of several lines belong to it. -/
def takeClosingQuotes (quote : Char) (s : String) : List Char → String × List Char
  | c :: d :: rest =>
    if c != quote then (s, c :: d :: rest)
    else if d != quote then (s.push quote, d :: rest)
    else ((s.push quote).push quote, rest)
  | [c] => if c == quote then (s.push quote, []) else (s, [c])
  | [] => (s, [])

/-- A line end right after the opening quotes is no part of the string. -/
def dropFirstNewline : List Char → List Char
  | '\n' :: rest => rest
  | cs => cs

/-- A string, from its opening quote on; `none` if no quote stands there. -/
def readString? : List Char → Option (Except Stop (String × List Char))
  | '"' :: '"' :: '"' :: rest => some do
    let (s, rest) ← readBasic true (dropFirstNewline rest)
    pure (takeClosingQuotes '"' s rest)
  | '"' :: rest => some (readBasic false rest)
  | '\x27' :: '\x27' :: '\x27' :: rest => some do
    let quotes := ['\x27', '\x27', '\x27']
    let (s, rest) ← readLiteral quotes isMultilineControl (dropFirstNewline rest)
    pure (takeClosingQuotes '\x27' s rest)
  | '\x27' :: rest => some (readLiteral ['\x27'] isControl rest)
  | _ => none

/-- Characters of a key without quotes. -/
def isBareKeyChar (c : Char) : Bool := c.isAlphanum || c == '-' || c == '_'

/-- One part of a key. -/
def readKeyPart : List Char → Except Stop (String × List Char)
  | '"' :: rest => readBasic false rest
  | '\x27' :: rest => readLiteral ['\x27'] isControl rest
  | cs =>
    match cs.takeWhile isBareKeyChar with
    | [] => stopAt .invalidKeyStart cs
    | part => .ok (String.ofList part, cs.dropWhile isBareKeyChar)

/-- A key: parts with points between them, and the blanks after it. -/
def readKeyParts : (fuel : Nat) → List Char → Except Stop (List String × List Char)
  | 0, unread => stopAt .invalidKeyStart unread
  | fuel + 1, cs => do
    let (part, rest) ← readKeyPart cs
    match skipBlanks rest with
    | '.' :: rest => do
      let (parts, rest) ← readKeyParts fuel (skipBlanks rest)
      pure (part :: parts, rest)
    | rest => pure ([part], rest)

/-- A key and the blanks after it. -/
def readKey (cs : List Char) : Except Stop (List String × List Char) :=
  readKeyParts (cs.length + 1) cs

/-- The rest after exactly the digits whose bounds are given. -/
def matchDigits? : List (Char × Char) → List Char → Option (List Char)
  | [], rest => some rest
  | (low, high) :: bounds, c :: rest =>
    if low ≤ c && c ≤ high then matchDigits? bounds rest else none
  | _ :: _, [] => none

/-- The rest after the first of several alternatives that matches. -/
def matchFirst? (alternatives : List (List (Char × Char))) (cs : List Char) : Option (List Char) :=
  alternatives.findSome? fun bounds => matchDigits? bounds cs

/-- An hour of two digits. -/
def matchHour? : List Char → Option (List Char) :=
  matchFirst? [[('0', '1'), ('0', '9')], [('2', '2'), ('0', '3')]]

/-- A minute or second of two digits. -/
def matchSixty? : List Char → Option (List Char) :=
  matchDigits? [('0', '5'), ('0', '9')]

/-- The rest after one given character. -/
def matchChar? (c : Char) (cs : List Char) : Option (List Char) :=
  matchDigits? [(c, c)] cs

/-- A fraction of a second if one stands there. -/
def skipFraction (cs : List Char) : List Char :=
  match cs with
  | '.' :: rest => if (rest.takeWhile Char.isDigit).isEmpty then cs else rest.dropWhile Char.isDigit
  | cs => cs

/-- A time of day. -/
def matchTime? (cs : List Char) : Option (List Char) := do
  let cs ← matchHour? cs
  let cs ← matchChar? ':' cs
  let cs ← matchSixty? cs
  let cs ← matchChar? ':' cs
  let cs ← matchSixty? cs
  pure (skipFraction cs)

/-- An offset from universal time if one stands there. -/
def skipOffset (cs : List Char) : List Char :=
  match cs with
  | 'Z' :: rest | 'z' :: rest => rest
  | '+' :: rest | '-' :: rest =>
    (do matchSixty? (← matchChar? ':' (← matchHour? rest))).getD cs
  | cs => cs

/-- A calendar date of ten characters. -/
def matchDate? (cs : List Char) : Option (List Char) := do
  let digit := ('0', '9')
  let cs ← matchDigits? [digit, digit, digit, digit, ('-', '-')] cs
  let cs ← matchFirst? [[('0', '0'), ('1', '9')], [('1', '1'), ('0', '2')]] cs
  let cs ← matchChar? '-' cs
  matchFirst? [[('0', '0'), ('1', '9')], [('1', '2'), digit], [('3', '3'), ('0', '1')]] cs

/-- A date with a time and an offset after it if they stand there. -/
def matchDateTime? (cs : List Char) : Option (List Char) := do
  let date ← matchDate? cs
  match date with
  | c :: rest =>
    if c == 'T' || c == 't' || c == ' ' then pure (((matchTime? rest).map skipOffset).getD date)
    else pure date
  | [] => pure []

/-- The value of digits that are known to be ASCII. -/
def asciiValue (cs : List Char) : Nat :=
  cs.foldl (fun n c => n * 10 + (c.toNat - '0'.toNat)) 0

/-- The days of a month of the Gregorian calendar. -/
def daysInMonth (year month : Nat) : Nat :=
  if month == 2 then
    if year % 4 == 0 && (year % 100 != 0 || year % 400 == 0) then 29 else 28
  else if [4, 6, 9, 11].contains month then 30
  else 31

/-- Whether ten characters of the form `YYYY-MM-DD` name a day. The calendar starts with year one.
    -/
def isCalendarDate (cs : List Char) : Bool :=
  let year := asciiValue (cs.take 4)
  let month := asciiValue ((cs.drop 5).take 2)
  let day := asciiValue ((cs.drop 8).take 2)
  1 ≤ year && 1 ≤ day && day ≤ daysInMonth year month

/-- What a match took from the unread characters. -/
def consumed (cs rest : List Char) : List Char :=
  cs.take (cs.length - rest.length)

/-- The rest after digits of a class, single underscores allowed between them; at least one digit.
    -/
def matchGroups? (digit : Char → Bool) : List Char → Option (List Char)
  | [] => none
  | c :: rest => if digit c then some (more rest) else none
where
  /-- The rest after further digits. -/
  more : List Char → List Char
    | [] => []
    | [c] => if digit c then [] else [c]
    | c :: d :: rest =>
      if digit c then more (d :: rest)
      else if c == '_' && digit d then more rest
      else c :: d :: rest

/-- Whether a character is a digit of a base up to sixteen. -/
def isDigitOf (base : Nat) (c : Char) : Bool :=
  match Text.digitOrLetter? c with
  | some d => d < base
  | none => false

/-- An integer of base sixteen, two or eight, marked `0x`, `0b` or `0o`. -/
def matchMarkedInteger? : List Char → Option (Nat × List Char)
  | '0' :: 'x' :: rest => (matchGroups? (isDigitOf 16) rest).map (16, ·)
  | '0' :: 'b' :: rest => (matchGroups? (isDigitOf 2) rest).map (2, ·)
  | '0' :: 'o' :: rest => (matchGroups? (isDigitOf 8) rest).map (8, ·)
  | _ => none

/-- The whole part of a decimal number: a sign, and zero or digits that start with no zero. -/
def matchWhole? (cs : List Char) : Option (List Char) :=
  let unsigned := match cs with
    | '+' :: rest | '-' :: rest => rest
    | cs => cs
  match unsigned with
  | '0' :: rest => some rest
  | cs => matchGroups? Char.isDigit cs

/-- The digits after a point if they stand there. -/
def skipDecimals (cs : List Char) : List Char :=
  match cs with
  | '.' :: rest => (matchGroups? Char.isDigit rest).getD cs
  | cs => cs

/-- A power of ten if one stands there. -/
def skipPower (cs : List Char) : List Char :=
  match cs with
  | e :: rest =>
    if e == 'e' || e == 'E' then
      let unsigned := match rest with
        | '+' :: rest | '-' :: rest => rest
        | rest => rest
      (matchGroups? Char.isDigit unsigned).getD cs
    else cs
  | [] => []

/-- The value of digits of a base; what is no digit is passed over. -/
def baseValue (base : Nat) (cs : List Char) : Nat :=
  cs.foldl (fun n c => match Text.digitOrLetter? c with
    | some d => n * base + d
    | none => n) 0

/-- A number: an integer with a marked base, a decimal integer, or a decimal fraction. -/
def readNumber? (cs : List Char) : Option (Except Stop (Value × List Char)) :=
  match matchMarkedInteger? cs with
  | some (base, rest) =>
    some (.ok (.integer (baseValue base ((consumed cs rest).drop 2)), rest))
  | none =>
    (matchWhole? cs).map fun whole =>
      let rest := skipPower (skipDecimals whole)
      if rest.length < whole.length then .ok (.float (String.ofList (consumed cs rest)), rest)
      else
        let digits := (consumed cs whole).filter Char.isDigit
        if digits.length > integerDigitLimit then .error (.integerTooLong digits.length)
        else
          let n : Int := asciiValue digits
          .ok (.integer (if cs.head? == some '-' then -n else n), whole)

/-- The name of an infinity or of no number. -/
def readSpecialFloat? (cs : List Char) : Option (Value × List Char) :=
  let unsigned := match cs with
    | '+' :: rest | '-' :: rest => rest
    | cs => cs
  match unsigned with
  | 'i' :: 'n' :: 'f' :: rest | 'n' :: 'a' :: 'n' :: rest =>
    some (.float (String.ofList (consumed cs rest)), rest)
  | _ => none

/-- A value that holds no other values, except a string. -/
def readAtom (cs : List Char) : Except Stop (Value × List Char) :=
  match cs with
  | 't' :: 'r' :: 'u' :: 'e' :: rest => .ok (.boolean true, rest)
  | 'f' :: 'a' :: 'l' :: 's' :: 'e' :: rest => .ok (.boolean false, rest)
  | _ =>
    match matchDateTime? cs with
    | some rest =>
      if isCalendarDate cs then .ok (.moment (String.ofList (consumed cs rest)), rest)
      else stopAt .invalidDate cs
    | none =>
      match matchTime? cs with
      | some rest => .ok (.moment (String.ofList (consumed cs rest)), rest)
      | none =>
        match readNumber? cs with
        | some reading => reading
        | none =>
          match readSpecialFloat? cs with
          | some reading => .ok reading
          | none => stopAt .invalidValue cs

end NativeExtension.Toml

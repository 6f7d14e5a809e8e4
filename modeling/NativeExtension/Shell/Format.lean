import NativeExtension.Number.Positional
import NativeExtension.Number.Reader
import NativeExtension.Shell.Calculation

/-!
Writing text with escapes, and after a format.
-/
namespace NativeExtension.Shell.Format

/-- Whether a character is an octal digit. -/
def isOctal (c : Char) : Bool := '0' ≤ c && c ≤ '7'

/-- The octet that octal digits spell. -/
def octet (digits : List Char) : Char :=
  Char.ofNat (digits.foldl (fun n c => n * 8 + digitValue c) 0 % 256)

/-- What an escaped character stands for. -/
def escaped? : Char → Option Char
  | 'a' => some '\x07'
  | 'b' => some '\x08'
  | 'e' => some '\x1b'
  | 'f' => some '\x0c'
  | 'n' => some '\n'
  | 'r' => some '\r'
  | 't' => some '\t'
  | 'v' => some '\x0b'
  | '\\' => some '\\'
  | _ => none

/-- The character that stands for what follows a backslash, and what is left: one with an escape of
    its own, or an octet of up to three octal digits. A backslash in front of anything else is
    itself. -/
def escape (cs : List Char) : Char × List Char :=
  match cs with
  | [] => ('\\', [])
  | c :: rest =>
    if isOctal c then
      let digits := (cs.take 3).takeWhile isOctal
      (octet digits, cs.drop digits.length)
    else
      match escaped? c with
      | some e => (e, rest)
      | none => ('\\', cs)

/-- The octet that an `x` and up to two hexadecimal digits stand for behind a backslash. -/
def hexadecimal? : List Char → Option (Char × List Char)
  | 'x' :: cs =>
    let digits := (cs.take 2).takeWhile fun c => digitValue c < 16
    if digits = [] then none
    else some (Char.ofNat (digits.foldl (fun n c => n * 16 + digitValue c) 0), cs.drop digits.length)
  | _ => none

/-- A text with its escapes resolved, and whether one of them ends all output. A zero in front of
    octal digits is left out. With `wide` octets may be spelled by hexadecimal digits. Every round
    takes a character. -/
def unescape (wide : Bool) : (fuel : Nat) → List Char → List Char × Bool
  | 0, _ => ([], false)
  | _, [] => ([], false)
  | fuel + 1, '\\' :: rest =>
    match rest with
    | 'c' :: _ => ([], true)
    | _ =>
      let digits :=
        match rest with
        | '0' :: d :: _ => if isOctal d then rest.tail else rest
        | _ => rest
      let (c, after) := (if wide then hexadecimal? rest else none).getD (escape digits)
      let (cs, stopped) := unescape wide fuel after
      (c :: cs, stopped)
  | fuel + 1, c :: rest =>
    let (cs, stopped) := unescape wide fuel rest
    (c :: cs, stopped)

/-- Words with blanks between them and, unless the first word forbids it, a line feed behind.
    Escapes are resolved, and one of them can end the output early. -/
def echo (words : List (List Char)) : List Char :=
  let (words, ending) :=
    match words with
    | ['-', 'n'] :: words => (words, [])
    | words => (words, ['\n'])
  let text := [' '].intercalate words
  let (cs, stopped) := unescape false (text.length + 1) text
  if stopped then cs else cs ++ ending

/-- Why a format or a word for it is wrong. -/
inductive Complaint where
  | missingCharacter
  | invalidDirective (directive : List Char)
  | expectedNumber (word : List Char)
  | notConverted (word : List Char)
  | outOfRange (word : List Char)
  deriving DecidableEq, Repr

/-- The wording of a complaint. -/
def Complaint.text : Complaint → List Char
  | missingCharacter => "missing format character".toList
  | invalidDirective directive => directive ++ ": invalid directive".toList
  | expectedNumber word => word ++ ": expected numeric value".toList
  | notConverted word => word ++ ": not completely converted".toList
  | outOfRange word => word ++ ": Numerical result out of range".toList

/-- What has been written after a format: the text in reverse, the complaints in reverse, the words
    that are left, and whether all is over. -/
structure Progress where
  written : List Char
  complaints : List Complaint
  words : List (List Char)
  finished : Bool
  deriving DecidableEq, Repr

/-- How a directive lays out what it writes. -/
structure Layout where
  left : Bool
  zeros : Bool
  plus : Bool
  blank : Bool
  alternate : Bool
  width : Nat
  precision : Option Nat
  deriving DecidableEq, Repr

/-- Fills up to the width with blanks. -/
def Layout.pad (l : Layout) (cs : List Char) : List Char :=
  let fill := List.replicate (l.width - cs.length) ' '
  if l.left then cs ++ fill else fill ++ cs

/-- Fills digits up to the precision or, where asked for, the width. `sign` stands in front of them.
    -/
def Layout.number (l : Layout) (sign digits : List Char) : List Char :=
  let least := match l.precision with
    | some p => p
    | none => if l.zeros && !l.left then l.width - sign.length else 1
  l.pad (sign ++ List.replicate (least - digits.length) '0' ++ digits)

/-- The number that a word spells and a complaint about it. A quote asks for the number of the
    character behind it. -/
def wordNumber (word : List Char) : Int × Option Complaint :=
  match word with
  | [] => (0, none)
  | q :: cs => if q == '\'' || q == '"' then ((cs.headD '\x00').toNat, none) else spelled
where
  /-- The number that the word spells in digits. -/
  spelled : Int × Option Complaint :=
    let cs := word.dropWhile isCalculationBlank
    let negative := cs.head? == some '-'
    let digits := if negative || cs.head? == some '+' then cs.tail else cs
    if digits.head?.any Char.isDigit then
      let (n, rest) := leadingNumber digits
      let complaint :=
        if rest != [] then some (.notConverted word)
        else if (digits.foldl (fun n c => n * 10 + digitValue c) 0) > greatest
          && n = greatest then some (.outOfRange word)
        else none
      (if negative then -(n : Int) else n, complaint)
    else (0, some (.expectedNumber word))

/-- The number with a fraction that a word spells, and a complaint about it. A quote asks for the
    number of the character behind it. -/
def wordReal (word : List Char) : Binary64 × Option Complaint :=
  match word with
  | [] => (.zero false, none)
  | q :: cs =>
    if q == '\'' || q == '"' then (.ofDecimal false (cs.headD '\x00').toNat 0, none) else spelled
where
  /-- The number that the word starts with. -/
  spelled : Binary64 × Option Complaint :=
    let body := word.dropWhile isNumberBlank
    let sign := (body.take 1).filter fun c => c == '-' || c == '+'
    let cs := body.drop sign.length
    let hexDigits := match cs with
      | '0' :: x :: cs => if x.toLower == 'x' then cs.takeWhile (digitValue · < 16) else []
      | _ => []
    let hexValue := hexDigits.foldl (fun n c => n * 16 + digitValue c) 0
    let cs := if hexDigits = [] then cs else (toString hexValue).toList ++ cs.drop (hexDigits.length + 2)
    let whole := cs.takeWhile Char.isDigit
    let fraction := match cs.drop whole.length with
      | '.' :: rest => '.' :: rest.takeWhile Char.isDigit
      | _ => []
    let mantissa := whole ++ fraction
    let power := match cs.drop mantissa.length with
      | e :: rest =>
        let mark := (rest.take 1).filter fun c => c == '-' || c == '+'
        let ds := (rest.drop mark.length).takeWhile Char.isDigit
        if (e == 'e' || e == 'E') && ds != [] then e :: mark ++ ds else []
      | [] => []
    let name := ["infinity", "inf", "nan"].find? fun name =>
      name.toList.isPrefixOf (cs.map Char.toLower)
    let (taken, length) := match name with
      | some name => (name.toList, name.length)
      | none =>
        if mantissa.any Char.isDigit then (mantissa ++ power, (mantissa ++ power).length) else ([], 0)
    match Binary64.unsigned? (sign == ['-']) taken with
    | none => (.zero false, some (.expectedNumber word))
    | some n => (n, if length < cs.length then some (.notConverted word) else none)

namespace Progress

/-- Writes more. -/
def write (p : Progress) (cs : List Char) : Progress :=
  { p with written := cs.reverse ++ p.written }

/-- Takes the next word; where there is none it is empty. -/
def next (p : Progress) : List Char × Progress :=
  (p.words.headD [], { p with words := p.words.tail })

/-- Complains. -/
def complain (p : Progress) : Option Complaint → Progress
  | none => p
  | some c => { p with complaints := c :: p.complaints }

/-- Takes the next word as a number. -/
def nextNumber (p : Progress) : Int × Progress :=
  let (word, p) := p.next
  let (n, complaint) := wordNumber word
  (n, p.complain complaint)

/-- Ends with a complaint. -/
def fail (p : Progress) (c : Complaint) : Progress := { p.complain (some c) with finished := true }

end Progress

/-- A natural number, or a star for the next word as one, and what is left. -/
def count (p : Progress) (cs : List Char) : Option Int × Progress × List Char :=
  match cs with
  | '*' :: rest => let (n, p) := p.nextNumber; (some n, p, rest)
  | cs =>
    let digits := cs.takeWhile Char.isDigit
    (if digits = [] then none else some (digits.foldl (fun n c => n * 10 + digitValue c) 0),
      p, cs.drop digits.length)

/-- The digits of a number in a base. -/
def digitsIn (base n : Nat) (upper : Bool) : List Char :=
  (Nat.toDigits base n).map fun c => if upper then c.toUpper else c

/-- Writes a number with a fraction. -/
def Layout.real (l : Layout) (kind : Char) (n : Binary64) : List Char :=
  let mark (negative : Bool) : List Char :=
    if negative then ['-'] else if l.plus then ['+'] else if l.blank then [' '] else []
  let upper := kind.isUpper
  let named (negative : Bool) (name : String) : List Char :=
    l.pad (mark negative ++ if upper then (name.toList.map Char.toUpper) else name.toList)
  match n with
  | .notANumber => named false "nan"
  | .infinite negative => named negative "inf"
  | .finite negative significand exponent =>
    let f := Positional.Fraction.ofBinary significand exponent
    let count := l.precision.getD 6
    let (mark, body) := match kind.toLower with
      | 'a' =>
        (mark negative ++ (if upper then "0X" else "0x").toList,
          Positional.hexadecimal significand exponent l.precision l.alternate upper)
      | 'f' => (mark negative, Positional.fixed f count l.alternate)
      | 'e' => (mark negative, Positional.scientific f count l.alternate upper)
      | _ => (mark negative, Positional.shorter f count l.alternate upper)
    let zeros := if l.zeros && !l.left then l.width - mark.length - body.length else 0
    l.pad (mark ++ List.replicate zeros '0' ++ body)

/-- Writes one word after a directive. With `wide` octets may be spelled by hexadecimal digits. -/
def convert (wide : Bool) (p : Progress) (l : Layout) (directive : List Char) (kind : Char) : Progress :=
  match kind with
  | 's' =>
    let (word, p) := p.next
    p.write (l.pad (match l.precision with
      | some n => word.take n
      | none => word))
  | 'b' =>
    let (word, p) := p.next
    let (cs, stopped) := unescape wide (word.length + 1) word
    { p.write (l.pad cs) with finished := stopped }
  | 'c' => let (word, p) := p.next; p.write (l.pad [word.headD '\x00'])
  | 'd' | 'i' =>
    let (n, p) := p.nextNumber
    let sign := if n < 0 then ['-'] else if l.plus then ['+'] else if l.blank then [' '] else []
    p.write (l.number sign (digitsIn 10 n.natAbs false))
  | 'u' | 'o' | 'x' | 'X' =>
    let (n, p) := p.nextNumber
    let n := (n % wordCount).toNat
    let (base, mark) := match kind with
      | 'u' => (10, [])
      | 'o' => (8, ['0'])
      | _ => (16, ['0', kind])
    p.write (l.number (if l.alternate && n != 0 then mark else []) (digitsIn base n (kind == 'X')))
  | 'f' | 'F' | 'e' | 'E' | 'g' | 'G' | 'a' | 'A' =>
    let (word, p) := p.next
    let (n, complaint) := wordReal word
    (p.complain complaint).write (l.real kind n)
  | _ => p.fail (.invalidDirective ('%' :: directive ++ [kind]))

/-- Writes what a directive asks for; `cs` starts behind its percent sign. -/
def directive (wide : Bool) (p : Progress) (cs : List Char) : Progress × List Char :=
  let flags := cs.takeWhile fun c => ['#', '-', '+', ' ', '0'].contains c
  let (width, p, rest) := count p (cs.drop flags.length)
  let (precision, p, rest) :=
    match rest with
    | '.' :: rest => let (n, p, rest) := count p rest; (some (n.getD 0), p, rest)
    | rest => (none, p, rest)
  match rest with
  | [] => (p.fail .missingCharacter, [])
  | kind :: rest' =>
    let width := width.getD 0
    let layout : Layout := ⟨flags.contains '-' || width < 0, flags.contains '0', flags.contains '+',
      flags.contains ' ', flags.contains '#', width.natAbs,
      precision.bind fun n => if n < 0 then none else some n.toNat⟩
    (convert wide p layout (cs.take (cs.length - rest.length)) kind, rest')

/-- Goes through a format once. With `wide` octets may be spelled by hexadecimal digits, and an escape
    can end all output. Every round takes a character. -/
def once (wide : Bool) : (fuel : Nat) → Progress → List Char → Progress
  | 0, p, _ => p
  | _, p, [] => p
  | fuel + 1, p, cs =>
    if p.finished then p
    else
      match cs with
      | '\\' :: rest =>
        if wide && rest.head? == some 'c' then { p with finished := true }
        else
          let (c, rest) := (if wide then hexadecimal? rest else none).getD (escape rest)
          once wide fuel (p.write [c]) rest
      | '%' :: '%' :: rest => once wide fuel (p.write ['%']) rest
      | '%' :: rest => let (p, rest) := directive wide p rest; once wide fuel p rest
      | c :: rest => once wide fuel (p.write [c]) rest
      | [] => p

/-- Goes through a format until no words are left, or until it takes none. -/
def again (wide : Bool) (format : List Char) : (fuel : Nat) → Progress → Progress
  | 0, p => p
  | fuel + 1, p =>
    let q := once wide (format.length + 1) p format
    if q.finished || q.words = [] || q.words.length = p.words.length then q
    else again wide format fuel q

/-- What words after a format come to: the text, the complaints, how many words were taken, and
    whether the text ends early. -/
structure Printed where
  written : List Char
  complaints : List Complaint
  taken : Nat
  finished : Bool
  deriving DecidableEq, Repr

/-- Writes words after a format, whether or not it can be finished. -/
def print (wide : Bool) (format : List Char) (words : List (List Char)) : Printed :=
  let p := again wide format (words.length + 1) ⟨[], [], words, false⟩
  ⟨p.written.reverse, p.complaints.reverse, words.length - p.words.length, p.finished⟩

end NativeExtension.Shell.Format

import NativeExtension.Program.Filter

/-!
Programs of a host that put lines into order or leave out those that repeat the one before them.
-/
namespace NativeExtension.Utility

open Shell (Run)

/-- How two keys are compared: as numbers, by what may be left out of them, and which way round. -/
structure KeyStyle where
  numeric : Bool
  general : Bool
  human : Bool
  version : Bool
  month : Bool
  folds : Bool
  dictionary : Bool
  skipsBlanks : Bool
  reversed : Bool
  deriving DecidableEq

/-- The style without any option. -/
def KeyStyle.plain : KeyStyle := ⟨false, false, false, false, false, false, false, false, false⟩

/-- A style with the option that a letter stands for. -/
def KeyStyle.with? (s : KeyStyle) : Char → Option KeyStyle
  | 'n' => some { s with numeric := true }
  | 'g' => some { s with general := true }
  | 'h' => some { s with human := true }
  | 'V' => some { s with version := true }
  | 'M' => some { s with month := true }
  | 'f' => some { s with folds := true }
  | 'd' => some { s with dictionary := true }
  | 'b' => some { s with skipsBlanks := true }
  | 'r' => some { s with reversed := true }
  | 'i' => some s
  | _ => none

/-- Whether a character is a blank between fields. -/
def isFieldBlank (c : Char) : Bool := c == ' ' || c == '\t' || c == '\n'

/-- A key: where it starts and ends, and how it is compared. Fields count from zero; a key without an
    end goes on to the end of the line. -/
structure SortKey where
  field : Nat
  character : Nat
  lastField : Option Nat
  lastCharacter : Nat
  style : KeyStyle
  skipsEndBlanks : Bool

/-- The part of a line behind so many fields. Without a mark between fields, the blanks in front of a
    field belong to it. `keepMark` leaves the mark behind the last one. -/
def afterFields (mark : Option Char) (keepMark : Bool) : (count : Nat) → List Char → List Char
  | 0, cs => cs
  | n + 1, cs =>
    match mark with
    | some m =>
      let rest := cs.dropWhile (· != m)
      if n = 0 && keepMark then rest else afterFields mark keepMark n (rest.drop 1)
    | none => afterFields mark keepMark n ((cs.dropWhile isFieldBlank).dropWhile (!isFieldBlank ·))

/-- The text of a key in a line. -/
def SortKey.text (k : SortKey) (mark : Option Char) (line : List Char) : List Char :=
  let skip (isSkipped : Bool) (cs : List Char) : List Char :=
    if isSkipped then cs.dropWhile isFieldBlank else cs
  let start := (skip k.style.skipsBlanks (afterFields mark false k.field line)).drop k.character
  match k.lastField with
  | none => start
  | some last =>
    let rest :=
      if k.lastCharacter = 0 then afterFields mark true (last + 1) line
      else (skip k.skipsEndBlanks (afterFields mark false last line)).drop k.lastCharacter
    start.take (start.length - rest.length)

/-- The number that a text starts with, as a whole number with places behind the point. -/
def leadingDecimal (cs : List Char) : Decimal × List Char :=
  let cs := cs.dropWhile isFieldBlank
  let negative := cs.head? == some '-'
  let body := if negative then cs.drop 1 else cs
  let whole := body.takeWhile Char.isDigit
  let (fraction, rest) := match body.drop whole.length with
    | '.' :: rest => (rest.takeWhile Char.isDigit, rest.dropWhile Char.isDigit)
    | rest => ([], rest)
  let n : Int := (Shell.natural? (whole ++ fraction)).getD 0
  (⟨if negative then -n else n, fraction.length⟩, rest)

/-- Compares two decimals. -/
def Decimal.order (a b : Decimal) : Ordering :=
  let places := max a.places b.places
  compare (a.scaled places) (b.scaled places)

/-- Compares what two texts start with as numbers. -/
def numericOrder (a b : List Char) : Ordering := (leadingDecimal a).1.order (leadingDecimal b).1

/-- Compares numbers with letters for multiples behind them. -/
def humanOrder (a b : List Char) : Ordering :=
  let rank (cs : List Char) : Nat :=
    match (leadingDecimal cs).2 with
    | c :: _ => (("KMGTPEZY".toList.findIdx? (· == c.toUpper)).map (· + 1)).getD 0
    | [] => 0
  (compare (rank a) (rank b)).then (numericOrder a b)

/-- Compares numbers with powers of ten. What is no number comes first. -/
def generalOrder (a b : List Char) : Ordering :=
  let key (cs : List Char) : Nat × Decimal :=
    let body := (cs.dropWhile isFieldBlank).takeWhile fun c => c.isDigit || "+-.eE".toList.contains c
    match Decimal.ofWord? body with
    | some d => (1, d)
    | none => (0, ⟨0, 0⟩)
  (compare (key a).1 (key b).1).then ((key a).2.order (key b).2)

/-- The number of the month that a text starts with. -/
def monthOf (cs : List Char) : Nat :=
  let name := ((cs.dropWhile isFieldBlank).take 3).map Char.toUpper
  let names := ["JAN", "FEB", "MAR", "APR", "MAY", "JUN", "JUL", "AUG", "SEP", "OCT", "NOV", "DEC"]
  ((names.findIdx? (·.toList == name)).map (· + 1)).getD 0

/-- Compares texts in which runs of digits count as numbers. Every run spends fuel. -/
def versionOrder : (fuel : Nat) → List Char → List Char → Ordering
  | 0, _, _ => .eq
  | _, [], [] => .eq
  | fuel + 1, a, b =>
    let rank (c : Char) : Nat := if c == '~' then 0 else if c.isAlpha then c.toNat + 1 else c.toNat + 256
    let word (cs : List Char) : List Char := cs.takeWhile (!·.isDigit)
    let wa := word a
    let wb := word b
    let ra := a.drop wa.length
    let rb := b.drop wb.length
    let na := ra.takeWhile Char.isDigit
    let nb := rb.takeWhile Char.isDigit
    (compare (wa.map rank) (wb.map rank)).then <|
      (compare ((Shell.natural? na).getD 0) ((Shell.natural? nb).getD 0)).then <|
        versionOrder fuel (ra.drop na.length) (rb.drop nb.length)

/-- Compares two texts as a style says, but for which way round. -/
def KeyStyle.order (s : KeyStyle) (a b : List Char) : Ordering :=
  if s.numeric then numericOrder a b
  else if s.general then generalOrder a b
  else if s.human then humanOrder a b
  else if s.month then compare (monthOf a) (monthOf b)
  else if s.version then versionOrder (a.length + b.length + 1) a b
  else
    let kept (cs : List Char) : List Char :=
      let cs := if s.dictionary then cs.filter fun c => isFieldBlank c || c.isAlphanum else cs
      if s.folds then cs.map Char.toUpper else cs
    compare (kept a) (kept b)

/-- Compares two lines by their keys. -/
def keysOrder (mark : Option Char) (keys : List SortKey) (a b : List Char) : Ordering :=
  keys.foldl (fun found k =>
    let order := k.style.order (k.text mark a) (k.text mark b)
    found.then (if k.style.reversed then order.swap else order)) .eq

/-- A place in a key: a field, a character where one is given, and letters for options. -/
def keyPlace? (cs : List Char) : Option (Nat × Nat × List Char) :=
  let field := cs.takeWhile Char.isDigit
  let (character, rest) := match cs.drop field.length with
    | '.' :: rest => (rest.takeWhile Char.isDigit, rest.dropWhile Char.isDigit)
    | rest => ([], rest)
  (Shell.natural? field).map fun n => (n, (Shell.natural? character).getD 0, rest)

/-- The key that a word spells. One without options of its own has those of the whole. -/
def sortKey (usual : KeyStyle) (word : List Char) : Run SortKey := do
  let fail {α : Type} (text : String) : Run α := do
    complain (text.toList ++ ": invalid field specification ".toList ++ quoted word)
    quit 2
  let style (style : KeyStyle) (letters : List Char) : Run KeyStyle := do
    match letters.foldlM KeyStyle.with? style with
    | some style => pure style
    | none => fail "stray character in field spec"
  let start := word.takeWhile (· != ',')
  match keyPlace? start with
  | none =>
    complain ("invalid number at field start: invalid count at start of ".toList ++ quoted start)
    quit 2
  | some (field, character, letters) =>
    if field = 0 then fail "field number is zero"
    let first ← style .plain letters
    match word.drop start.length with
    | _ :: behind =>
      match keyPlace? behind with
      | none =>
        complain ("invalid number after ',': invalid count at start of ".toList ++ quoted behind)
        quit 2
      | some (last, lastCharacter, more) =>
        if last = 0 then fail "field number is zero"
        let whole ← style first (more.filter (· != 'b'))
        let own := letters != [] || more != []
        pure ⟨field - 1, character - 1, some (last - 1), lastCharacter, if own then whole else usual,
          if own then more.contains 'b' else usual.skipsBlanks⟩
    | [] =>
      pure ⟨field - 1, character - 1, none, 0, if letters != [] then first else usual, false⟩

/-- Lines of which those that are equal to the one before are left out. -/
def withoutRepeats (isSame : List Char → List Char → Bool) : List (List Char) → List (List Char)
  | [] => []
  | [line] => [line]
  | line :: next :: rest =>
    match withoutRepeats isSame (next :: rest) with
    | [] => [line]
    | other :: others => if isSame line other then line :: others else line :: other :: others

/-- The first line that is out of order, with its number. -/
def disorder? (isFine : List Char → List Char → Bool) :
    (n : Nat) → List (List Char) → Option (Nat × List Char)
  | n, a :: b :: rest =>
    if isFine a b then disorder? isFine (n + 1) (b :: rest) else some (n + 1, b)
  | _, _ => none

/-- Writes lines in order. -/
def sort : Tool := fun args => do
  let c ← options ⟨"bdfghiMnrRVcCmsuz".toList, "koStT".toList, [("reverse", 'r'), ("unique", 'u'),
    ("numeric-sort", 'n'), ("key", 'k'), ("field-separator", 't'), ("output", 'o'), ("stable", 's'),
    ("check", 'c'), ("merge", 'm'), ("ignore-case", 'f'), ("version-sort", 'V'),
    ("human-numeric-sort", 'h'), ("general-numeric-sort", 'g'), ("ignore-leading-blanks", 'b'),
    ("dictionary-order", 'd'), ("month-sort", 'M')], true⟩ 2 args
  let usual := c.options.foldl (fun s o => (s.with? o.1).getD s) KeyStyle.plain
  let mark ← match c.value? 't' with
    | none => pure none
    | some [m] => pure (some m)
    | some ['\\', '0'] => pure (some '\x00')
    | some [] => complain "empty tab".toList; quit 2
    | some word => complain ("multi-character tab ".toList ++ quoted word); quit 2
  let keys ← (c.values 'k').mapM (sortKey usual)
  let keys := if keys = [] then [⟨0, 0, none, 0, usual, false⟩] else keys
  let byKeys := keysOrder mark keys
  let order (a b : List Char) : Ordering :=
    if c.has 's' || c.has 'u' then byKeys a b
    else
      let whole := compare a b
      (byKeys a b).then (if usual.reversed then whole.swap else whole)
  let mut lines := []
  for path in inputs c.operands do
    match ← input path with
    | .ok cs => lines := lines ++ (linesOf cs).1
    | .error e =>
      let isClosed := path == ['-'] && (← Run.endpoint 0).isNone
      let doing := if isClosed then "stat failed: "
        else if e = .isDirectory || path == ['-'] then "read failed: "
        else "cannot read: "
      complain (doing.toList ++ plainPath path ++ ": ".toList ++ e.reason.toList)
      quit 2
  if c.has 'c' || c.has 'C' then
    let isFine (a b : List Char) : Bool :=
      if c.has 'u' then byKeys a b == .lt else order a b != .gt
    match disorder? isFine 1 lines with
    | none => pure 0
    | some (n, line) =>
      if !c.has 'C' then
        let name := c.operands.headD ['-']
        complain (name ++ ':' :: digits n ++ ": disorder: ".toList ++ line)
      pure 1
  else
    let sorted := lines.mergeSort fun a b => order a b != .gt
    let kept := if c.has 'u' then withoutRepeats (fun a b => byKeys a b == .eq) sorted else sorted
    match c.value? 'o' with
    | none => Run.emit 1 (ofLines kept); pure 0
    | some path =>
      match ← write path (ofLines kept) with
      | .ok () => pure 0
      | .error e =>
        complain ("open failed: ".toList ++ plainPath path ++ ": ".toList ++ e.reason.toList)
        pure 2

/-- Lines gathered with those behind them that are the same. -/
def runsOf (isSame : List Char → List Char → Bool) : List (List Char) → List (List (List Char))
  | [] => []
  | line :: rest =>
    match runsOf isSame rest with
    | [] => [[line]]
    | [] :: others => [line] :: others
    | (next :: more) :: others =>
      if isSame line next then (line :: next :: more) :: others
      else [line] :: (next :: more) :: others

/-- Writes lines without those that repeat the one before, and tells how often each came where asked
    for. -/
def unique : Tool := fun args => do
  let c ← options ⟨"cdDiuz".toList, "fsw".toList, [("count", 'c'), ("repeated", 'd'),
    ("unique", 'u'), ("ignore-case", 'i'), ("skip-fields", 'f'), ("skip-chars", 's'),
    ("check-chars", 'w')], true⟩ 1 args
  let number (letter : Char) : Nat := ((c.value? letter).bind count?).getD 0
  let key (line : List Char) : List Char :=
    let rest := (afterFields none false (number 'f') line).drop (number 's')
    let rest := match c.value? 'w' with
      | some word => rest.take ((count? word).getD rest.length)
      | none => rest
    if c.has 'i' then rest.map Char.toLower else rest
  let (path, target) ← match c.operands with
    | [] => pure (['-'], none)
    | [path] => pure (path, none)
    | [path, target] => pure (path, some target)
    | _ :: _ :: extra :: _ => misuse 1 ("extra operand ".toList ++ quoted extra)
  match ← input path with
  | .error e =>
    let isRead := e = .isDirectory || path == ['-']
    let doing := if path == ['-'] then "error reading '-'".toList
      else if isRead then "error reading ".toList ++ quotedPath path
      else plainPath path
    complainOf doing e
    pure 1
  | .ok cs =>
    let runs := runsOf (fun a b => key a == key b) (linesOf cs).1
    let shown := runs.flatMap fun lines =>
      let isRepeated := lines.length > 1
      if c.has 'D' then if isRepeated then lines else []
      else if (c.has 'd' && !isRepeated) || (c.has 'u' && isRepeated) then []
      else
        let line := lines.headD []
        [if c.has 'c' then flushRight 7 (digits lines.length) ++ ' ' :: line else line]
    match target with
    | none => Run.emit 1 (ofLines shown); pure 0
    | some target =>
      match ← write target (ofLines shown) with
      | .ok () => pure 0
      | .error e => complainOf (plainPath target) e; pure 1

end NativeExtension.Utility

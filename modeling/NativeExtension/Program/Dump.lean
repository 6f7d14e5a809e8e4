import NativeExtension.Program.Launch

/-!
The program that writes octets as numbers or characters.
-/
namespace NativeExtension.Utility

open Shell (Run)

/-- How octets are written: so many of them together, as a character or as a number to a base. -/
structure OctetFormat where
  /-- The letter for characters, names, signed and unsigned numbers, or a base. -/
  kind : Char
  size : Nat
  deriving DecidableEq, Repr

namespace OctetFormat

/-- The columns that one field takes, with the blank in front of it. -/
def width (f : OctetFormat) : Nat :=
  match f.kind, f.size with
  | 'a', _ | 'c', _ => 4
  | 'x', n => 2 * n + 1
  | 'o', 1 => 4
  | 'o', 2 => 7
  | 'o', 4 => 12
  | 'o', _ => 23
  | 'u', 1 => 4
  | 'u', 2 => 6
  | 'u', 4 => 11
  | 'u', _ => 21
  | _, 1 => 5
  | _, 2 => 7
  | _, 4 => 12
  | _, _ => 21

/-- The names of the octets that are not shown as characters. -/
def names : List String :=
  ["nul", "soh", "stx", "etx", "eot", "enq", "ack", "bel", "bs", "ht", "nl", "vt", "ff", "cr", "so",
    "si", "dle", "dc1", "dc2", "dc3", "dc4", "nak", "syn", "etb", "can", "em", "sub", "esc", "fs",
    "gs", "rs", "us", "sp"]

/-- Digits with zeros in front of them up to a width. -/
def padded (width : Nat) (ds : List Char) : List Char := List.replicate (width - ds.length) '0' ++ ds

/-- An octet as a character. -/
def character (c : Char) : List Char :=
  match c with
  | '\x00' => "\\0".toList
  | '\x07' => "\\a".toList
  | '\x08' => "\\b".toList
  | '\x0c' => "\\f".toList
  | '\n' => "\\n".toList
  | '\r' => "\\r".toList
  | '\t' => "\\t".toList
  | '\x0b' => "\\v".toList
  | c => if ' ' ≤ c && c ≤ '~' then [c] else padded 3 (Nat.toDigits 8 c.toNat)

/-- A few octets as one field. -/
def field (f : OctetFormat) (cs : List Char) : List Char :=
  let n := cs.foldr (fun c n => n * 256 + c.toNat) 0
  match f.kind with
  | 'c' => character (cs.headD '\x00')
  | 'a' =>
    let n := n % 128
    if n = 127 then "del".toList
    else
      match names[n]? with
      | some name => name.toList
      | none => [Char.ofNat n]
  | 'x' => padded (2 * f.size) (Nat.toDigits 16 n)
  | 'o' => padded (f.width - 1) (Nat.toDigits 8 n)
  | 'u' => digits n
  | _ =>
    let whole := Nat.pow 256 f.size
    if 2 * n < whole then digits n else '-' :: digits (whole - n)

/-- Why a word asks for no format: a letter that is none, or a size that there is not. -/
inductive WordFault where
  | letter (c : Char)
  | size (n : Nat)

/-- The formats that a word asks for: letters, each with the number of octets that belong together. -/
def ofWord : (fuel : Nat) → List Char → Except WordFault (List (OctetFormat × Bool))
  | 0, _ => .ok []
  | _, [] => .ok []
  | fuel + 1, kind :: rest =>
    if !"acdoux".toList.contains kind then .error (.letter kind)
    else
      let ds := rest.takeWhile Char.isDigit
      let isPlain := kind == 'a' || kind == 'c'
      let (size, after) :=
        if isPlain then (1, rest)
        else
          match ds, rest with
          | [], 'C' :: rest => (1, rest)
          | [], 'S' :: rest => (2, rest)
          | [], 'I' :: rest => (4, rest)
          | [], 'L' :: rest => (8, rest)
          | [], rest => (4, rest)
          | ds, rest => ((Shell.natural? ds).getD 0, rest.drop ds.length)
      let shows := after.head? == some 'z'
      let after := if shows then after.tail else after
      if [1, 2, 4, 8].contains size then
        (ofWord fuel after).map ((⟨kind, size⟩, shows) :: ·)
      else .error (.size size)

end OctetFormat

/-- The address of a line to a base, or nothing. -/
def addressText (base : Char) (n : Nat) : List Char :=
  match base with
  | 'd' => OctetFormat.padded 7 (digits n)
  | 'x' => OctetFormat.padded 6 (Nat.toDigits 16 n)
  | 'n' => []
  | _ => OctetFormat.padded 7 (Nat.toDigits 8 n)

/-- One line of octets in one format. What the fields of a whole line are narrower than the line is
    shared out among them, from the last one on. -/
def dumpLine (f : OctetFormat) (lineWidth octets : Nat) (cs : List Char) : List Char :=
  let fields := octets / f.size
  let room := lineWidth - (f.width - 1) * fields
  (piecesOf f.size cs.length cs).zipIdx.flatMap fun (piece, i) =>
    let left := fields - i
    flushRight (f.width - 1 + (room * left / fields - room * (left - 1) / fields)) (f.field piece)

/-- Octets as lines of fields. Lines that are the same as the one before are left out. -/
def dumpLines (base : Char) (formats : List (OctetFormat × Bool)) (squeezes : Bool) (width : Nat) :
    (address : Nat) → (before : Option (List Char)) → (marked : Bool) → List (List Char) → List Char
  | address, _, _, [] => if base == 'n' then [] else addressText base address ++ ['\n']
  | address, before, marked, line :: rest =>
    let next := address + line.length
    if squeezes && before == some line && !rest.isEmpty then
      (if marked then [] else ['*', '\n']) ++
        dumpLines base formats squeezes width next (some line) true rest
    else
      let lineWidth := (formats.map fun (f, _) => f.width * (width / f.size)).foldl max 0
      let shown := formats.zipIdx.flatMap fun ((f, shows), i) =>
        let start := addressText base address
        let start := if i = 0 then start else start.map fun _ => ' '
        let fields := dumpLine f lineWidth width line
        let plain := if shows then
            List.replicate (lineWidth - fields.length) ' ' ++ "  >".toList ++
              (line.map fun c => if ' ' ≤ c && c ≤ '~' then c else '.') ++ ['<']
          else []
        start ++ fields ++ plain ++ ['\n']
      shown ++ dumpLines base formats squeezes width next (some line) false rest

/-- Writes octets as numbers or characters. -/
def dump : Tool := fun args => do
  let c ← options ⟨"abcdosxv".toList, "AtjNw".toList, [("address-radix", 'A'), ("format", 't'),
    ("skip-bytes", 'j'), ("read-bytes", 'N'), ("output-duplicates", 'v'), ("width", 'w')], true⟩ 1
    args
  let formats ← c.options.flatMapM fun (letter, word) => do
    let plain (kind : Char) (size : Nat) : Run (List (OctetFormat × Bool)) :=
      pure [(⟨kind, size⟩, false)]
    match letter with
    | 'a' => plain 'a' 1
    | 'b' => plain 'o' 1
    | 'c' => plain 'c' 1
    | 'd' => plain 'u' 2
    | 'o' => plain 'o' 2
    | 's' => plain 'd' 2
    | 'x' => plain 'x' 2
    | 't' =>
      match OctetFormat.ofWord (word.length + 1) word with
      | .ok formats => pure formats
      | .error (.letter k) =>
        complain ("invalid character '".toList ++ [k] ++ "' in type string ".toList ++ quoted word)
        quit 1
      | .error (.size n) =>
        complain ("invalid type string ".toList ++ quoted word ++
          ";\nthis system doesn't provide a ".toList ++ digits n ++
          "-byte integral type".toList)
        quit 1
    | _ => pure []
  let formats := if formats = [] then [((⟨'o', 2⟩ : OctetFormat), false)] else formats
  let base := ((c.value? 'A').bind List.head?).getD 'o'
  let number (letter : Char) : Option Nat := (c.value? letter).bind multiple?
  let mut status := 0
  let mut all := []
  let mut isRead := false
  for path in inputs c.operands do
    let need (cs : List Char) : Nat := match number 'N' with
      | some n => (number 'j').getD 0 + n - all.length
      | none => cs.length
    match ← inputNeeding path need with
    | .ok cs =>
      all := all ++ cs
      isRead := true
    | .error e =>
      let named := if path == ['-'] then "'standard input'".toList else plainPath path
      complainOfInput path named "standard input".toList e
      if path == ['-'] || e = .isDirectory then isRead := true
      status := 1
  let skipped := (number 'j').getD 0
  let rest := all.drop skipped
  let taken := match number 'N' with
    | some n => rest.take n
    | none => rest
  let width := (number 'w').getD 16
  if isRead then
    Run.emit 1 (dumpLines base formats (!c.has 'v') width skipped none false
      (piecesOf width taken.length taken))
  pure status

end NativeExtension.Utility

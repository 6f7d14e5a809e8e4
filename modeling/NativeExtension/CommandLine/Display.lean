import NativeExtension.CommandLine.Pictograph
import NativeExtension.Text.Width

/-!
Text as it appears on a terminal without colours. Styles are written as tags in brackets, and values
are escaped so that they hold none. Names between colons can stand for pictographs, tabs become
spaces, and controls that would move the cursor are left out.
-/
namespace NativeExtension.CommandLine.Display

/-- Whether a character can follow the bracket that opens a tag. -/
def opensTag (c : Char) : Bool :=
  ('a' ≤ c && c ≤ 'z') || c == '#' || c == '/' || c == '@'

/-- The characters up to and with the bracket that closes a tag; a bracket that opens one ends the
    search. -/
def untilClosed : List Char → Option (List Char × List Char)
  | [] => none
  | c :: rest =>
    if c == '[' then none
    else if c == ']' then some ([c], rest)
    else (untilClosed rest).map fun (tag, after) => (c :: tag, after)

/-- A tag and what follows it. -/
def tag? : List Char → Option (List Char × List Char)
  | '[' :: c :: rest =>
    if opensTag c then (untilClosed rest).map fun (tag, after) => ('[' :: c :: tag, after) else none
  | _ => none

/-- A piece of text with tags: other text, or a tag with the number of backslashes in front of it.
    -/
inductive Piece where
  | plain (cs : List Char)
  | tagged (backslashes : Nat) (tag : List Char)

/-- The pieces of a text. `plain` holds the other text read so far in reverse. Every round takes a
    character at least, so the length of the text and one more is fuel enough. -/
def pieces : (fuel : Nat) → (plain : List Char) → List Char → List Piece
  | 0, plain, rest => [.plain (plain.reverse ++ rest)]
  | _, plain, [] => [.plain plain.reverse]
  | fuel + 1, plain, c :: rest =>
    let backslashes := ((c :: rest).takeWhile (· == '\\')).length
    match tag? ((c :: rest).drop backslashes) with
    | some (tag, after) => .plain plain.reverse :: .tagged backslashes tag :: pieces fuel [] after
    | none =>
      if backslashes = 0 then pieces fuel (c :: plain) rest
      else pieces fuel (List.replicate backslashes '\\' ++ plain) ((c :: rest).drop backslashes)

/-- The pieces of a text. -/
def piecesOf (cs : List Char) : List Piece := pieces (cs.length + 1) [] cs

/-- Escapes what would be a tag. A single backslash at the end is doubled. -/
def escape (s : String) : List Char :=
  let escaped := (piecesOf s.toList).flatMap fun
    | .plain cs => cs
    | .tagged n tag => List.replicate (2 * n + 1) '\\' ++ tag
  let endsSingle := ['\\'].isSuffixOf escaped && !(['\\', '\\'].isSuffixOf escaped)
  if endsSingle then escaped ++ ['\\'] else escaped

/-- A backslash in front of a bracket goes away with it where the bracket opens no tag. -/
def openBrackets : List Char → List Char
  | '\\' :: '[' :: rest => '[' :: openBrackets rest
  | c :: rest => c :: openBrackets rest
  | [] => []

/-- A text without its tags. Of the backslashes in front of a tag each pair stands for one, and a
    single one left over makes the tag text. -/
def withoutTags (ps : Pictographs) (cs : List Char) : List Char :=
  (piecesOf cs).flatMap fun
    | .plain cs => ps.replace (openBrackets cs)
    | .tagged n tag => List.replicate (n / 2) '\\' ++ if n % 2 = 1 then ps.replace tag else []

/-- Bell, backspace, vertical tab, form feed and carriage return. -/
def movesCursor (c : Char) : Bool := [0x07, 0x08, 0x0b, 0x0c, 0x0d].contains c.toNat

/-- The columns between two tab stops. -/
def tabStop : Nat := 8

/-- The parts of a line between its tabs, laid out from a column on. A tab is a space, which is
    measured together with the part in front of it, and as many more as lead to a tab stop. -/
def layOut (column : Nat) : List (List Char) → List Char
  | [] => []
  | [part] => part
  | part :: rest =>
    let spaced := part ++ [' ']
    let reached := column + Text.width spaced
    let more := (tabStop - reached % tabStop) % tabStop
    spaced ++ List.replicate more ' ' ++ layOut (reached + more) rest

/-- Replaces the tabs of a text by the spaces up to the next tab stop, line by line. -/
def expandTabs (cs : List Char) : List Char :=
  ['\n'].intercalate ((cs.splitOn '\n').map fun line => layOut 0 (line.splitOn '\t'))

/-- Characters as they appear. -/
def shown (cs : List Char) : String :=
  String.ofList (expandTabs (cs.filter (!movesCursor ·)))

/-- Text with tags as it appears. A text without any bracket is taken as it is. -/
def tagged (ps : Pictographs) (cs : List Char) : String :=
  shown (if cs.contains '[' then withoutTags ps cs else ps.replace cs)

/-- Text without tags as it appears. -/
def verbatim (ps : Pictographs) (s : String) : String :=
  shown (ps.replace s.toList)

end NativeExtension.CommandLine.Display

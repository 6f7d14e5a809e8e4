import NativeExtension.Text.Blank

/-!
Pictographs by their names. A name between two colons stands for the pictograph of that name, and
can ask for one of its two shapes; between colons that enclose no such name nothing changes.
-/
namespace NativeExtension.CommandLine.Display

/-- The pictographs that have names. None of them is written with a colon or a line feed. -/
structure Pictographs where
  named? : List Char → Option (List Char)
  plain : ∀ {name picture : List Char}, named? name = some picture →
    ':' ∉ picture ∧ '\n' ∉ picture

/-- A part of a text: a character, or a name with the colons around it. -/
inductive Segment where
  | char (c : Char)
  | named (name : List Char)
  deriving DecidableEq, Repr

/-- The characters of a part. -/
def Segment.text : Segment → List Char
  | .char c => [c]
  | .named name => ':' :: name ++ [':']

/-- The parts of a text. `begun` is what was read behind a colon, in reverse, if that may still become
    a name. No name holds a blank, and no colon belongs to two names. -/
def segments : (begun : Option (List Char)) → List Char → List Segment
  | none, [] => []
  | some name, [] => (':' :: name.reverse).map .char
  | none, c :: rest =>
    if c = ':' then segments (some []) rest else .char c :: segments none rest
  | some name, c :: rest =>
    if c = ':' then .named name.reverse :: segments none rest
    else if Text.isBlank c then (':' :: name.reverse).map .char ++ .char c :: segments none rest
    else segments (some (c :: name)) rest

/-- The name of a pictograph and the character that asks for one of its two shapes. -/
def splitVariant (name : List Char) : List Char × List Char :=
  if "-emoji".toList.isSuffixOf name then (name.take (name.length - 6), ['\ufe0f'])
  else if "-text".toList.isSuffixOf name then (name.take (name.length - 5), ['\ufe0e'])
  else (name, [])

namespace Pictographs

/-- What stands for a name between colons. -/
def picture? (ps : Pictographs) (name : List Char) : Option (List Char) :=
  let (base, variant) := splitVariant name
  (ps.named? base).map (· ++ variant)

/-- A part as it appears. -/
def shown (ps : Pictographs) : Segment → List Char
  | .char c => [c]
  | .named name => (ps.picture? name).getD (Segment.named name).text

/-- A text with pictographs for their names. -/
def replace (ps : Pictographs) (cs : List Char) : List Char :=
  (segments none cs).flatMap ps.shown

/-- The pictographs whose names are numbers, which a place in a file can look like. -/
def numbers : Pictographs where
  named? name :=
    if name = "100".toList then some ['💯']
    else if name = "1234".toList then some ['🔢']
    else none
  plain h := by
    split at h
    · cases h
      decide
    · split at h
      · cases h
        decide
      · cases h

end Pictographs

end NativeExtension.CommandLine.Display

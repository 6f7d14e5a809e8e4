import NativeExtension.Text.CharacterClass

/-!
Patterns over texts: a question mark for any character, a star for any text, brackets for one of
several characters. A text matches as a whole.
-/
namespace NativeExtension.Shell

/-- A character of a text, and whether it stands only for itself. -/
structure Marked where
  char : Char
  literal : Bool
  deriving DecidableEq, Repr

/-- A part of a pattern. -/
inductive PatternPart where
  | exactly (c : Char)
  | anyChar
  | anyText
  | oneOf (inverted : Bool) (ranges : List (Char × Char))
  deriving DecidableEq, Repr

/-- A pattern. -/
abbrev Pattern := List PatternPart

namespace Pattern

/-- The class of characters that stands between brackets with colons, and what follows it. -/
def class? : List Marked → Option (Text.CharacterClass × List Marked)
  | ⟨'[', false⟩ :: ⟨':', false⟩ :: rest =>
    let name := (rest.map Marked.char).takeWhile Char.isAlpha
    match rest.drop name.length with
    | ⟨':', false⟩ :: ⟨']', false⟩ :: after => (Text.CharacterClass.ofName? name).map (·, after)
    | _ => none
  | _ => none

/-- The ranges between brackets, and what follows them. A bracket that closes nothing is text, and
    so is one that stands first. Every part spends fuel. -/
def ranges : (fuel : Nat) → (first : Bool) → List Marked →
    Option (List (Char × Char) × List Marked)
  | 0, _, _ => none
  | _, _, [] => none
  | fuel + 1, first, ⟨c, literal⟩ :: rest =>
    if c == ']' && !literal && !first then some ([], rest)
    else
      match class? (⟨c, literal⟩ :: rest), rest with
      | some (k, rest), _ =>
        (ranges fuel false rest).map fun (rs, after) => (k.members.map (fun c => (c, c)) ++ rs, after)
      | none, ⟨'-', false⟩ :: ⟨d, dLiteral⟩ :: after =>
        if d == ']' && !dLiteral then some ([(c, c), ('-', '-')], after)
        else (ranges fuel false after).map fun (rs, after) => ((c, d) :: rs, after)
      | none, rest => (ranges fuel false rest).map fun (rs, after) => ((c, c) :: rs, after)

/-- The brackets that open behind the given bracket. -/
def brackets? : List Marked → Option (PatternPart × List Marked)
  | ⟨'!', false⟩ :: rest =>
    (ranges (rest.length + 1) true rest).map fun (rs, after) => (.oneOf true rs, after)
  | cs => (ranges (cs.length + 1) true cs).map fun (rs, after) => (.oneOf false rs, after)

/-- The pattern that a marked text spells. Every round takes a character. -/
def ofMarkedAux : (fuel : Nat) → List Marked → Pattern
  | 0, _ => []
  | _, [] => []
  | fuel + 1, ⟨c, literal⟩ :: rest =>
    if literal then .exactly c :: ofMarkedAux fuel rest
    else if c == '?' then .anyChar :: ofMarkedAux fuel rest
    else if c == '*' then .anyText :: ofMarkedAux fuel rest
    else if c == '[' then
      match brackets? rest with
      | some (part, after) => part :: ofMarkedAux fuel after
      | none => .exactly c :: ofMarkedAux fuel rest
    else .exactly c :: ofMarkedAux fuel rest

/-- A marked text without the backslashes that are not literal: the character behind each of them is.
    -/
def withoutEscapes : List Marked → List Marked
  | [] => []
  | [m] => [m]
  | m :: n :: rest =>
    if m == ⟨'\\', false⟩ then ⟨n.char, true⟩ :: withoutEscapes rest
    else m :: withoutEscapes (n :: rest)

/-- The pattern that a marked text spells. -/
def ofMarked (cs : List Marked) : Pattern := ofMarkedAux cs.length (withoutEscapes cs)

/-- Whether a text matches a pattern. -/
def isMatch : Pattern → List Char → Bool
  | [], cs => cs.isEmpty
  | .anyText :: parts, [] => isMatch parts []
  | .anyText :: parts, c :: cs => isMatch parts (c :: cs) || isMatch (.anyText :: parts) cs
  | _ :: _, [] => false
  | .exactly d :: parts, c :: cs => c == d && isMatch parts cs
  | .anyChar :: parts, _ :: cs => isMatch parts cs
  | .oneOf inverted ranges :: parts, c :: cs =>
    (ranges.any fun (low, high) => low ≤ c && c ≤ high) != inverted && isMatch parts cs
termination_by parts cs => parts.length + cs.length

/-- What is left of a text without the longest or the shortest start that matches. -/
def withoutStart (p : Pattern) (longest : Bool) (cs : List Char) : List Char :=
  let counts := List.range (cs.length + 1)
  let counts := if longest then counts.reverse else counts
  match counts.find? fun n => isMatch p (cs.take n) with
  | some n => cs.drop n
  | none => cs

/-- What is left of a text without the longest or the shortest end that matches. -/
def withoutEnd (p : Pattern) (longest : Bool) (cs : List Char) : List Char :=
  let counts := List.range (cs.length + 1)
  let counts := if longest then counts else counts.reverse
  match counts.find? fun n => isMatch p (cs.drop n) with
  | some n => cs.take n
  | none => cs

end Pattern

end NativeExtension.Shell

import NativeExtension.Regex.Syntax

/-!
Matching: where a text matches an expression that starts at a place. Of all matches at the first
place that has one the longest counts, and inside it every part is as long as the parts before it
allow. Matches are followed all at once, place by place, so that the work is bounded.
-/
namespace NativeExtension.Regex

/-- A text that is matched: its symbols, whether its lines have starts and ends of their own, whether
    cases are the same, and whether its start and its end count as those of a line. -/
structure Subject where
  symbols : Array Symbol
  byLine : Bool
  foldsCase : Bool
  hasStart : Bool
  hasEnd : Bool

/-- A place that a match has come to, with the places of the groups. -/
structure Spot where
  place : Nat
  groups : List (Nat × Nat × Nat)
  deriving DecidableEq, Repr

/-- A symbol in the other case. -/
def otherCase (s : Symbol) : Symbol :=
  if s < 0x80 then
    let c := Char.ofNat s
    if c.isUpper then c.toLower.toNat else c.toUpper.toNat
  else s

/-- Whether a symbol, or the same one in the other case where that counts, passes a test. -/
def Subject.passes (t : Subject) (p : Symbol → Bool) (s : Symbol) : Bool :=
  p s || (t.foldsCase && p (otherCase s))

/-- Whether two symbols count as the same. -/
def Subject.same (t : Subject) (a b : Symbol) : Bool := t.passes (· == a) b

/-- Whether a place lies where an edge is asked for. -/
def Subject.isAt (t : Subject) (place : Nat) : Edge → Bool
  | .lineStart =>
    (place = 0 && t.hasStart) || (place != 0 && t.byLine && t.symbols[place - 1]? == some 10)
  | .lineEnd =>
    (place = t.symbols.size && t.hasEnd) || (t.byLine && t.symbols[place]? == some 10)
  | .textStart => place = 0
  | .textEnd => place = t.symbols.size
  | e =>
    let before := place != 0 && t.symbols[place - 1]?.any isWordSymbol
    let after := t.symbols[place]?.any isWordSymbol
    match e with
    | .wordStart => !before && after
    | .wordEnd => before && !after
    | .wordEdge => before != after
    | _ => before == after

/-- Spots without those whose place has been there before. With `all` they differ in their groups as
    well. -/
def distinct (all : Bool) (size : Nat) (spots : List Spot) : List Spot :=
  if all then spots.eraseDups
  else
    let seen := Array.replicate (size + 1) false
    (spots.foldl (fun (seen, kept) spot =>
      if seen.getD spot.place true then (seen, kept)
      else (seen.setIfInBounds spot.place true, spot :: kept)) (seen, ([] : List Spot))).2.reverse

/-- Spots with the farthest first. -/
def farthestFirst (spots : List Spot) : List Spot :=
  spots.mergeSort fun a b => decide (b.place ≤ a.place)

/-- The symbols between two places. -/
def Subject.between (t : Subject) (first last : Nat) : List Symbol :=
  (t.symbols.extract first last).toList

/-- The spots that repetitions of a step lead to, the farthest first. A repetition that leads nowhere
    is not repeated. Every round spends fuel. -/
def rounds (all : Bool) (size least : Nat) (most : Option Nat) (step : Spot → List Spot) :
    (fuel count : Nat) → List Spot → List Spot
  | 0, _, _ => []
  | _, _, [] => []
  | fuel + 1, count, spots =>
    let reached := if least ≤ count then spots else []
    if most.any (· ≤ count) then reached
    else
      let next := spots.flatMap fun spot =>
        (step spot).filter fun new => new.place != spot.place || count < least
      reached ++ rounds all size least most step fuel (count + 1)
        (distinct all size (farthestFirst next))

/-- The spots that a match leads to, the farthest first. -/
def ends (all : Bool) (t : Subject) : Regex → Spot → List Spot
  | .nothing, spot => [spot]
  | .symbol s, spot =>
    match t.symbols[spot.place]? with
    | some a => if t.same s a then [{ spot with place := spot.place + 1 }] else []
    | none => []
  | .anything, spot => if spot.place < t.symbols.size then
      match t.symbols[spot.place]? with
      | some a => if a < strayOctet then [{ spot with place := spot.place + 1 }] else []
      | none => []
    else []
  | .among inverted members, spot =>
    match t.symbols[spot.place]? with
    | some a =>
      let isMember := t.passes (fun s => members.any (Member.contains s)) a
      if isMember != inverted && a < strayOctet then [{ spot with place := spot.place + 1 }] else []
    | none => []
  | .edge e, spot => if t.isAt spot.place e then [spot] else []
  | .group n r, spot =>
    (ends all t r spot).map fun new =>
      { new with groups := (n, spot.place, new.place) :: new.groups.filter (·.1 != n) }
  | .again n, spot =>
    match spot.groups.lookup n with
    | none => []
    | some (first, last) =>
      let size := last - first
      let here := t.between spot.place (spot.place + size)
      let there := t.between first last
      if here.length = size && (here.zip there).all fun (a, b) => t.same a b then
        [{ spot with place := spot.place + size }]
      else []
  | .sequence r s, spot =>
    let found := (ends all t r spot).flatMap (ends all t s)
    farthestFirst (distinct all t.symbols.size found)
  | .choice r s, spot =>
    farthestFirst (distinct all t.symbols.size (ends all t r spot ++ ends all t s spot))
  | .repeated least most r, spot =>
    let fuel := t.symbols.size + least + 2
    farthestFirst (distinct all t.symbols.size
      (rounds all t.symbols.size least most (ends all t r) fuel 0 [spot]))

/-- A match: its first place, and the places behind it and of its groups. -/
structure Match where
  first : Nat
  spot : Spot
  deriving DecidableEq, Repr

/-- The longest match that starts at a place. -/
def matchAt? (r : Regex) (t : Subject) (place : Nat) : Option Match :=
  (ends r.refers t r ⟨place, []⟩).head?.map (⟨place, ·⟩)

/-- The first match that starts at a place or behind it. -/
def search? (r : Regex) (t : Subject) (place : Nat) : Option Match :=
  ((List.range (t.symbols.size + 1)).drop place).findSome? (matchAt? r t)

/-- The symbols of a match. -/
def Match.symbols (m : Match) (t : Subject) : List Symbol := t.between m.first m.spot.place

/-- The symbols of a group of a match. Zero is the whole match. -/
def Match.group (m : Match) (t : Subject) (n : Nat) : List Symbol :=
  if n = 0 then m.symbols t
  else
    match m.spot.groups.lookup n with
    | some (first, last) => t.between first last
    | none => []

end NativeExtension.Regex

import NativeExtension.Text.Alphanumeric
import NativeExtension.Text.Blank

/-!
A place in an SQL text, and moves from it. The cursor stands behind its current character. A line is
counted when the character that ends it is left, however far the move goes.
-/
namespace NativeExtension.Sql

/-- A place in a text: the number of characters up to and with the current one, and the line. -/
structure Cursor where
  text : Array Char
  place : Nat
  line : Nat

/-- Moves that can run past the end of the text. The place they would lead to is kept. -/
abbrev Move (α : Type) := Except Nat α

namespace Cursor

/-- The cursor in front of a text. -/
def start (text : Array Char) : Cursor := ⟨text, 0, 1⟩

/-- The current character; there is none in front of the text. -/
def current? (c : Cursor) : Option Char := if c.place = 0 then none else c.text[c.place - 1]?

/-- The character after the current one. -/
def next? (c : Cursor) : Option Char := c.text[c.place]?

/-- Whether nothing follows the current character. -/
def atEnd (c : Cursor) : Bool := c.text.size ≤ c.place

/-- Whether the current character is `x`. -/
def currentIs (c : Cursor) (x : Char) : Bool := c.current? == some x

/-- Whether the next character is `x`. -/
def nextIs (c : Cursor) (x : Char) : Bool := c.next? == some x

/-- Whether the next character is there and of a class. -/
def nextIn (c : Cursor) (p : Char → Bool) : Bool := c.next?.any p

/-- The characters from place `i` up to place `j`. -/
def slice (c : Cursor) (i j : Nat) : List Char := (c.text.extract i j).toList

/-- The line once the current character is left. -/
def lineAfter (c : Cursor) : Nat :=
  if c.currentIs '\n' || (c.currentIs '\r' && !c.nextIs '\n') then c.line + 1 else c.line

/-- Moves forward by `n` characters. -/
def advance (n : Nat) (c : Cursor) : Move Cursor :=
  if c.place + n ≤ c.text.size then .ok { c with place := c.place + n, line := c.lineAfter }
  else .error (c.place + n)

/-- Moves back by `n` characters. The line is counted as for a move forward. -/
def retreat (n : Nat) (c : Cursor) : Cursor :=
  { c with place := c.place - n, line := c.lineAfter }

/-- Moves over the letters and numerals that follow. -/
def skipAlphanumeric : (fuel : Nat) → Cursor → Cursor
  | 0, c => c
  | fuel + 1, c =>
    if c.nextIn Text.isAlphanumeric then skipAlphanumeric fuel { c with place := c.place + 1 }
    else c

/-- Moves forward by one character and, when that is a letter or a numeral, over all that follow it.
    -/
def advanceRun (c : Cursor) : Move Cursor := do
  let c ← c.advance 1
  pure (if c.current?.any Text.isAlphanumeric then c.skipAlphanumeric (c.text.size - c.place)
    else c)

/-- Moves forward as `advanceRun` does as long as the next character is of a class. -/
def advanceWhile (p : Char → Bool) : (fuel : Nat) → Cursor → Move Cursor
  | 0, c => .ok c
  | fuel + 1, c => if c.nextIn p then do advanceWhile p fuel (← c.advanceRun) else .ok c

/-- Whether `cs` stands at the current character. -/
def looksAt (c : Cursor) (cs : List Char) : Bool :=
  c.slice (c.place - 1) (c.place - 1 + cs.length) == cs

/-- The first of `fuel` places from `i` on at which no character of a class stands. -/
def skipFrom (p : Char → Bool) (text : Array Char) : (fuel i : Nat) → Nat
  | 0, i => i
  | fuel + 1, i => if text[i]?.any p then skipFrom p text fuel (i + 1) else i

/-- The first place from `i` on at which no character of a class stands. -/
def firstOutside (c : Cursor) (p : Char → Bool) (i : Nat) : Nat :=
  skipFrom p c.text (c.text.size - i) i

/-- The first place from `i` on at which `x` stands. -/
def find? (c : Cursor) (x : Char) (i : Nat) : Option Nat :=
  let j := c.firstOutside (· != x) i
  if j < c.text.size then some j else none

end Cursor

end NativeExtension.Sql

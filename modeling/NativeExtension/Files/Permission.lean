/-!
Permission bits written as octal digits or as changes to others: whose rights change, how, and which.
-/
namespace NativeExtension.Permission

/-- Whether a character is an octal digit. -/
def isOctal (c : Char) : Bool := '0' ≤ c && c ≤ '7'

/-- The number that octal digits spell. -/
def ofOctal (digits : List Char) : Nat :=
  digits.foldl (fun n c => n * 8 + (c.toNat - '0'.toNat)) 0

/-- The bits that belong to the users with the given letters. -/
def share (users : List Char) : Nat :=
  let part (letter : Char) (bits : Nat) : Nat :=
    if users.contains letter || users.contains 'a' then bits else 0
  part 'u' 0o4700 ||| part 'g' 0o2070 ||| part 'o' 0o1007

/-- The bits that letters for rights stand for, for all users. A capital `X` is the right to execute
    where somebody has it. -/
def rights (isDirectory : Bool) (mode : Nat) (letters : List Char) : Nat :=
  letters.foldl (fun bits c => bits ||| match c with
    | 'r' => 0o444
    | 'w' => 0o222
    | 'x' => 0o111
    | 'X' => if isDirectory || mode &&& 0o111 != 0 then 0o111 else 0
    | 's' => 0o6000
    | 't' => 0o1000
    | 'u' => (mode >>> 6 &&& 7) * 0o111
    | 'g' => (mode >>> 3 &&& 7) * 0o111
    | 'o' => (mode &&& 7) * 0o111
    | _ => 0) 0

/-- Whether letters name rights, or one user whose rights are taken. -/
def areRights (letters : List Char) : Bool :=
  letters.all "rwxXst".toList.contains || ["u", "g", "o"].any (·.toList == letters)

/-- The bits that changes to the rights of the given users make of others. Where no user is named
    all are meant, but the bits in `mask` stay. Every change takes a character. -/
def changes? (mask : Nat) (isDirectory : Bool) (users : List Char) :
    (fuel : Nat) → (mode : Nat) → List Char → Option Nat
  | _, mode, [] => some mode
  | 0, _, _ => none
  | fuel + 1, mode, sign :: cs =>
    let letters := cs.takeWhile fun c => !"+-=".toList.contains c
    let whose := if users = [] then 0o7777 - (mask &&& 0o7777) else share users
    let bits := rights isDirectory mode letters &&& (whose ||| if users = [] then 0o7000 else 0)
    let next := changes? mask isDirectory users fuel
    let after := cs.drop letters.length
    if !areRights letters then none
    else
      match sign with
      | '+' => next (mode ||| bits) after
      | '-' => next (mode &&& (0o7777 - bits)) after
      | '=' =>
        let kept := if isDirectory then 0o6000 else 0
        let cleared := (if users = [] then 0o7777 else share users) &&& (0o7777 - kept)
        next ((mode &&& (0o7777 - cleared)) ||| bits) after
      | _ => none

/-- The bits that one part of a list of changes makes of others. -/
def change? (mask : Nat) (isDirectory : Bool) (mode : Nat) (part : List Char) : Option Nat :=
  let users := part.takeWhile "ugoa".toList.contains
  let signs := part.drop users.length
  if signs = [] then none else changes? mask isDirectory users (signs.length + 1) mode signs

/-- The bits that a word makes of others: octal digits stand for themselves, and anything else is a
    list of changes. -/
def changed? (mask : Nat) (isDirectory : Bool) (mode : Nat) (word : List Char) : Option Nat :=
  if word != [] && word.all isOctal then
    let n := ofOctal word
    if n ≤ 0o7777 then some n else none
  else (word.splitOn ',').foldlM (change? mask isDirectory) mode

end NativeExtension.Permission

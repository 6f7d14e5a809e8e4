/-!
Reading octets as UTF-8. Decoding succeeds exactly on well-formed sequences, and otherwise names the
first octets that no well-formed sequence continues, with the reason.
-/
namespace NativeExtension.Text.Utf8

/-- Why octets are no text. -/
inductive Fault where
  | invalidStart
  | invalidContinuation
  | truncated
  deriving DecidableEq, Repr

/-- The first octets that are no text: where they start, how many they are, the first of them, and
    what is wrong. The octets are the longest start of a well-formed character, at least one. -/
structure Error where
  position : Nat
  length : Nat
  octet : UInt8
  fault : Fault
  deriving DecidableEq, Repr

/-- The octets that may follow a first octet, as one pair of bounds for each, or nothing if no
    character starts with it. -/
def continuations? (b : UInt8) : Option (List (UInt8 × UInt8)) :=
  if b ≤ 0x7f then some []
  else if 0xc2 ≤ b && b ≤ 0xdf then some [(0x80, 0xbf)]
  else if b == 0xe0 then some [(0xa0, 0xbf), (0x80, 0xbf)]
  else if b == 0xed then some [(0x80, 0x9f), (0x80, 0xbf)]
  else if 0xe1 ≤ b && b ≤ 0xef then some [(0x80, 0xbf), (0x80, 0xbf)]
  else if b == 0xf0 then some [(0x90, 0xbf), (0x80, 0xbf), (0x80, 0xbf)]
  else if 0xf1 ≤ b && b ≤ 0xf3 then some [(0x80, 0xbf), (0x80, 0xbf), (0x80, 0xbf)]
  else if b == 0xf4 then some [(0x80, 0x8f), (0x80, 0xbf), (0x80, 0xbf)]
  else none

/-- Matches octets against the bounds of a character's tail: the octets after the character, or how
    many matched and why the next one did not. -/
def matchTail : List (UInt8 × UInt8) → List UInt8 → Except (Nat × Fault) (List UInt8)
  | [], rest => .ok rest
  | _ :: _, [] => .error (0, .truncated)
  | (low, high) :: bounds, b :: rest =>
    if low ≤ b && b ≤ high then
      (matchTail bounds rest).mapError fun (n, fault) => (n + 1, fault)
    else .error (0, .invalidContinuation)

/-- The first ill-formed octets of a sequence that starts at `position`. One unit of fuel is spent
    on each character, so the number of octets is enough. -/
def firstError (position : Nat) : (fuel : Nat) → List UInt8 → Option Error
  | 0, _ => none
  | _, [] => none
  | fuel + 1, b :: rest =>
    match continuations? b with
    | none => some ⟨position, 1, b, .invalidStart⟩
    | some bounds =>
      match matchTail bounds rest with
      | .ok rest => firstError (position + 1 + bounds.length) fuel rest
      | .error (n, fault) => some ⟨position, n + 1, b, fault⟩

/-- The text that octets spell, or the first of them that spell none. -/
def decode (octets : ByteArray) : Except Error String :=
  match String.fromUTF8? octets with
  | some text => .ok text
  | none =>
    .error ((firstError 0 octets.size octets.toList).getD ⟨0, 1, 0, .invalidStart⟩)

/-- The reason as it stands at the end of the message. -/
def Fault.message : Fault → String
  | .invalidStart => "invalid start byte"
  | .invalidContinuation => "invalid continuation byte"
  | .truncated => "unexpected end of data"

/-- The two lower-case hexadecimal digits of an octet. -/
def hexOctet (b : UInt8) : String :=
  String.ofList [Nat.digitChar (b.toNat / 16), Nat.digitChar (b.toNat % 16)]

/-- The message that names the ill-formed octets. -/
def Error.message (e : Error) : String :=
  let subject :=
    if e.length == 1 then s!"byte 0x{hexOctet e.octet} in position {e.position}"
    else s!"bytes in position {e.position}-{e.position + e.length - 1}"
  s!"'utf-8' codec can't decode {subject}: {e.fault.message}"

end NativeExtension.Text.Utf8

/-!
Octets as characters. A character below 256 stands for the octet of its number, so that text in an
unknown encoding can be handled with the operations on characters.
-/
namespace NativeExtension.Text.Octets

/-- Octets as characters. -/
def ofBytes (octets : ByteArray) : List Char :=
  octets.toList.map fun b => Char.ofNat b.toNat

/-- The octets that characters stand for. -/
def toBytes (cs : List Char) : ByteArray :=
  ⟨(cs.map fun c => c.toNat.toUInt8).toArray⟩

/-- The octets of a text in UTF-8. -/
def ofString (s : String) : List Char := ofBytes s.toUTF8

/-- The text that octets spell in UTF-8. Octets that spell none stay one character each. -/
def toString (cs : List Char) : String :=
  (String.fromUTF8? (toBytes cs)).getD (String.ofList cs)

end NativeExtension.Text.Octets

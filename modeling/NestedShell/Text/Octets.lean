import NestedShell.Text.Utf8

/-! Texts whose characters stand for bytes, one each. -/
namespace NestedShell.Text.Octets

def ofByte (b : UInt8) : Char := Char.ofNat b.toNat

def ofBytes (bs : List UInt8) : String := String.ofList (bs.map ofByte)

def bytes (s : String) : List UInt8 := s.toList.map (·.toNat.toUInt8)

/-- The text of the bytes that encode a text. -/
def ofText (s : String) : String := ofBytes (Utf8.encode s)

end NestedShell.Text.Octets

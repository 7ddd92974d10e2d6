/-! Reading bytes as UTF-8, and the places where they are none. -/
namespace NestedShell.Text.Utf8

/-- A character begun: the bits read, how many bytes it still owes, and the range of the next
one. -/
structure Pending where
  bits : Nat
  owed : Nat
  low : UInt8 := 0x80
  high : UInt8 := 0xBF

/-- A byte with no character begun: itself a character, the start of one, or neither. -/
inductive Lead where
  | whole (c : Char)
  | starts (p : Pending)
  | stray

/-- The first byte of a character fixes its length; the ranges leave out surrogates, code points
beyond the last, and longer forms than need be. -/
def lead (b : UInt8) : Lead :=
  if b < 0x80 then .whole (Char.ofNat b.toNat)
  else if b < 0xC2 then .stray
  else if b < 0xE0 then .starts ⟨b.toNat % 32, 1, 0x80, 0xBF⟩
  else if b = 0xE0 then .starts ⟨0, 2, 0xA0, 0xBF⟩
  else if b = 0xED then .starts ⟨13, 2, 0x80, 0x9F⟩
  else if b < 0xF0 then .starts ⟨b.toNat % 16, 2, 0x80, 0xBF⟩
  else if b = 0xF0 then .starts ⟨0, 3, 0x90, 0xBF⟩
  else if b < 0xF4 then .starts ⟨b.toNat % 8, 3, 0x80, 0xBF⟩
  else if b = 0xF4 then .starts ⟨4, 3, 0x80, 0x8F⟩
  else .stray

/-- What a byte gives with no character begun: characters read, `none` for a fault, and the
character begun. -/
def begin? (b : UInt8) : List (Option Char) × Option Pending :=
  match lead b with
  | .whole c => ([some c], none)
  | .starts p => ([], some p)
  | .stray => ([none], none)

/-- The characters of the bytes in order. A fault is a stray byte, or the longest start of a
character that is not continued. -/
def decodeFrom : Option Pending → List UInt8 → List (Option Char)
  | none, [] => []
  | some _, [] => [none]
  | none, b :: rest => (begin? b).1 ++ decodeFrom (begin? b).2 rest
  | some p, b :: rest =>
    if p.low ≤ b ∧ b ≤ p.high then
      let bits := p.bits * 64 + b.toNat % 64
      if p.owed = 1 then some (Char.ofNat bits) :: decodeFrom none rest
      else decodeFrom (some ⟨bits, p.owed - 1, 0x80, 0xBF⟩) rest
    else none :: (begin? b).1 ++ decodeFrom (begin? b).2 rest

def decode (bytes : List UInt8) : List (Option Char) := decodeFrom none bytes

/-- The text, with a replacement character for each fault. -/
def lossy (bytes : List UInt8) : String :=
  String.ofList ((decode bytes).map (·.getD '\ufffd'))

/-- The text, if there is no fault. -/
def text? (bytes : List UInt8) : Option String := ((decode bytes).mapM id).map String.ofList

def encode (s : String) : List UInt8 := s.toList.flatMap String.utf8EncodeChar

end NestedShell.Text.Utf8

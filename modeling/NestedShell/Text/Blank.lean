/-! Blank characters, and texts cut or trimmed at them. -/
namespace NestedShell.Text

/-- Closed ranges of the code points that have the property White_Space, ascending and apart. -/
def blankRanges : List (Nat × Nat) :=
  [(0x09, 0x0D), (0x20, 0x20), (0x85, 0x85), (0xA0, 0xA0), (0x1680, 0x1680), (0x2000, 0x200A),
   (0x2028, 0x2029), (0x202F, 0x202F), (0x205F, 0x205F), (0x3000, 0x3000)]

def inRanges (ranges : List (Nat × Nat)) (n : Nat) : Bool :=
  ranges.any (fun r => r.1 ≤ n && n ≤ r.2)

def isBlank (c : Char) : Bool := inRanges blankRanges c.toNat

def trimRight (cs : List Char) : List Char := (cs.reverse.dropWhile isBlank).reverse

/-- The text without the blanks at either end. -/
def trim (cs : List Char) : List Char := trimRight (cs.dropWhile isBlank)

/-- The last run of characters that are not blank, if there is one. -/
def lastWord? (cs : List Char) : Option (List Char) :=
  match (cs.reverse.dropWhile isBlank).takeWhile (!isBlank ·) with
  | [] => none
  | word => some word.reverse

end NestedShell.Text

/-! Whole numbers in decimal notation. -/
namespace NestedShell.Text

/-- The number that one or more ASCII digits stand for, if it is at most `most`. Reading stops at
the first digit that makes it larger. -/
def natural? (most : Nat) (cs : List Char) : Option Nat :=
  if cs.isEmpty then none
  else cs.foldlM (fun n c =>
    let next := 10 * n + (c.toNat - '0'.toNat)
    if c.isDigit && next ≤ most then some next else none) 0

/-- The integer a text stands for, if it fits 64 signed bits: digits with at most one sign in front;
leading zeros do not matter. -/
def int64? : List Char → Option Int64
  | '-' :: cs => (natural? Int64.minValue.toInt.natAbs cs).map fun n => Int64.ofInt (-n)
  | '+' :: cs => (natural? Int64.maxValue.toInt.natAbs cs).map fun n => Int64.ofInt n
  | cs => (natural? Int64.maxValue.toInt.natAbs cs).map fun n => Int64.ofInt n

def decimalChars (n : Int) : List Char :=
  if n < 0 then '-' :: Nat.toDigits 10 n.natAbs else Nat.toDigits 10 n.natAbs

/-- A minus sign where there is need of one, and the digits without leading zeros. -/
def decimal (n : Int) : String := String.ofList (decimalChars n)

end NestedShell.Text

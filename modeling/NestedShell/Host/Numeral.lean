/-! Numbers at the start of a text. -/
namespace NestedShell.Host

/-- The blanks that may stand before a number. -/
def isSpace (c : Char) : Bool := c = ' ' || ('\t' ≤ c && c ≤ '\r')

/-- What a digit or letter counts, up to 35. -/
def digitValue? (c : Char) : Option Nat :=
  if c.isDigit then some (c.toNat - '0'.toNat)
  else if c.isAlpha then some (c.toLower.toNat - 'a'.toNat + 10)
  else none

def isDigitIn (base : Nat) (c : Char) : Bool := (digitValue? c).any (· < base)

/-- Joins digits in pairs, the last digit coming first. -/
def pairUp (base : Nat) : List Nat → List Nat
  | low :: high :: rest => (base * high + low) :: pairUp base rest
  | digits => digits

theorem length_pairUp (base : Nat) : ∀ digits : List Nat,
    (pairUp base digits).length ≤ digits.length ∧
      (1 < digits.length → (pairUp base digits).length < digits.length)
  | [] => by simp [pairUp]
  | [_] => by simp [pairUp]
  | low :: high :: rest => by
    have h := (length_pairUp base rest).1
    simp only [pairUp, List.length_cons]
    omega

/-- The number that digits stand for, the last one coming first. Halving their count over and over
takes far fewer steps on long numbers than adding them one by one. -/
def joinDigits (base : Nat) (digits : List Nat) : Nat :=
  match digits with
  | [] => 0
  | [digit] => digit
  | low :: high :: rest => joinDigits (base * base) (pairUp base (low :: high :: rest))
termination_by digits.length
decreasing_by exact (length_pairUp base _).2 (by simp)

def valueIn (base : Nat) (digits : List Char) : Nat :=
  joinDigits base (digits.reverse.map fun c => (digitValue? c).getD 0)

/-- The digits of a base at the start of a text, at most `limit` of them, and what follows. -/
def digitsIn (base limit : Nat) (cs : List Char) : List Char × List Char :=
  let digits := (cs.take limit).takeWhile (isDigitIn base)
  (digits, cs.drop digits.length)

/-- What is read of a text, and what is not; nothing read is no number. -/
structure Numeral where
  value : Int
  rest : List Char
  isNumber : Bool

/-- Whether a minus sign stands in front, and what follows the sign. -/
def splitSign : List Char → Bool × List Char
  | '-' :: rest => (true, rest)
  | '+' :: rest => (false, rest)
  | cs => (false, cs)

/-- A whole number behind blanks and a sign: decimal, octal after `0`, hexadecimal after `0x`. -/
def wholeNumber (text : List Char) : Numeral :=
  let (isNegative, cs) := splitSign (text.dropWhile isSpace)
  let (base, digits) : Nat × List Char := match cs with
    | '0' :: x :: d :: more =>
      if (x = 'x' || x = 'X') && isDigitIn 16 d then (16, d :: more) else (8, cs)
    | '0' :: _ => (8, cs)
    | _ => (10, cs)
  let (read, rest) := digitsIn base digits.length digits
  if read.isEmpty then ⟨0, text, false⟩
  else
    let n := valueIn base read
    ⟨if isNegative then -(n : Int) else n, rest, true⟩

/-- The nearest number between two limits. -/
def clamp (least most n : Int) : Int := if n < least then least else if most < n then most else n

end NestedShell.Host

import NestedShell.Host.Numeral

/-! Numbers with a fraction: read, rounded to a binary format, and written. -/
namespace NestedShell.Host

/-- A binary format: how many digits a number has, and the least and the greatest exponent of its
last digit. -/
structure BinaryFormat where
  digits : Nat
  least : Int
  greatest : Int

namespace BinaryFormat

def double : BinaryFormat := ⟨53, -1074, 971⟩

def extended : BinaryFormat := ⟨64, -16445, 16320⟩

end BinaryFormat

/-- A number of a binary format: its sign, and a whole number times a power of two. -/
inductive Binary where
  | finite (isNegative : Bool) (mantissa : Nat) (exponent : Int)
  | infinite (isNegative : Bool)
  | undefined (isNegative : Bool)

/-- A quotient rounded to the nearest whole number; a tie goes to the even one. -/
def roundQuotient (num den : Nat) : Nat :=
  let q := num / den
  let r := num % den
  if 2 * r < den || (2 * r = den && q % 2 = 0) then q else q + 1

/-- A fraction times a power of a base. -/
def scaled (base : Nat) (e : Int) (num den : Nat) : Nat × Nat :=
  if e < 0 then (num, den * Nat.pow base e.natAbs) else (num * Nat.pow base e.toNat, den)

/-- The exponent of the greatest power of a base that a positive number reaches, by that of the
base squared. The limit is on how often it is squared. -/
def logarithm : Nat → Nat → Nat → Nat
  | 0, _, _ => 0
  | limit + 1, base, n =>
    if n < base then 0
    else
      let e := 2 * logarithm limit (base * base) n
      if Nat.pow base (e + 1) ≤ n then e + 1 else e

/-- So many squarings are enough for all numbers that fit into memory. -/
def mostSquarings : Nat := 64

def log (base n : Nat) : Nat := logarithm mostSquarings base n

/-- The last digits of a number, as many as that power of two. -/
def lastDigits : Nat → Nat → List Char
  | 0, n => [Nat.digitChar (n % 10)]
  | level + 1, n =>
    let half := Nat.pow 10 (1 <<< level)
    lastDigits level (n / half) ++ lastDigits level (n % half)

/-- The decimal digits of a number, found half by half, which is fast on long ones. -/
def decimal (n : Nat) : List Char :=
  let ds := (lastDigits (Nat.log2 (log 10 n) + 1) n).dropWhile (· = '0')
  if ds.isEmpty then ['0'] else ds

/-- The exponent of the greatest power of a base that a positive fraction reaches. -/
def magnitude (base num den : Nat) : Int :=
  let guess : Int := log base num - log base den
  let (n, d) := scaled base (-guess) num den
  if d ≤ n then guess else guess - 1

namespace Binary

/-- The nearest number of a format to a fraction, and whether that is out of its range. -/
def round (f : BinaryFormat) (isNegative : Bool) (num den : Nat) : Binary × Bool :=
  if num = 0 then (finite isNegative 0 0, false)
  else
    let e := max f.least (magnitude 2 num den - f.digits + 1)
    let (n, d) := scaled 2 (-e) num den
    let m := roundQuotient n d
    let isGreat := decide (f.greatest < magnitude 2 m 1 + e - f.digits + 1)
    if m ≠ 0 && isGreat then (infinite isNegative, true)
    else (finite isNegative m e, decide (m < Nat.pow 2 (f.digits - 1)) && n % d ≠ 0)

/-- Digits with a point among them: their value without the point, how many follow it, how many
there are, and the rest of the text. -/
def pointed (base : Nat) (cs : List Char) : Nat × Nat × Nat × List Char :=
  let (whole, rest) := digitsIn base cs.length cs
  let (part, rest') := match rest with
    | '.' :: more => digitsIn base more.length more
    | _ => ([], rest)
  let rest := if whole.isEmpty && part.isEmpty then cs
    else if part.isEmpty && rest.head? = some '.' then rest.drop 1
    else rest'
  (valueIn base (whole ++ part), part.length, whole.length + part.length, rest)

/-- An exponent behind one of two letters; where no digit follows there is none. -/
def exponentPart (lower upper : Char) (cs : List Char) : Int × List Char :=
  match cs with
  | c :: more =>
    if c ≠ lower && c ≠ upper then (0, cs)
    else
      let (isNegative, digits) := match more with
        | '-' :: ds => (true, ds)
        | '+' :: ds => (false, ds)
        | _ => (false, more)
      match digitsIn 10 digits.length digits with
      | ([], _) => (0, cs)
      | (read, rest) =>
        let n : Int := valueIn 10 (read.take 12)
        (if isNegative then -n else n, rest)
  | [] => (0, cs)

/-- The text behind a word, however its letters are written. -/
def behind? (word : String) (cs : List Char) : Option (List Char) :=
  if (cs.take word.length).map Char.toLower = word.toList then some (cs.drop word.length) else none

structure Reading where
  value : Binary
  rest : List Char
  isNumber : Bool := true
  isOutOfRange : Bool := false

/-- The exponent beyond which every number of a format is infinite or zero, whatever its digits. -/
def exponentLimit (count : Nat) : Int := 20000 + 4 * count

/-- A number behind blanks and a sign: decimal, hexadecimal after `0x`, infinite or undefined. -/
def read (f : BinaryFormat) (text : List Char) : Reading :=
  let (isNegative, cs) := splitSign (text.dropWhile isSpace)
  let limited (count : Nat) (e : Int) : Int :=
    clamp (-exponentLimit count) (exponentLimit count) e
  let rounded (base : Nat) (e : Int) (n : Nat) (rest : List Char) : Reading :=
    let (num, den) := scaled base e n 1
    let (value, isOutOfRange) := round f isNegative num den
    { value, rest, isOutOfRange }
  let decimal : Reading :=
    let (n, places, count, rest) := pointed 10 cs
    if count = 0 then { value := finite false 0 0, rest := text, isNumber := false }
    else
      let (e, rest) := exponentPart 'e' 'E' rest
      rounded 10 (limited count (e - places)) n rest
  match (behind? "infinity" cs).or (behind? "inf" cs), behind? "nan" cs, cs with
  | some rest, _, _ => { value := infinite isNegative, rest }
  | none, some rest, _ =>
    let inner := (rest.drop 1).takeWhile (fun c => c.isAlphanum || c = '_')
    let isClosed := rest.head? = some '(' && (rest.drop (inner.length + 1)).head? = some ')'
    { value := undefined isNegative,
      rest := if isClosed then rest.drop (inner.length + 2) else rest }
  | none, none, '0' :: x :: more =>
    let (n, places, count, rest) := pointed 16 more
    if (x = 'x' || x = 'X') && count ≠ 0 then
      let (e, rest) := exponentPart 'p' 'P' rest
      rounded 2 (limited (4 * count) (e - 4 * places)) n rest
    else decimal
  | _, _, _ => decimal

def isNegative : Binary → Bool
  | finite b _ _ => b
  | infinite b => b
  | undefined b => b

/-- A fraction equal to the number without its sign. -/
def fraction (mantissa : Nat) (exponent : Int) : Nat × Nat := scaled 2 exponent mantissa 1

def decimalDigits (n least : Nat) : List Char :=
  let ds := decimal n
  List.replicate (least - ds.length) '0' ++ ds

/-- Digits with a point before the last `places` of them; no point where none follow, unless it is
to be `kept`. -/
def withPoint (isKept : Bool) (places : Nat) (ds : List Char) : List Char :=
  let whole := ds.take (ds.length - places)
  let part := ds.drop (ds.length - places)
  if places = 0 && !isKept then whole else whole ++ '.' :: part

/-- A fraction with so many places behind the point. -/
def fixed (isKept : Bool) (places num den : Nat) : List Char :=
  let n := roundQuotient (num * Nat.pow 10 places) den
  withPoint isKept places (decimalDigits n (places + 1))

/-- The digits and the exponent of a fraction with one digit before the point. -/
def normalised (places num den : Nat) : List Char × Int :=
  if num = 0 then (List.replicate (places + 1) '0', 0)
  else
    let e := magnitude 10 num den
    let (n, d) := scaled 10 (places - e) num den
    let ds := decimal (roundQuotient n d)
    if ds.length = places + 1 then (ds, e) else (ds.take (places + 1), e + 1)

def exponentText (letter : Char) (least : Nat) (e : Int) : List Char :=
  letter :: (if e < 0 then '-' else '+') :: decimalDigits e.natAbs least

def scientific (isKept : Bool) (places num den : Nat) : List Char :=
  let (ds, e) := normalised places num den
  withPoint isKept places ds ++ exponentText 'e' 2 e

/-- The digits without the zeros at the end of a part behind the point. -/
def withoutZeros (cs : List Char) : List Char :=
  if cs.contains '.' then
    let cs := (cs.reverse.dropWhile (· = '0')).reverse
    if cs.getLast? = some '.' then cs.dropLast else cs
  else cs

/-- The shorter of the two ways to write a fraction with so many digits that count. -/
def general (isKept : Bool) (precision num den : Nat) : List Char :=
  let digits := max precision 1
  let (ds, e) := normalised (digits - 1) num den
  let trim (cs : List Char) := if isKept then cs else withoutZeros cs
  if -4 ≤ e ∧ e < digits then trim (fixed isKept ((digits : Int) - 1 - e).toNat num den)
  else trim (withPoint isKept (digits - 1) ds) ++ exponentText 'e' 2 e

/-- Hexadecimal digits, and the exponent of two they are multiplied with. The first digit holds
`lead` binary ones. -/
def hexadecimal (f : BinaryFormat) (isKept : Bool) (precision : Option Nat) (mantissa : Nat)
    (exponent : Int) : List Char :=
  let lead := (f.digits - 1) % 4 + 1
  let places := (f.digits - lead) / 4
  let (m, e) : Nat × Int :=
    if mantissa = 0 then (0, 0)
    else
      let shift := min (f.digits - log 2 mantissa - 1) (exponent - f.least).toNat
      (mantissa * Nat.pow 2 shift, exponent - shift + 4 * places)
  let ds (n places : Nat) : List Char :=
    let ds := Nat.toDigits 16 n
    List.replicate (places + 1 - ds.length) '0' ++ ds
  let (text, e) := match precision with
    | none => (withoutZeros (withPoint true places (ds m places)), e)
    | some p =>
      if places ≤ p then
        (withPoint isKept p (ds m places ++ List.replicate (p - places) '0'), e)
      else
        let n := roundQuotient m (Nat.pow 16 (places - p))
        if n < Nat.pow 16 (p + 1) then (withPoint isKept p (ds n p), e)
        else (withPoint isKept p (ds (n / 16) p), e + 4)
  let text := if isKept && !text.contains '.' then text ++ ['.'] else text
  text ++ 'p' :: (if e < 0 then '-' else '+') :: decimal e.natAbs

end Binary

end NestedShell.Host

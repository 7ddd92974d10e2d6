import NestedShell.Host.Binary

/-! Conversions of a format: how a text or a number is written in a field. -/
namespace NestedShell.Host

/-- A conversion: its flags, width, precision and letter. -/
structure Conversion where
  flags : List Char
  width : Nat
  precision : Option Nat
  letter : Char

namespace Conversion

def has (c : Conversion) (flag : Char) : Bool := c.flags.contains flag

/-- A negative width asks for its blanks on the right. -/
def withWidth (c : Conversion) (width : Int) : Conversion :=
  { c with width := width.natAbs, flags := if width < 0 then '-' :: c.flags else c.flags }

/-- A text in its field. The part in front stays there when the field is filled up with zeros. -/
def fill (c : Conversion) (isNumber : Bool) (front text : List Char) : List Char :=
  let missing := c.width - (front.length + text.length)
  if c.has '-' then front ++ text ++ List.replicate missing ' '
  else if isNumber && c.has '0' then front ++ List.replicate missing '0' ++ text
  else List.replicate missing ' ' ++ front ++ text

def sign (c : Conversion) (isNegative : Bool) : List Char :=
  if isNegative then ['-'] else if c.has '+' then ['+'] else if c.has ' ' then [' '] else []

/-- The start of a text that the precision leaves, in its field. -/
def text (c : Conversion) (cs : List Char) : List Char :=
  c.fill false [] (match c.precision with
    | some p => cs.take p
    | none => cs)

def character (c : Conversion) (x : Char) : List Char := c.fill false [] [x]

/-- Digits with at least as many as the precision asks for; none for zero where it asks for
none. -/
def wholeDigits (c : Conversion) (base n : Nat) : List Char :=
  let ds := if n = 0 then [] else Nat.toDigits base n
  List.replicate (c.precision.getD 1 - ds.length) '0' ++ ds

def signed (c : Conversion) (n : Int) : List Char :=
  c.fill c.precision.isNone (c.sign (n < 0)) (c.wholeDigits 10 n.natAbs)

/-- A number without a sign: octal, hexadecimal or decimal, marked so where a flag asks for it. -/
def unsigned (c : Conversion) (n : Nat) : List Char :=
  match c.letter with
  | 'o' =>
    let ds := c.wholeDigits 8 n
    let ds := if c.has '#' && ds.head? ≠ some '0' then '0' :: ds else ds
    c.fill c.precision.isNone [] ds
  | 'x' =>
    c.fill c.precision.isNone (if c.has '#' && n ≠ 0 then ['0', 'x'] else []) (c.wholeDigits 16 n)
  | 'X' =>
    c.fill c.precision.isNone (if c.has '#' && n ≠ 0 then ['0', 'X'] else [])
      ((c.wholeDigits 16 n).map Char.toUpper)
  | _ => c.fill c.precision.isNone [] (c.wholeDigits 10 n)

/-- A number with a fraction: with places, with an exponent, the shorter of both, or
hexadecimal. -/
def real (c : Conversion) (f : BinaryFormat) (number : Binary) : List Char :=
  let isUpper := c.letter.isUpper
  let cased (cs : List Char) := if isUpper then cs.map Char.toUpper else cs
  let front := c.sign number.isNegative
  match number with
  | .infinite _ => c.fill false front (cased ['i', 'n', 'f'])
  | .undefined _ => c.fill false front (cased ['n', 'a', 'n'])
  | .finite _ m e =>
    let (num, den) := Binary.fraction m e
    let isKept := c.has '#'
    let places := c.precision.getD 6
    match c.letter.toLower with
    | 'f' => c.fill true front (Binary.fixed isKept places num den)
    | 'e' => c.fill true front (cased (Binary.scientific isKept places num den))
    | 'g' => c.fill true front (cased (Binary.general isKept places num den))
    | _ =>
      c.fill true (front ++ cased ['0', 'x'])
        (cased (Binary.hexadecimal f isKept c.precision m e))

end Conversion

end NestedShell.Host

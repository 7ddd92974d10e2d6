import NestedShell.Host.Numeral
import NestedShell.Text.Octets

/-! Backslash escapes, and texts with their escapes replaced. -/
namespace NestedShell.Host

/-- What an escape stands for: characters, and how many characters behind the backslash it takes;
the end of all output; or a fault. -/
inductive Escape where
  | text (cs : List Char) (taken : Nat)
  | stop
  | fault (message : String)

/-- What hexadecimal escapes do where no digit follows. -/
inductive Hexadecimal where
  | absent
  | lenient
  | strict
  deriving DecidableEq

/-- Which escapes there are. -/
structure EscapeRules where
  letters : List (Char × Nat)
  /-- An octal escape may have a `0` in front of its three digits. -/
  hasZero : Bool := false
  hexadecimal : Hexadecimal := .absent
  /-- How a code point is written, where escapes may name one. -/
  codePoint : Option (Nat → List Char) := none
  hasStop : Bool := false
  /-- A backslash that starts no escape takes the next character with it. -/
  takesNext : Bool := true

namespace EscapeRules

/-- The letters of control characters, and the backslash. -/
def commonLetters : List (Char × Nat) :=
  [('\\', 0x5C), ('a', 7), ('b', 8), ('f', 12), ('n', 10), ('r', 13), ('t', 9), ('v', 11)]

/-- Surrogates are no characters, so no escape may name one. -/
def isSurrogate (n : Nat) : Bool := 0xD800 ≤ n && n ≤ 0xDFFF

def hexDigits (least n : Nat) : List Char :=
  let ds := Nat.toDigits 16 n
  List.replicate (least - ds.length) '0' ++ ds

/-- An escape that names a code point by four or eight digits. -/
def readCodePoint (write : Nat → List Char) (letter : Char) (rest : List Char) : Escape :=
  let count := if letter = 'u' then 4 else 8
  let (digits, _) := digitsIn 16 count rest
  let n := valueIn 16 digits
  if digits.length < count then .fault "missing hexadecimal number in escape"
  else if isSurrogate n then
    .fault ("invalid universal character name \\" ++ String.ofList (letter :: hexDigits count n))
  else .text (write n) (count + 1)

def octal (digits : List Char) (more : Nat) : Escape :=
  .text [Text.Octets.ofByte (valueIn 8 digits).toUInt8] (digits.length + more)

/-- Reads what stands behind a backslash. -/
def read (rules : EscapeRules) : List Char → Escape
  | [] => .text ['\\'] 0
  | c :: rest =>
    let unknown : Escape := if rules.takesNext then .text ['\\', c] 1 else .text ['\\'] 0
    if let some n := rules.letters.lookup c then .text [Char.ofNat n] 1
    else if rules.hasZero && c = '0' then octal (digitsIn 8 3 rest).1 1
    else if isDigitIn 8 c then octal (digitsIn 8 3 (c :: rest)).1 0
    else if c = 'c' && rules.hasStop then .stop
    else if c = 'x' && rules.hexadecimal ≠ .absent then
      match (digitsIn 16 2 rest).1, rules.hexadecimal with
      | [], .strict => .fault "missing hexadecimal number in escape"
      | [], _ => unknown
      | digits, _ => .text [Char.ofNat (valueIn 16 digits)] (digits.length + 1)
    else match rules.codePoint with
      | some write => if c = 'u' || c = 'U' then readCodePoint write c rest else unknown
      | none => unknown

end EscapeRules

/-- Why a text with escapes ends before its end. -/
inductive Halt where
  | stop
  | fault (message : String)
  deriving DecidableEq

/-- A text with its escapes replaced. The number is of characters already taken. -/
def unescapeFrom (rules : EscapeRules) : Nat → List Char → List Char × Option Halt
  | _, [] => ([], none)
  | taken + 1, _ :: rest => unescapeFrom rules taken rest
  | 0, c :: rest =>
    if c ≠ '\\' then
      let (cs, halt) := unescapeFrom rules 0 rest
      (c :: cs, halt)
    else match rules.read rest with
      | .text cs taken =>
        let (more, halt) := unescapeFrom rules taken rest
        (cs ++ more, halt)
      | .stop => ([], some .stop)
      | .fault message => ([], some (.fault message))

def unescape (rules : EscapeRules) (text : String) : List Char × Option Halt :=
  unescapeFrom rules 0 text.toList

end NestedShell.Host

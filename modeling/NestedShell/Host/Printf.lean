import NestedShell.Host.Conversion
import NestedShell.Host.Escape

/-! Words written after a format, which is gone over again as long as words are left. -/
namespace NestedShell.Host.Printf

/-- A width or precision is given, or it is a word of its own. -/
inductive Size where
  | given (n : Nat)
  | word

/-- A directive of a format. One that is faulty still reads the words of its sizes. -/
structure Directive where
  flags : List Char := []
  width : Option Size := none
  precision : Option Size := none
  letter : Char
  fault : Option String := none

/-- What stands in a format. -/
inductive Part where
  | text (cs : List Char)
  | directive (d : Directive)
  | halt (h : Halt)

/-- What a word does not suit, and whether that is a failure. -/
structure Complaint where
  message : String
  isFailure : Bool := true

/-- How a kind of `printf` reads formats and words. -/
structure Dialect where
  escapes : EscapeRules
  /-- The escapes of a word that is written by `%b`. -/
  wordEscapes : EscapeRules
  /-- Reads a directive behind its percent sign, and how many characters it takes. -/
  directive : List Char → Directive × Nat
  /-- The width or the precision that a word gives, or what is wrong with it. -/
  sizeOf : Bool → String → Int → Except String Int
  /-- What is said of a field beyond all measure; where nothing is, only the output suffers. -/
  overflow : Option String := none
  signed : String → Int × Option Complaint
  unsigned : String → Int × Option Complaint
  real : String → Binary × Option Complaint
  format : BinaryFormat
  /-- A word written by `%q`. -/
  quoted : String → String := id

/-- The output so far, and the words that are left. -/
structure State where
  out : String := ""
  /-- What has been complained of, the last first. -/
  complaints : List Complaint := []
  left : List String
  /-- Why nothing more is written. -/
  halt : Option Halt := none
  /-- Something could not be written. -/
  isBroken : Bool := false

namespace State

def write (cs : List Char) (s : State) : State := { s with out := s.out ++ String.ofList cs }

def complain (c : Option Complaint) (s : State) : State :=
  { s with complaints := c.toList ++ s.complaints }

def next (s : State) : Option String × State := (s.left.head?, { s with left := s.left.drop 1 })

end State

/-- The parts of a format. The number is of characters already taken. -/
def partsFrom (d : Dialect) : Nat → List Char → List Part
  | _, [] => []
  | taken + 1, _ :: rest => partsFrom d taken rest
  | 0, c :: rest =>
    if c = '\\' then
      match d.escapes.read rest with
      | .text cs taken => .text cs :: partsFrom d taken rest
      | .stop => [.halt .stop]
      | .fault message => [.halt (.fault message)]
    else if c ≠ '%' then .text [c] :: partsFrom d 0 rest
    else if rest.head? = some '%' then .text ['%'] :: partsFrom d 1 rest
    else
      let (directive, taken) := d.directive rest
      .directive directive :: partsFrom d taken rest

def mostSize : Int := 2147483647

/-- The value of a width or precision; a word that is missing counts as 0. -/
def measure (d : Dialect) (isWidth : Bool) (size : Option Size) (s : State) :
    Option Int × State :=
  match size with
  | none => (none, s)
  | some (.given n) => (some n, s)
  | some .word =>
    match s.next with
    | (none, s) => (some 0, s)
    | (some word, s) =>
      let (n, complaint) := d.signed word
      let s := s.complain complaint
      match d.sizeOf isWidth word n with
      | .ok n => (some n, s)
      | .error message => (none, { s with halt := some (.fault message) })

/-- Writes a word in a field by the letter of its conversion. -/
def writeWord (d : Dialect) (c : Conversion) (word : Option String) (s : State) : State :=
  let text := word.getD ""
  match c.letter with
  | 's' => s.write (c.text text.toList)
  | 'c' => s.write (c.character (text.toList.headD '\x00'))
  | 'b' =>
    let (cs, halt) := unescape d.wordEscapes text
    { s.write (c.text cs) with halt }
  | 'q' => s.write ((word.map (fun w => (d.quoted w).toList)).getD [])
  | 'd' | 'i' =>
    let (n, complaint) := d.signed text
    (s.complain complaint).write (c.signed n)
  | 'u' | 'o' | 'x' | 'X' =>
    let (n, complaint) := d.unsigned text
    (s.complain complaint).write (c.unsigned (UInt64.ofInt n).toNat)
  | _ =>
    let (n, complaint) := d.real text
    (s.complain complaint).write (c.real d.format n)

/-- Writes the next word by a directive. -/
def convert (d : Dialect) (directive : Directive) (s : State) : State :=
  let (width, s) := measure d true directive.width s
  let (precision, s) := if s.halt.isSome then (none, s) else measure d false directive.precision s
  match s.halt, directive.fault with
  | some _, _ => s
  | none, some message => { s with halt := some (.fault message) }
  | none, none =>
    let (width, precision) := (width.getD 0, precision.filter (0 ≤ ·))
    let c : Conversion :=
      { flags := directive.flags, width := 0, letter := directive.letter,
        precision := precision.map Int.toNat }
    let (word, s) := s.next
    if mostSize < width.natAbs || precision.any (mostSize < ·) then
      let s' := writeWord d { c with precision := none } word s
      { s' with out := s.out, halt := d.overflow.map .fault, isBroken := true }
    else writeWord d (c.withWidth width) word s

def writeParts (d : Dialect) : List Part → State → State
  | [], s => s
  | part :: parts, s =>
    match part with
    | .text cs => writeParts d parts (s.write cs)
    | .halt h => { s with halt := some h }
    | .directive directive =>
      let s := convert d directive s
      if s.halt.isSome then s else writeParts d parts s

/-- Whether a part takes words. -/
def Part.takesWords : Part → Bool
  | .directive _ => true
  | _ => false

/-- Goes over the format again as long as words are left and it takes some. -/
def writeAgain (d : Dialect) (parts : List Part) : Nat → State → State
  | 0, s => s
  | limit + 1, s =>
    let s := writeParts d parts s
    if s.halt.isSome || s.left.isEmpty || !parts.any (·.takesWords) then s
    else writeAgain d parts limit s

def run (d : Dialect) (format : String) (words : List String) : State :=
  let s := writeAgain d (partsFrom d 0 format.toList) (words.length + 1) { left := words }
  { s with complaints := s.complaints.reverse }

def State.isFailed (s : State) : Bool := s.complaints.any (·.isFailure)

/-- The limits of words with and without a sign; what is out of them is complained of. -/
def leastSigned : Int := -9223372036854775808

def mostSigned : Int := 9223372036854775807

def mostUnsigned : Int := 18446744073709551615

/-- A whole number in its limits, what is left of its text, and whether it was beyond them. A
number without a sign beyond its limits is the greatest one. -/
def whole (isSigned : Bool) (word : String) : Numeral × Bool :=
  let n := wholeNumber word.toList
  let value :=
    if isSigned then clamp leastSigned mostSigned n.value
    else if n.value.natAbs ≤ mostUnsigned.natAbs then n.value
    else mostUnsigned
  ({ n with value }, decide (value ≠ n.value))

end NestedShell.Host.Printf

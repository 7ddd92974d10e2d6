import NestedShell.Host.Printf
import NestedShell.Host.Quoting
import NestedShell.Host.Written

/-! The utility `printf`. -/
namespace NestedShell.Host.Printf

def outOfRange : String := "Numerical result out of range"

namespace Utility

/-- A code point as its bytes, or as the escape that names it. -/
def writeCodePoint (knowsText : Bool) (n : Nat) : List Char :=
  if n < 0x80 then [Char.ofNat n]
  else if knowsText && n < 0x110000 then
    (Text.Octets.ofText (String.singleton (Char.ofNat n))).toList
  else if n < 0x10000 then '\\' :: 'u' :: (EscapeRules.hexDigits 4 n).map Char.toUpper
  else '\\' :: 'U' :: (EscapeRules.hexDigits 8 n).map Char.toUpper

def escapes (knowsText : Bool) : EscapeRules where
  letters := ('"', 0x22) :: ('e', 0x1B) :: EscapeRules.commonLetters
  hexadecimal := .strict
  codePoint := some (writeCodePoint knowsText)
  hasStop := true

/-- The letters that a directive may end with, as far as its flags and precision allow. -/
def isAllowed (flags : List Char) (hasPrecision : Bool) (letter : Char) : Bool :=
  let among (letters : String) := letters.toList.contains letter
  among "aAcdeEfFgGiosuxX" &&
    !((flags.any ['I', '\''].contains) && among "aAceEosxX") &&
    !(flags.contains '#' && among "cdisu") &&
    !(flags.contains '0' && among "cs") &&
    !(hasPrecision && letter = 'c')

/-- A width or precision, and how many characters it takes. -/
def size (cs : List Char) : Size × Nat :=
  if cs.head? = some '*' then (.word, 1)
  else
    let digits := (digitsIn 10 cs.length cs).1
    (.given (valueIn 10 digits), digits.length)

/-- Flags, width, precision, letters that mean nothing, and the letter of the conversion. -/
def directive (cs : List Char) : Directive × Nat :=
  if cs.head? = some 'b' || cs.head? = some 'q' then ({ letter := cs.headD 'b' }, 1)
  else
    let flags := cs.takeWhile (['-', '+', ' ', '#', '0', '\'', 'I'].contains ·)
    let rest := cs.drop flags.length
    let (width, n) := size rest
    let rest := rest.drop n
    let (precision, m) : Option Size × Nat :=
      if rest.head? = some '.' then
        let (p, k) := size (rest.drop 1)
        (some p, k + 1)
      else (none, 0)
    let rest := rest.drop m
    let idle := (rest.takeWhile (['l', 'L', 'h', 'j', 't', 'z'].contains ·)).length
    let letter := (rest.drop idle).headD '\x00'
    let taken := flags.length + n + m + idle + 1
    let fault := if isAllowed flags precision.isSome letter then none
      else some ("%" ++ String.ofList (cs.take taken) ++ ": invalid conversion specification")
    ({ flags, width := some width, precision, letter, fault }, taken)

/-- The number of a character that follows a quote, and what follows it. -/
def quotedCharacter? (knowsText : Bool) (word : String) : Option (Nat × List Char) :=
  match word.toList with
  | q :: c :: rest =>
    if q ≠ '\'' && q ≠ '"' then none
    else if !knowsText then some (c.toNat, rest)
    else match (Text.Utf8.decode (Text.Octets.bytes (String.ofList (c :: rest)))).head? with
      | some (some x) => some (x.toNat, rest.drop (x.utf8Size - 1))
      | _ => some (c.toNat, rest)
  | _ => none

/-- What is wrong with a word of which only the start is a number. -/
def complaint? (word : String) (rest : List Char) (isNumber isOut : Bool) : Option Complaint :=
  let about (text : String) : Option Complaint := some { message := text }
  if isOut then about (Quoting.inMessage word ++ ": " ++ outOfRange)
  else if rest.isEmpty then none
  else if isNumber then about (Quoting.inMessage word ++ ": value not completely converted")
  else about (Quoting.inMessage word ++ ": expected a numeric value")

/-- What follows a quoted character is left out, which only a strict reader passes over. -/
def surplus? (isStrict : Bool) (rest : List Char) : Option Complaint :=
  if rest.isEmpty || isStrict then none
  else some
    { message := "warning: " ++ String.ofList rest ++
        ": character(s) following character constant have been ignored"
      isFailure := false }

def dialect (knowsText isStrict : Bool) : Dialect :=
  let integer (isSigned : Bool) (word : String) : Int × Option Complaint :=
    match quotedCharacter? knowsText word with
    | some (n, rest) => (n, surplus? isStrict rest)
    | none =>
      let (n, isOut) := whole isSigned word
      (n.value, complaint? word n.rest n.isNumber isOut)
  { escapes := escapes knowsText
    wordEscapes := { escapes knowsText with hasZero := true }
    directive
    sizeOf := fun isWidth word n =>
      let what := if isWidth then "invalid field width: " else "invalid precision: "
      if mostSize < n || (isWidth && n < -mostSize - 1) then .error (what ++ Quoting.inMessage word)
      else .ok (max n (-mostSize - 1))
    signed := integer true
    unsigned := integer false
    real := fun word =>
      match quotedCharacter? knowsText word with
      | some (n, rest) => (.finite false n 0, surplus? isStrict rest)
      | none =>
        let r := Binary.read .extended word.toList
        (r.value, complaint? word r.rest r.isNumber r.isOutOfRange)
    format := .extended
    quoted := Quoting.forShell }

/-- A stop ends well whatever came before it, a fault never does. -/
def codeOf (s : State) : UInt8 :=
  match s.halt with
  | some .stop => 0
  | some (.fault _) => 1
  | none => if s.isFailed then 1 else 0

/-- The fault that ends the output, or the first of the words that no directive has taken. -/
def lastWords? (s : State) : Option String :=
  match s.halt, s.left with
  | none, word :: _ =>
    some ("warning: ignoring excess arguments, starting with " ++ Quoting.inMessage word)
  | some (.fault message), _ => some message
  | _, _ => none

/-- Writes the words after the format. The format may stand behind two dashes. -/
def run (program : String) (knowsText isStrict : Bool) (words : List String) : Written :=
  match (if words.head? = some "--" then words.drop 1 else words) with
  | [] =>
    { err := program ++ ": missing operand\nTry '" ++ program ++
        " --help' for more information.\n"
      code := 1 }
  | format :: words =>
    let s := Printf.run (dialect knowsText isStrict) format words
    { out := s.out
      err := messageLines program (s.complaints.map (·.message) ++ (lastWords? s).toList ++
        (if s.isBroken then ["write error"] else []))
      code := if s.isBroken then 1 else codeOf s }

end Utility

end NestedShell.Host.Printf

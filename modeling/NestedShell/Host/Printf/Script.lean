import NestedShell.Host.Printf

/-! The `printf` of scripts. -/
namespace NestedShell.Host.Printf.Script

def escapes : EscapeRules where
  letters := ('e', 0x1B) :: EscapeRules.commonLetters
  takesNext := false

def outOfRange : String := "Numerical result out of range"

/-- A width or precision, and how many characters it takes. -/
def size (cs : List Char) : Option Size × Nat :=
  if cs.head? = some '*' then (some .word, 1)
  else
    let run := cs.takeWhile (fun c => c.isDigit || c = '*')
    let given := valueIn 10 (run.takeWhile Char.isDigit)
    (if run.isEmpty then none else some (.given given), run.length)

/-- Flags, width, precision and the letter of the conversion. -/
def directive (cs : List Char) : Directive × Nat :=
  let flags := cs.takeWhile (['#', '-', '+', ' ', '0'].contains ·)
  let rest := cs.drop flags.length
  let (width, n) := size rest
  let rest := rest.drop n
  let (precision, m) : Option Size × Nat :=
    if rest.head? = some '.' then
      let (p, k) := size (rest.drop 1)
      (some (p.getD (.given 0)), k + 1)
    else (none, 0)
  match rest.drop m with
  | [] =>
    let fault := "missing format character"
    ({ width, precision, letter := '\x00', fault := some fault }, cs.length)
  | letter :: _ =>
    let taken := flags.length + n + m + 1
    let isKnown := "bcsdiouxXaAeEfFgG".toList.contains letter
    let fault := if isKnown then none
      else some ("%" ++ String.ofList (cs.take taken) ++ ": invalid directive")
    ({ flags, width, precision, letter, fault }, taken)

/-- What is wrong with a word of which only the start is a number. -/
def complaint? (word : String) (rest : List Char) (isNumber isOut : Bool) : Option Complaint :=
  if !rest.isEmpty then
    some { message := word ++
      (if isNumber then ": not completely converted" else ": expected numeric value") }
  else if isOut then some { message := word ++ ": " ++ outOfRange }
  else none

/-- The number of the character behind a quote, 0 where there is none. -/
def quotedCharacter? (word : String) : Option Nat :=
  match word.toList with
  | q :: rest => if q = '\'' || q = '"' then some ((rest.headD '\x00').toNat) else none
  | [] => none

def integer (isSigned : Bool) (word : String) : Int × Option Complaint :=
  match quotedCharacter? word with
  | some n => (n, none)
  | none =>
    let (n, isOut) := whole isSigned word
    (n.value, complaint? word n.rest n.isNumber isOut)

def dialect : Dialect where
  escapes
  wordEscapes := { escapes with hasZero := true, hasStop := true }
  directive
  sizeOf := fun _ _ n => .ok (Int.bmod n 4294967296)
  overflow := some "xvsnprintf failed"
  signed := integer true
  unsigned := integer false
  real := fun word =>
    match quotedCharacter? word with
    | some n => (.finite false n 0, none)
    | none =>
      let r := Binary.read .double word.toList
      (r.value, complaint? word r.rest r.isNumber r.isOutOfRange)
  format := .double

end NestedShell.Host.Printf.Script

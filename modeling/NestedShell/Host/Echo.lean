import NestedShell.Host.Escape

/-! The utility `echo`. -/
namespace NestedShell.Host

def joinWords (words : List String) : String := String.intercalate " " words

namespace Echo

def escapes : EscapeRules where
  letters := ('e', 0x1B) :: EscapeRules.commonLetters
  hasZero := true
  hexadecimal := .lenient
  hasStop := true

/-- A word that holds nothing but option letters after its dash. -/
def isOption (word : String) : Bool :=
  match word.toList with
  | '-' :: letters => !letters.isEmpty && letters.all (['n', 'e', 'E'].contains ·)
  | _ => false

/-- Writes the words, a stop among their escapes ending all. -/
def written (readsEscapes endsLine : Bool) (words : List String) : String :=
  let feed := if endsLine then "\n" else ""
  if readsEscapes then
    match unescape escapes (joinWords words) with
    | (cs, none) => String.ofList cs ++ feed
    | (cs, some _) => String.ofList cs
  else joinWords words ++ feed

/-- Option `-n` leaves the last line feed out, `-e` reads escapes, `-E` does not. An echo that is
`strict` always reads escapes, and has options only behind a first one that is `-n`. -/
def run (isStrict : Bool) (words : List String) : String :=
  let hasOptions := !isStrict || words.head? = some "-n"
  let options := if hasOptions then words.takeWhile isOption else []
  let letters := options.flatMap String.toList
  let readsEscapes := (letters.filter (['e', 'E'].contains ·)).getLast? = some 'e'
  written (readsEscapes || isStrict) (!letters.contains 'n') (words.drop options.length)

end Echo

end NestedShell.Host

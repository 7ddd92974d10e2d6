import NestedShell.Host.Escape

/-! Words written so that a shell reads them back, and words quoted in messages. -/
namespace NestedShell.Host.Quoting

def isPrintable (c : Char) : Bool := ' ' ≤ c && c ≤ '~'

/-- The letter that stands for a control character behind a backslash. -/
def letter? (c : Char) : Option Char :=
  (EscapeRules.commonLetters.find? (fun p => p.2 = c.toNat && p.1 ≠ '\\')).map (·.1)

def octalDigits (c : Char) : List Char :=
  let ds := Nat.toDigits 8 c.toNat
  List.replicate (3 - ds.length) '0' ++ ds

/-- A backslash escape for a character that cannot be printed. -/
def escaped (c : Char) : List Char := '\\' :: ((letter? c).map (fun l => [l])).getD (octalDigits c)

/-- Characters that a shell gives a meaning of their own, wherever they stand. -/
def specials : List Char :=
  ['?', '\\', '\'', ' ', '!', '"', '$', '&', '(', ')', '*', ';', '<', '=', '>', '[', '^', '\x60',
   '|']

/-- A word that must be quoted. Some characters matter only at its start, or alone. -/
def isSpecial (cs : List Char) : Bool :=
  cs.isEmpty || cs.any (fun c => specials.contains c || !isPrintable c) ||
    ['#', '~'].contains (cs.headD 'x') || cs = ['\x7b'] || cs = ['\x7d']

/-- Characters that stand for themselves between double quotes too, single quotes among them. -/
def isCommon (isFirst isAlone : Bool) (c : Char) : Bool :=
  c.isAlphanum || [' ', '\'', '%', '+', ',', '-', '.', '/', ':', ']', '_', '@'].contains c ||
    (isFirst && ['#', '~'].contains c) || (isAlone && ['\x7b', '\x7d'].contains c)

def areCommon (cs : List Char) : Bool :=
  match cs with
  | [] => true
  | c :: rest => isCommon true rest.isEmpty c && rest.all (isCommon false false)

/-- The inside of single quotes; characters that cannot be printed stand in quotes of their own,
which `isEscaping` says are open. -/
def insideFrom (isEscaping : Bool) : List Char → List Char
  | [] => []
  | c :: rest =>
    if c = '\'' then ['\'', '\\', '\'', '\''] ++ insideFrom false rest
    else if isPrintable c then
      (if isEscaping then ['\'', '\''] else []) ++ c :: insideFrom false rest
    else (if isEscaping then [] else ['\'', '$', '\'']) ++ escaped c ++ insideFrom true rest

/-- A word that a shell reads as it is. -/
def forShell (word : String) : String :=
  let cs := word.toList
  if !isSpecial cs then word
  else if cs.contains '\'' && areCommon cs then "\"" ++ word ++ "\""
  else "'" ++ String.ofList (insideFrom false cs) ++ "'"

/-- A word in a message. -/
def inMessage (word : String) : String :=
  "'" ++ String.ofList (word.toList.flatMap fun c =>
    if c = '\'' || c = '\\' then ['\\', c] else if isPrintable c then [c] else escaped c) ++ "'"

end NestedShell.Host.Quoting

/-! Patterns, and the parts of a text that they take. -/
namespace NestedShell.Host.Script

/-- What may stand in a set of characters. -/
inductive Item where
  | range (first last : Char)
  | kind (test : Char → Bool)

inductive Wild where
  | char (c : Char)
  | any
  | many
  | set (isInverted : Bool) (items : List Item)

/-- Bytes are ordered by their value with a sign. -/
def signedByte (c : Char) : Int := if c.toNat < 128 then c.toNat else (c.toNat : Int) - 256

def Item.holds (x : Char) : Item → Bool
  | range first last => signedByte first ≤ signedByte x && signedByte x ≤ signedByte last
  | kind test => test x

def isGraphic (c : Char) : Bool := '!' ≤ c && c ≤ '~'

/-- The classes of characters that a set may name. -/
def classes : List (String × (Char → Bool)) :=
  [("alnum", Char.isAlphanum), ("cntrl", fun c => c < ' ' || c = '\x7f'), ("lower", Char.isLower),
   ("space", fun c => c = ' ' || ('\t' ≤ c && c ≤ '\r')), ("alpha", Char.isAlpha),
   ("digit", Char.isDigit), ("print", fun c => c = ' ' || isGraphic c), ("upper", Char.isUpper),
   ("blank", fun c => c = ' ' || c = '\t'), ("graph", isGraphic),
   ("punct", fun c => isGraphic c && !c.isAlphanum),
   ("xdigit", fun c => c.isDigit || ('a' ≤ c.toLower && c.toLower ≤ 'f'))]

/-- A class named behind the second bracket, and how many characters its name takes. -/
def class? (cs : List Char) : Option ((Char → Bool) × Nat) :=
  if cs.head? ≠ some ':' then none
  else
    (classes.find? fun p => (p.1 ++ ":]").toList.isPrefixOf (cs.drop 1)).map
      fun p => (p.2, p.1.length + 3)

/-- The items of a set up to its closing bracket, and how many characters they take with it. A
bracket that comes first closes nothing. The number bounds the items. -/
def itemsFrom : Nat → Bool → List Char → Option (List Item × Nat)
  | 0, _, _ => none
  | limit + 1, isFirst, cs =>
    let more (item : Item) (taken : Nat) : Option (List Item × Nat) :=
      (itemsFrom limit false (cs.drop taken)).map fun (items, n) => (item :: items, n + taken)
    let single (first : Char) (taken : Nat) : Option (List Item × Nat) :=
      match cs.drop taken with
      | '-' :: '\\' :: last :: _ => more (.range first last) (taken + 3)
      | '-' :: last :: _ =>
        if last = ']' then more (.range first first) taken else more (.range first last) (taken + 2)
      | _ => more (.range first first) taken
    match cs with
    | [] => none
    | ']' :: _ => if isFirst then single ']' 1 else some ([], 1)
    | '[' :: rest =>
      match class? rest with
      | some (test, taken) => more (.kind test) (taken + 1)
      | none => single '[' 1
    | '\\' :: c :: _ => single c 2
    | c :: _ => single c 1

/-- What a pattern is made of. The number is of characters already taken; a set that is not closed
is none. -/
def wildsFrom : Nat → List Char → List Wild
  | _, [] => []
  | taken + 1, _ :: rest => wildsFrom taken rest
  | 0, c :: rest =>
    match c with
    | '\\' =>
      match rest with
      | [] => [.char '\\']
      | d :: _ => .char d :: wildsFrom 1 rest
    | '?' => .any :: wildsFrom 0 rest
    | '*' => .many :: wildsFrom 0 rest
    | '[' =>
      let isInverted := rest.head? = some '!'
      let inner := if isInverted then rest.drop 1 else rest
      match itemsFrom (inner.length + 1) true inner with
      | some (items, n) =>
        .set isInverted items :: wildsFrom (n + (if isInverted then 1 else 0)) rest
      | none => .char '[' :: wildsFrom 0 rest
    | c => .char c :: wildsFrom 0 rest

def wilds (pattern : List Char) : List Wild := wildsFrom 0 pattern

/-- What a piece of a pattern takes of a text, a character at a time. -/
def Wild.takes (x : Char) : Wild → Bool
  | char c => x = c
  | any | many => true
  | set isInverted items => items.any (·.holds x) ≠ isInverted

/-- A place in a pattern: the pieces behind it, and how many they are. -/
structure Place where
  count : Nat
  rest : List Wild

/-- Adds a place to others, and the places that are come to from there without a character. Places
are in the order of the pattern, and one that is not before all others is among them already. -/
def reach (count : Nat) (rest : List Wild) (others : List Place) : List Place :=
  if others.head?.any (count ≤ ·.count) then others
  else ⟨count, rest⟩ :: match rest with
    | .many :: more => reach (count - 1) more others
    | _ => others

/-- The places before any text. -/
def firstPlaces (ws : List Wild) : List Place := reach ws.length ws []

/-- The places behind one more character. -/
def advance (x : Char) (places : List Place) : List Place :=
  places.foldr (fun p others =>
    match p.rest with
    | [] => others
    | w :: more =>
      let others := if w.takes x then reach (p.count - 1) more others else others
      match w with
      | .many => reach p.count p.rest others
      | _ => others) []

/-- The end of the pattern is among the places. -/
def isComplete (places : List Place) : Bool := places.getLast?.any (·.rest.isEmpty)

def matchesWilds (ws : List Wild) (text : List Char) : Bool :=
  isComplete (text.foldl (fun places x => advance x places) (firstPlaces ws))

def matchesPattern (pattern text : List Char) : Bool := matchesWilds (wilds pattern) text

/-- What is behind the shortest part at the start of a text that a pattern takes. At a border the
search ends, or starts anew. -/
def behindShortest (border : Char) (again : Option (List Place)) :
    List Place → List Char → Option (List Char)
  | places, [] => if isComplete places then some [] else none
  | places, c :: rest =>
    if isComplete places then some (c :: rest)
    else if c ≠ border then behindShortest border again (advance c places) rest
    else match again with
      | some places => behindShortest border again places rest
      | none => none

/-- What is behind the longest part at the start of a text that a pattern takes, `best` being what
is known already. All of a text is taken where the pattern takes it up to a border. -/
def behindLongest (border : Char) :
    Option (List Char) → List Place → List Char → Option (List Char)
  | best, places, [] => if isComplete places then some [] else best
  | best, places, c :: rest =>
    if c = border then if isComplete places then some [] else best
    else behindLongest border (if isComplete places then some (c :: rest) else best)
      (advance c places) rest

/-- The text without the part at one end that the pattern takes, the longest or the shortest. Where
parts are kept apart by a border, a match ends at the first one, and so does a search from the
start. A search from the end goes backwards, in the text and in the pattern. -/
def trimmed (border : Char) (isEnd isLongest : Bool) (pattern text : List Char) : List Char :=
  let ws := wilds pattern
  let places := firstPlaces (if isEnd then ws.reverse else ws)
  let left := match isEnd, isLongest with
    | false, false => behindShortest border none places text
    | false, true => behindLongest border none places text
    | true, false =>
      (behindShortest border (some places) places text.reverse).map List.reverse
    | true, true =>
      let first := text.takeWhile (· ≠ border)
      (behindLongest border none places first.reverse).map List.reverse
  left.getD text

/-- Whether a pattern holds anything that a file name could be looked up for. -/
def hasWild (pattern : List Char) : Bool :=
  (wilds pattern).any fun
    | .char _ => false
    | _ => true

end NestedShell.Host.Script

import NestedShell.Host.Script.Fields
import NestedShell.Host.Script.Sum

/-! What the words of a script stand for. -/
namespace NestedShell.Host.Script

/-- How a word is expanded. -/
structure Mode where
  /-- The word is to be cut into fields. -/
  isFull : Bool := false
  /-- A tilde at the start stands for a home directory. -/
  tilde : Bool := false
  /-- So does one behind an equals sign or a colon. -/
  assignTilde : Bool := false
  /-- The equals sign has been passed. -/
  isBehindEquals : Bool := false
  isQuoted : Bool := false
  /-- The word stands in for a parameter's value. -/
  inParameter : Bool := false

/-- An expansion so far: its cells, the last one first. -/
structure Expansion where
  cells : List Cell := []
  inQuotes : Bool := false
  /-- The last characters may be cut at separators though they stand in the script. -/
  isSplit : Bool := false
  isBehindEquals : Bool := false

namespace Expansion

def setSplit (isSplit : Bool) (e : Expansion) : Expansion :=
  if e.isSplit = isSplit then e
  else { e with isSplit, cells := .region (if isSplit then .split else .fixed) :: e.cells }

/-- Adds cells that say of themselves which regions they are. -/
def addCells (cells : List Cell) (e : Expansion) : Expansion :=
  let e := e.setSplit false
  { e with cells := cells.reverse ++ e.cells }

def addChar (mode : Mode) (c : Char) (isEscaped : Bool) (e : Expansion) : Expansion :=
  let e := e.setSplit (mode.inParameter && !mode.isQuoted && !e.inQuotes && !isEscaped)
  { e with cells := .char c isEscaped :: e.cells }

def addMark (e : Expansion) : Expansion :=
  let e := e.setSplit false
  { e with cells := .mark :: e.cells, inQuotes := !e.inQuotes }

end Expansion

def cellsOf (isEscaped : Bool) (cs : List Char) : List Cell := cs.map (.char · isEscaped)

/-- Cells of a region. -/
def regionCells (r : Region) (cells : List Cell) : List Cell :=
  if r = .fixed then cells else .region r :: cells ++ [.region .fixed]

/-- The home directories of users. -/
def homes : List (String × String) :=
  [("root", "/root"), ("daemon", "/usr/sbin"), ("bin", "/bin"), ("sys", "/dev"),
   ("sync", "/bin"), ("games", "/usr/games"), ("man", "/var/cache/man"),
   ("nobody", "/nonexistent")]

/-- The home directory of a user, or of nobody in particular. -/
def home? (s : Shell) (name : List Char) : Option String :=
  if name.isEmpty then s.get? "HOME" else homes.lookup (String.ofList name)

/-- The name behind a tilde, if nothing of it is quoted or stands for something else. -/
def tildeName (endsAtColon : Bool) : List Part → Option (List Char)
  | [] => some []
  | .char c false :: rest =>
    if c = '/' || (endsAtColon && c = ':') then some []
    else (tildeName endsAtColon rest).map (c :: ·)
  | _ => none

/-- The letters of the options that are set, in the order in which `$-` has them. -/
def optionLetters : List Char := "pubaCEVvxsnmiIfe".toList

/-- The character between arguments that are joined, if there is one; arguments that are to be cut
stay apart. -/
def joiner (s : Shell) (mode : Mode) (name : String) (isQuoted : Bool) : Option Char :=
  if mode.isFull && isQuoted && name = "@" then some wordBorder
  else
    match s.get? "IFS" with
    | none => some ' '
    | some separators =>
      if mode.isFull && !isQuoted then some wordBorder else separators.toList.head?

/-- The value of a parameter, if it has one. -/
def parameterValue (s : Shell) (mode : Mode) (name : String) (isQuoted : Bool) :
    Option (List Char) :=
  match name.toList with
  | ['$'] => some (Text.decimalChars s.root)
  | ['?'] => some (Text.decimalChars s.status)
  | ['#'] => some (Text.decimalChars s.arguments.length)
  | ['!'] => s.lastBackground.map fun n => Text.decimalChars n
  | ['-'] => some (optionLetters.filter s.has)
  | ['@'] | ['*'] =>
    some ((joiner s mode name isQuoted).toList.intercalate (s.arguments.map String.toList))
  | c :: rest =>
    if c.isDigit then
      match valueIn 10 (c :: rest) with
      | 0 => some s.name.toList
      | n + 1 => (s.arguments[n]?).map String.toList
    else (s.get? name).map String.toList
  | [] => none

/-- The region that a parameter's value is. -/
def regionOf (s : Shell) (name : String) (isQuoted : Bool) : Region :=
  if !isQuoted then .split
  else if name = "@" && !s.arguments.isEmpty then .words
  else .fixed

/-- How words within words are expanded, and what commands write. -/
structure Inner where
  expand : Mode → Word → Act (List Cell)
  capture : Command → Act String

/-- A parameter must have a value. -/
def failUnset {α : Type} (name message : String) : Act α := fail (name ++ ": " ++ message)

/-- What a parameter comes to. -/
def expandParameter (inner : Inner) (mode : Mode) (isQuoted : Bool) (name : String)
    (op : Operator) (skipsEmpty : Bool) (word : Word) : Act (List Cell) := do
  let s ← get
  if op = .bad then fail "Bad substitution"
  let whole := parameterValue s mode name isQuoted
  let value? := if skipsEmpty then whole.filter (!·.isEmpty) else whole
  let shown (cs : List Char) : List Cell :=
    regionCells (regionOf s name isQuoted) (cellsOf isQuoted cs)
  let alternative : Act (List Cell) :=
    inner.expand { mode with tilde := true, inParameter := true, isQuoted } word
  let plain : Act String := do
    return String.ofList (textOfCells (← inner.expand { tilde := true } word))
  let needed : Act (List Char) :=
    match value? with
    | some cs => return cs
    | none => if s.has 'u' then failUnset name "parameter not set" else return []
  match op, value? with
  | .andWord, some _ => alternative
  | .andWord, none => return []
  | .orWord, some cs => return shown cs
  | .orWord, none => alternative
  | .orFail, some cs => return shown cs
  | .orFail, none =>
    if word.isEmpty then
      failUnset name ("parameter not set" ++ (if skipsEmpty then " or null" else ""))
    else failUnset name (← plain)
  | .orAssign, some cs => return shown cs
  | .orAssign, none => do
    let text ← plain
    assign name (some text) false false
    return regionCells (if isQuoted then .fixed else .split) (cellsOf isQuoted text.toList)
  | .trim isEnd isLongest, some cs => do
    let pattern := patternOfCells (← inner.expand { tilde := true } word)
    return shown (trimmed wordBorder isEnd isLongest pattern cs)
  | .length, _ => do
    let cs ← needed
    return shown (Text.decimalChars cs.length)
  | _, _ => do return shown (← needed)

/-- The text that a command writes, without the line ends that end it. -/
def expandOutput (inner : Inner) (isQuoted : Bool) (body : Command) : Act (List Cell) := do
  let text := (← inner.capture body).toList.filter (· ≠ '\x00')
  let kept := (text.reverse.dropWhile (· = '\n')).reverse
  return regionCells (if isQuoted then .fixed else .split) (cellsOf isQuoted kept)

def expandSum (inner : Inner) (isQuoted : Bool) (body : Word) : Act (List Cell) := do
  let n ← Sum.value (textOfCells (← inner.expand {} body))
  return regionCells (if isQuoted then .fixed else .split)
    (cellsOf isQuoted (Text.decimalChars n.toInt))

/-- Expands the parts of a word. The number is of parts already taken; `atTilde` says whether a
tilde would have a meaning here. -/
def expandFrom (inner : Inner) (mode : Mode) :
    Nat → Bool → List Part → Expansion → Act Expansion
  | _, _, [], e => return e
  | taken + 1, atTilde, _ :: rest, e => expandFrom inner mode taken atTilde rest e
  | 0, atTilde, part :: rest, e => do
    let s ← get
    let isQuoted := mode.isQuoted || e.inQuotes
    let add (cells : List Cell) : Act Expansion :=
      expandFrom inner mode 0 false rest (e.addCells cells)
    match part with
    | .char c isEscaped =>
      let isTilde := atTilde && c = '~' && !isEscaped
      let tilde := if isTilde then tildeName mode.assignTilde rest else none
      match tilde.bind (fun name => (home? s name).map (name, ·)) with
      | some (name, home) =>
        expandFrom inner mode name.length false rest (e.addCells (cellsOf true home.toList))
      | none =>
        let isEquals := c = '=' && !e.isBehindEquals
        let atTilde := mode.assignTilde && !isEscaped && (isEquals || c = ':')
        let e := { e with isBehindEquals := e.isBehindEquals || (isEquals && !isEscaped) }
        expandFrom inner mode 0 atTilde rest (e.addChar mode c isEscaped)
    | .mark =>
      match rest with
      | .parameter "@" .value false [] :: .mark :: _ =>
        if e.inQuotes then expandFrom inner mode 0 false rest e.addMark
        else
          let cells ← expandParameter inner mode true "@" .value false []
          expandFrom inner mode 2 false rest (e.addCells cells)
      | _ => expandFrom inner mode 0 false rest e.addMark
    | .parameter name op skipsEmpty word =>
      let mode := { mode with isBehindEquals := e.isBehindEquals }
      add (← expandParameter inner mode isQuoted name op skipsEmpty word)
    | .output body => add (← expandOutput inner isQuoted body)
    | .sum body => add (← expandSum inner isQuoted body)

/-- Expands a word. The number bounds how deep words stand within words. -/
def expandWithin (capture : Command → Act String) : Nat → Mode → Word → Act (List Cell)
  | 0, _, _ => fail "words too deep"
  | depth + 1, mode, word => do
    let inner : Inner := { expand := expandWithin capture depth, capture }
    let e ← expandFrom inner mode 0 mode.tilde word { isBehindEquals := mode.isBehindEquals }
    return (e.setSplit false).cells.reverse

def wordDepth : Nat := 60000

/-- Expands words of a script, where `capture` says what commands write. -/
def expand (capture : Command → Act String) : Mode → Word → Act (List Cell) :=
  expandWithin capture wordDepth

/-- The text of a word that is not cut into fields. -/
def expandText (capture : Command → Act String) (mode : Mode) (word : Word) : Act String := do
  return String.ofList (textOfCells (← expand capture mode word))

/-- The pattern that a word is. -/
def expandPattern (capture : Command → Act String) (word : Word) : Act (List Char) := do
  return patternOfCells (← expand capture { tilde := true } word)

/-- The fields of a word, and the files that they name. -/
def expandFields (capture : Command → Act String) (word : Word) : Act (List String) := do
  let cells ← expand capture { isFull := true, tilde := true } word
  let s ← get
  return (fieldsOf (separatorsOf s) none cells).flatMap (filesOf s)

end NestedShell.Host.Script

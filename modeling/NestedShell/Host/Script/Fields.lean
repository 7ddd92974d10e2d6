import NestedShell.Host.Script.Pattern
import NestedShell.Host.Script.Shell

/-! Expanded texts, how they are cut into fields, and the files that fields may name. -/
namespace NestedShell.Host.Script

/-- What becomes of a part of an expanded text: it stays as it is, it is cut at separators, or it
holds arguments that stay apart. -/
inductive Region where
  | fixed
  | split
  | words
  deriving DecidableEq

/-- An expanded text: characters, the marks of quotes, and the starts of its regions. -/
inductive Cell where
  | char (c : Char) (isEscaped : Bool)
  | mark
  | region (r : Region)

/-- The character between arguments that stay apart. -/
def wordBorder : Char := '\x00'

/-- The characters of a text, without its marks. -/
def textOfCells (cells : List Cell) : List Char :=
  cells.filterMap fun
    | .char c _ => some c
    | _ => none

/-- The pattern that a text is: what is escaped stands behind a backslash. A backslash that is not
escaped guards what follows it already. -/
def patternFrom : Bool → List Cell → List Char
  | _, [] => []
  | isGuarded, .char c isEscaped :: rest =>
    let guard := if isEscaped && !isGuarded then ['\\'] else []
    guard ++ c :: patternFrom (c = '\\' && !isEscaped && !isGuarded) rest
  | isGuarded, _ :: rest => patternFrom isGuarded rest

def patternOfCells (cells : List Cell) : List Char := patternFrom false cells

/-- How far the cutting of a text has come. Cells and fields are kept with the last one first. -/
structure Cutting where
  fields : List (List Cell) := []
  field : List Cell := []
  region : Region := .fixed
  /-- The last region that was not fixed, and whether the one before it held arguments. -/
  last : Region := .fixed
  isAfterWords : Bool := false
  /-- Blank separators have been met, and more may follow. -/
  isInBlanks : Bool := false
  /-- How many fields there may be at most, the last of them taking all that is left. -/
  left : Option Nat := none
  /-- The length up to which the last field is kept. -/
  kept : Option Nat := none

namespace Cutting

def blanks : List Char := [' ', '\t', '\n']

def add (cell : Cell) (k : Cutting) : Cutting := { k with field := cell :: k.field }

/-- The last field takes a character. What ends it is blank, or one separator and blanks. -/
def addLast (cell : Cell) (isSeparator isBlank : Bool) (k : Cutting) : Cutting :=
  if isBlank then { k.add cell with kept := some (k.kept.getD k.field.length) }
  else
    { k.add cell with isInBlanks := false,
                      kept := if isSeparator && k.isInBlanks then k.kept else none }

/-- A separator ends the field. Blank ones count as one, together with one that is not blank. -/
def separate (cell : Cell) (isBlank : Bool) (k : Cutting) : Cutting :=
  let keepsApart := k.isAfterWords || k.region = .words
  let isInBlanks := if keepsApart then k.isInBlanks else isBlank
  if k.field.isEmpty && isInBlanks then { k with isInBlanks := false }
  else match k.left with
    | some 1 => { k.add cell with left := some 0, isInBlanks, kept := some k.field.length }
    | left =>
      { k with fields := k.field.reverse :: k.fields, field := [], isInBlanks,
               left := left.map (· - 1) }

def addChar (separators : List Char) (c : Char) (cell : Cell) (k : Cutting) : Cutting :=
  let separators := if k.region = .words then [] else separators
  let isSeparator := c = wordBorder || separators.contains c
  let isBlank := isSeparator && (c = wordBorder || blanks.contains c)
  if k.left = some 0 then k.addLast cell isSeparator isBlank
  else if k.isInBlanks then
    if isBlank then k
    else if isSeparator then { k with isInBlanks := false }
    else { k.add cell with isInBlanks := false }
  else if isSeparator then k.separate cell isBlank
  else k.add cell

def step (separators : List Char) (k : Cutting) (cell : Cell) : Cutting :=
  match cell with
  | .region .fixed => { k with region := .fixed }
  | .region r =>
    { k with region := r, last := r, isAfterWords := k.last = .words, isInBlanks := false }
  | .mark => k.add cell
  | .char c _ => if k.region = .fixed then k.add cell else k.addChar separators c cell

/-- The fields; a last one that is empty counts only where arguments stay apart. -/
def finish (k : Cutting) : List (List Cell) :=
  let field := match k.kept with
    | some n => k.field.drop (k.field.length - n)
    | none => k.field
  (if field.isEmpty && k.last ≠ .words then k.fields else field.reverse :: k.fields).reverse

end Cutting

/-- The fields of a text. -/
def fieldsOf (separators : List Char) (limit : Option Nat) (cells : List Cell) :
    List (List Cell) :=
  (cells.foldl (Cutting.step separators) { left := limit }).finish

/-- The characters that fields are separated by. -/
def separatorsOf (s : Shell) : List Char := ((s.get? "IFS").getD " \t\n").toList

/-- The parts of a path's pattern between slashes. -/
def patternParts : List Char → List (List Char)
  | [] => [[]]
  | '\\' :: '/' :: rest => [] :: patternParts rest
  | '/' :: rest => [] :: patternParts rest
  | '\\' :: c :: rest =>
    match patternParts rest with
    | part :: parts => ('\\' :: c :: part) :: parts
    | [] => [['\\', c]]
  | c :: rest =>
    match patternParts rest with
    | part :: parts => (c :: part) :: parts
    | [] => [[c]]

/-- A pattern's characters without the backslashes that guard them. -/
def unguarded : List Char → List Char
  | [] => []
  | ['\\'] => ['\\']
  | '\\' :: c :: rest => c :: unguarded rest
  | c :: rest => c :: unguarded rest

/-- A name matches; one that starts with a dot does so only where the pattern says it. -/
def matchesName (pattern : List Char) (name : String) : Bool :=
  matchesPattern pattern name.toList &&
    (name.toList.head? ≠ some '.' || (unguarded pattern).head? = some '.')

/-- The paths behind `before` that the parts of a pattern match. -/
def pathsFrom (w : World) (start : Location) : List (List Char) → Bool → String → List String
  | [], isFound, before =>
    if isFound && (resolve w.tree start before).toOption.isSome then [before] else []
  | part :: parts, isFound, before =>
    let slash := if parts.isEmpty then "" else "/"
    if hasWild part then
      match resolve w.tree start (if before.isEmpty then "." else before) with
      | .ok there =>
        ((w.namesIn there).filter (matchesName part)).flatMap fun name =>
          pathsFrom w start parts true (before ++ name ++ slash)
      | .error _ => []
    else pathsFrom w start parts isFound (before ++ String.ofList (unguarded part) ++ slash)

/-- The files that a field names, or the field itself. -/
def filesOf (s : Shell) (cells : List Cell) : List String :=
  let itself := String.ofList (textOfCells cells)
  let pattern := patternOfCells cells
  if s.has 'f' || !hasWild pattern then [itself]
  else match pathsFrom s.world s.directory (patternParts pattern) false "" with
    | [] => [itself]
    | paths => Text.sorted paths

end NestedShell.Host.Script

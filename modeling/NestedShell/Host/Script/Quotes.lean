import NestedShell.Host.Script.Source

/-! Reading words: quotes, escapes and substitutions. -/
namespace NestedShell.Host.Script

inductive Quoting where
  | plain
  | single
  | double
  | sum
  deriving DecidableEq

/-- What holds at one level of a word: a level is opened where the rules of quoting change. -/
structure Level where
  quoting : Quoting
  /-- Double quotes are open within a parameter's braces. -/
  inQuotes : Bool := false
  /-- The level ends with its last brace. -/
  isPushed : Bool := false
  isDouble : Bool := false
  braces : Nat := 0
  doubleBraces : Nat := 0
  parentheses : Nat := 0

/-- What is open around the parts now read. -/
inductive Opened where
  | parameter (name : String) (op : Operator) (skipsEmpty : Bool)
  | sum

/-- A word that is being read: its last part first, and what it is a part of. -/
structure WordState where
  parts : Word := []
  outer : List (Opened × Word) := []
  level : Level
  levels : List Level := []
  isQuoted : Bool := false
  /-- The text is that of a document, not a word of a command. -/
  inDocument : Bool := false

namespace WordState

def add (part : Part) (w : WordState) : WordState := { w with parts := part :: w.parts }

def addChar (c : Char) (w : WordState) : WordState := w.add (.char c false)

def addEscaped (c : Char) (w : WordState) : WordState := w.add (.char c true)

/-- Documents have no quotes to be marked. -/
def addMark (w : WordState) : WordState := if w.inDocument then w else w.add .mark

def opening (o : Opened) (w : WordState) : WordState :=
  { w with parts := [], outer := (o, w.parts) :: w.outer }

/-- The innermost substitution ends. -/
def close (w : WordState) : WordState :=
  match w.outer with
  | [] => w
  | (.parameter name op skipsEmpty, before) :: outer =>
    { w with parts := .parameter name op skipsEmpty w.parts.reverse :: before, outer }
  | (.sum, before) :: outer => { w with parts := .sum w.parts.reverse :: before, outer }

def pushLevel (level : Level) (w : WordState) : WordState :=
  { w with level, levels := w.level :: w.levels }

def popLevel (w : WordState) : WordState :=
  match w.levels with
  | [] => w
  | level :: levels => { w with level, levels }

end WordState

/-- Characters that a pattern, a tilde or an assignment may give a meaning. -/
def markedChars : List Char := ['!', '*', '?', '[', '=', '~', ':', '/', '-', ']']

/-- Characters that end a word outside quotes and braces. -/
def isBoundary (c : Char) : Bool := ['<', '>', '(', ')', ';', '&', '|', ' ', '\t'].contains c

/-- A run of characters from `c` on, and the one behind it; `run` is what comes before, the last
character first. -/
def readRun (keep : Char → Bool) : Nat → List Char → Option Char → Reading (List Char × Option Char)
  | 0, run, c => return (run.reverse, c)
  | limit + 1, run, c =>
    match c with
    | some x => do
      if keep x then readRun keep limit (x :: run) (← getJoined) else return (run.reverse, c)
    | none => return (run.reverse, c)

/-- What is known of a parameter before the operator behind its name is read: its name and the
character behind it, and whether it is asked for its length, or cannot be what it seems. -/
structure Head where
  name : List Char
  behind : Option Char
  isLength : Bool := false
  isBad : Bool := false

def mostNameLength : Nat := 100000

/-- Reads the name of a parameter from `c` on; without braces a number has one digit. -/
def readName (isBraced isLength : Bool) (c : Option Char) : Reading Head := do
  if c.any isNameStart then
    let (name, behind) ← readRun isNamePart mostNameLength [] c
    return { name, behind, isLength }
  let (name, behind) ← readRun Char.isDigit (if isBraced then mostNameLength else 1) [] c
  return { name, behind, isLength }

/-- Reads the head of a parameter. A `#` in front of a name asks for a length, unless it is a name
itself. -/
def readHead (isBraced : Bool) (c : Option Char) : Reading Head := do
  if c.any (fun x => isNameStart x || x.isDigit) then readName isBraced false c
  else if c = some '\x7d' then return { name := [], behind := c, isBad := true }
  else
    let d ← getJoined
    if !isBraced || c ≠ some '#' then
      return { name := c.toList, behind := d, isBad := !c.any isSpecialName }
    else if d.any isNamePart then readName true true d
    else
      let e ← getJoined
      if d = some '\x7d' || e ≠ some '\x7d' then
        ungetChar e
        return { name := ['#'], behind := d }
      else return { name := d.toList, behind := e, isLength := true, isBad := !d.any isSpecialName }

/-- Reads the operator behind a name: the operator, and whether an empty value counts as none. -/
def readOperator (c : Option Char) : Reading (Operator × Bool) := do
  let trim (x : Char) (isEnd : Bool) : Reading (Operator × Bool) := do
    let d ← getJoined
    if d = some x then return (.trim isEnd true, false)
    ungetChar d
    return (.trim isEnd false, false)
  if c = some '%' then trim '%' true
  else if c = some '#' then trim '#' false
  else
    let skipsEmpty := c = some ':'
    let c ← if skipsEmpty then getJoined else pure c
    return (match c with
      | some '\x7d' => .value
      | some '-' => .orWord
      | some '+' => .andWord
      | some '?' => .orFail
      | some '=' => .orAssign
      | _ => .bad, skipsEmpty)

/-- Reads a parameter in braces up to its word, and opens the level that its word is read in. -/
def readBraces (w : WordState) : Reading WordState := do
  let head ← readHead true (← getJoined)
  let (op, skipsEmpty) ←
    if head.isBad || head.isLength then do
      ungetChar head.behind
      let isLength := head.isLength && !head.isBad && head.behind = some '\x7d'
      pure (if isLength then Operator.length else .bad, false)
    else readOperator head.behind
  let name := String.ofList head.name
  if op = .value && !skipsEmpty then return w.add (.parameter name op skipsEmpty [])
  let isTrim := match op with
    | .trim _ _ => true
    | _ => false
  let quoting := if isTrim then Quoting.plain
    else if w.level.quoting = .sum then .double else w.level.quoting
  let w := w.opening (.parameter name op skipsEmpty)
  let w := if quoting ≠ w.level.quoting || w.level.inQuotes then
      w.pushLevel { quoting, isPushed := true, isDouble := quoting ≠ .plain }
    else w
  let level := { w.level with braces := w.level.braces + 1 }
  return { w with level := if level.isDouble then
    { level with doubleBraces := level.doubleBraces + 1 } else level }

/-- How the commands of a substitution are read: up to a closing parenthesis, or all there are. -/
structure Nested where
  toParenthesis : Reading Command
  toEnd : Reading Command

/-- Reads the commands of a substitution. Documents that they name and that are still to come are
empty. -/
def readOutput (read : Reading Command) (w : WordState) : Reading WordState := do
  let awaited := (← get).awaited
  modify fun s => { s with awaited := [] }
  let body ← read
  modify fun s =>
    { s with awaited, isAgain := false,
             documents := s.awaited.map (fun a => (a.index, [])) ++ s.documents }
  return w.add (.output body)

/-- The text between backquotes. A backslash guards a backquote, a `$` and itself, and a double
quote where these quote already. -/
def readBackquoted (isDouble : Bool) : Nat → List Char → Reading (List Char)
  | 0, _ => failReading "EOF in backquote substitution"
  | limit + 1, text => do
    match ← getJoined with
    | none => failReading "EOF in backquote substitution"
    | some '\x60' => return text.reverse
    | some '\\' =>
      match ← getChar with
      | none => failReading "EOF in backquote substitution"
      | some c =>
        let isGuarded := ['\\', '\x60', '$'].contains c || (isDouble && c = '"')
        readBackquoted isDouble limit (if isGuarded then c :: text else c :: '\\' :: text)
    | some c =>
      if c = '\n' then nextLine
      readBackquoted isDouble limit (c :: text)

/-- Reads a text of its own within what is being read. -/
def readWithin (text : List Char) (read : Reading Command) (w : WordState) :
    Reading WordState := do
  let s ← get
  set { s with layers := [{ text }], line := 1, spent := [] }
  let w ← readOutput read w
  modify fun s' => { s' with layers := s.layers, line := s.line, spent := s.spent }
  return w

/-- Reads what a `$` begins. -/
def readDollar (nested : Nested) (w : WordState) : Reading WordState := do
  let c ← getJoined
  if (← get).lookout.endMark || !c.any (fun x => x = '(' || x = '\x7b' || isNameStart x ||
      isSpecialName x) then
    ungetChar c
    return w.addChar '$'
  else if c = some '\x7b' then readBraces w
  else if c = some '(' then
    let d ← getJoined
    if d = some '(' then
      return (w.opening .sum).pushLevel { quoting := .sum, isDouble := true }
    ungetChar d
    readOutput nested.toParenthesis w
  else
    let head ← readHead false c
    ungetChar head.behind
    return w.add (.parameter (String.ofList head.name) .value false [])

/-- Reads what a backslash does to the character behind it. -/
def readEscape (w : WordState) : Reading WordState := do
  match ← getChar with
  | none => return w.addEscaped '\\'
  | some c =>
    let level := w.level
    let isLiteral := level.isDouble && !(['\\', '\x60', '$'].contains c) &&
      (c ≠ '"' || (w.inDocument && level.braces = 0)) && (c ≠ '\x7d' || level.braces = 0)
    let w := if isLiteral then w.addEscaped '\\' else w
    return { w.addEscaped c with isQuoted := true }

/-- A double quote begins or ends within braces. -/
def WordState.toggle (w : WordState) : WordState :=
  (if w.level.braces ≠ 0 then { w with level := { w.level with inQuotes := !w.level.inQuotes } }
    else w).addMark

/-- A quote ends. -/
def WordState.endQuote (c : Char) (w : WordState) : WordState :=
  if w.inDocument && w.level.braces = 0 then w.addChar c
  else
    let level := if w.level.doubleBraces = 0 then
      { w.level with quoting := .plain, isDouble := false } else w.level
    let w := { w with level, isQuoted := true }
    if c = '"' then w.toggle else w.addMark

/-- A brace ends what braces have opened, if any. -/
def WordState.endBrace (w : WordState) : WordState :=
  let level := w.level
  if level.inQuotes || level.braces = 0 then w.addChar '\x7d'
  else
    let level := { level with braces := level.braces - 1 }
    let w := { w with level }
    (if level.braces = 0 && level.isPushed then w.popLevel
      else if 0 < level.doubleBraces then
        { w with level := { level with doubleBraces := level.doubleBraces - 1 } }
      else w).close

/-- A parenthesis within a sum; two that nothing has opened end it. -/
def readParenthesis (w : WordState) : Reading WordState := do
  let level := w.level
  if level.parentheses ≠ 0 then
    return { w.addChar ')' with level := { level with parentheses := level.parentheses - 1 } }
  let d ← getJoined
  if d = some ')' then return w.close.popLevel
  ungetChar d
  return w.addChar ')'

/-- Reads what a character within a word stands for; nothing is left to say of it when it ends the
word. -/
def readPart (nested : Nested) (c : Char) (w : WordState) :
    Reading (Option WordState) := do
  let level := w.level
  let isPlain := level.quoting = .plain
  if level.quoting = .single then
    return some (if c = '\'' then w.endQuote c
      else if w.inDocument && level.braces = 0 then w.addChar c
      else if markedChars.contains c || c = '\\' then w.addEscaped c else w.addChar c)
  else if c = '\\' then some <$> readEscape w
  else if c = '$' then some <$> readDollar nested w
  else if c = '\x60' then
    if (← get).lookout.endMark then return some (w.addChar c)
    let text ← readBackquoted level.isDouble mostNameLength []
    some <$> readWithin text nested.toEnd w
  else if c = '\x7d' then return some w.endBrace
  else if level.quoting = .double then
    return some (if c = '"' then w.endQuote c
      else if markedChars.contains c then w.addEscaped c else w.addChar c)
  else if level.quoting = .sum then
    if c = '(' then
      return some { w.addChar c with level := { level with parentheses := level.parentheses + 1 } }
    else if c = ')' then some <$> readParenthesis w
    else return some (w.addChar c)
  else if c = '\'' then
    return some { w with level := { level with quoting := .single } }.addMark
  else if c = '"' then
    return some { w with level := { level with quoting := .double, isDouble := true } }.toggle
  else if isPlain && isBoundary c && level.braces = 0 then return none
  else return some (w.addChar c)

/-- Reads the rest of a line that is a document's last one, up to `mark`: whether it is that line,
or the first character of the line, the others being put back. -/
def readEndMark (mark : Awaited) (c : Option Char) : Reading (Bool × Option Char) := do
  let c ← if mark.stripsTabs then skipTabs mostNameLength c else pure c
  let (read, c') ← matchMark mark.endMark c []
  match read, c' with
  | some _, none => return (true, none)
  | some _, some '\n' =>
    nextLine
    return (true, none)
  | some (first :: rest), _ => giveBack (rest ++ c'.toList) first
  | some [], _ => return (false, c')
  | none, _ => return (false, c')
where
  skipTabs : Nat → Option Char → Reading (Option Char)
    | 0, c => return c
    | limit + 1, c => do
      if c = some '\t' then skipTabs limit (← getChar) else return c
  /-- The characters that agree with the mark, if all of it does, and the one behind them. -/
  matchMark : List Char → Option Char → List Char → Reading (Option (List Char) × Option Char)
    | [], c, read => return (some read.reverse, c)
    | x :: more, c, read => do
      if c = some x then matchMark more (← getChar) (x :: read)
      else
        match read.reverse with
        | [] => return (none, c)
        | first :: rest =>
          ungetChar c
          modify fun s => rest.reverse.foldl (fun s x => s.unget (some x)) s
          return (none, some first)
  giveBack (rest : List Char) (first : Char) : Reading (Bool × Option Char) := do
    modify fun s => rest.reverse.foldl (fun s x => s.unget (some x)) s
    return (false, some first)

/-- Reads a word, or a document up to its mark, from `c` on. The number bounds its length. -/
def readParts (nested : Nested) (mark : Option Awaited) :
    Nat → Bool → Option Char → WordState → Reading (WordState × Option Char)
  | 0, _, _, _ => failReading "word too long"
  | limit + 1, isLineStart, c, w => do
    let (isEnd, c) ← match mark with
      | some m => if isLineStart then readEndMark m c else pure (false, c)
      | none => pure (false, c)
    let next (w : WordState) : Reading (Option Char) :=
      if w.level.quoting = .single then getChar else getJoined
    match (if isEnd then none else c) with
    | none => return (w, none)
    | some '\n' =>
      if w.level.quoting = .plain && w.level.braces = 0 then return (w, c)
      nextLine
      readParts nested mark limit true (← next w) (w.addChar '\n')
    | some x =>
      match ← readPart nested x w with
      | none => return (w, c)
      | some w => readParts nested mark limit false (← next w) w

/-- A word must not end while something is open. -/
def checkClosed (w : WordState) : Reading Unit := do
  if w.level.quoting = .sum then failReading "Missing '))'"
  if w.level.quoting ≠ .plain && !w.inDocument then failReading "Unterminated quoted string"
  if w.level.braces ≠ 0 then failReading "Missing '\x7d'"

/-- No text is longer than this. -/
def mostTextLength : Nat := 1 <<< 40

/-- Reads the documents that the last line has named. -/
def readDocuments (nested : Nested) : Reading Unit := do
  let awaited := (← get).awaited
  modify fun s => { s with awaited := [] }
  awaited.forM fun a => do
    let quoting := if a.isLiteral then Quoting.single else .double
    let level : Level := { quoting, isDouble := !a.isLiteral }
    let c ← if a.isLiteral then getChar else getJoined
    let (w, _) ← readParts nested (some a) mostTextLength true c { level, inDocument := true }
    checkClosed w
    modify fun s => { s with documents := (a.index, w.parts.reverse) :: s.documents }

end NestedShell.Host.Script

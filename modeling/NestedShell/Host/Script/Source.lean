import NestedShell.Host.Script.Syntax

/-! The characters of a script, with aliases put in their places, and its lines. -/
namespace NestedShell.Host.Script

/-- A text to be read before what lies beneath it. The text of an alias may ask for the next word
to be an alias too, by a blank at its end. -/
structure Layer where
  text : List Char
  name : Option String := none
  asksNext : Bool := false

/-- What kinds of words are looked for. -/
structure Lookout where
  skipsLines : Bool := false
  keywords : Bool := false
  aliases : Bool := false
  endMark : Bool := false

inductive Token where
  | ending
  | line
  | semicolon
  | ampersand
  | both
  | either
  | bar
  | opening
  | closing
  | caseEnd
  | redirect
  | word
  | keyword (text : String)
  deriving DecidableEq

namespace Token

def keywords : List String :=
  ["!", "case", "do", "done", "elif", "else", "esac", "fi", "for", "if", "in", "then", "until",
   "while", "\x7b", "\x7d"]

/-- How a message names a token. -/
def describe : Token → String
  | ending => "end of file"
  | line => "newline"
  | semicolon => "\";\""
  | ampersand => "\"&\""
  | both => "\"&&\""
  | either => "\"||\""
  | bar => "\"|\""
  | opening => "\"(\""
  | closing => "\")\""
  | caseEnd => "\";;\""
  | redirect => "redirection"
  | word => "word"
  | keyword text => "\"" ++ text ++ "\""

/-- Tokens that end a list of commands. -/
def endsList : Token → Bool
  | ending | closing | caseEnd => true
  | keyword text => ["do", "done", "elif", "else", "esac", "fi", "then", "\x7d"].contains text
  | _ => false

end Token

/-- What a script cannot be read for, and in which line. -/
structure SyntaxError where
  line : Nat
  message : String

/-- A document to be read after the line that names it. -/
structure Awaited where
  index : Nat
  endMark : List Char
  stripsTabs : Bool
  isLiteral : Bool

/-- A script that is being read. -/
structure Source where
  layers : List Layer
  /-- Aliases whose text has just been used up. -/
  spent : List String := []
  line : Nat := 1
  aliases : List (String × String) := []
  lookout : Lookout := {}
  /-- The last token, and whether it is to be read again. -/
  token : Token := .ending
  isAgain : Bool := false
  /-- The last word, and whether any of it was quoted. -/
  word : Word := []
  isQuoted : Bool := false
  redirect : Redirect := .document 0 0
  awaited : List Awaited := []
  documents : List (Nat × Word) := []
  nextDocument : Nat := 0

abbrev Reading := StateT Source (Except SyntaxError)

def Source.ofText (text : List Char) : Source := { layers := [{ text }] }

namespace Source

/-- The next character; layers that are used up are taken away. -/
def getFrom (s : Source) : List Layer → Option Char × Source
  | [] => (none, { s with layers := [] })
  | [layer] =>
    match layer.text with
    | [] => (none, { s with layers := [layer] })
    | c :: rest => (some c, { s with layers := [{ layer with text := rest }] })
  | layer :: beneath =>
    match layer.text with
    | c :: rest => (some c, { s with layers := { layer with text := rest } :: beneath })
    | [] =>
      let lookout := if layer.asksNext then { s.lookout with aliases := true } else s.lookout
      getFrom { s with spent := s.spent ++ layer.name.toList, lookout } beneath

/-- Puts a character back, so that it is read next. -/
def unget (c : Option Char) (s : Source) : Source :=
  match c, s.layers with
  | some c, layer :: beneath =>
    { s with layers := { layer with text := c :: layer.text } :: beneath }
  | _, _ => s

/-- Puts a text in front of all that is still to be read. -/
def push (layer : Layer) (s : Source) : Source := { s with layers := layer :: s.layers }

/-- The text of an alias, unless the alias is being replaced already. -/
def replacement? (name : String) (s : Source) : Option String :=
  if s.spent.contains name || s.layers.any (·.name = some name) then none
  else s.aliases.lookup name

end Source

def getChar : Reading (Option Char) :=
  modifyGet fun s => { s with spent := [] }.getFrom s.layers

def ungetChar (c : Option Char) : Reading Unit := modify (·.unget c)

def nextLine : Reading Unit := modify fun s => { s with line := s.line + 1 }

/-- Goes on behind a backslash: a line feed is passed over with what continues the line. The number
bounds how many lines are joined. -/
def joinWithin : Nat → Reading (Option Char)
  | 0 => return some '\\'
  | limit + 1 => do
    let d ← getChar
    if d ≠ some '\n' then
      ungetChar d
      return some '\\'
    nextLine
    let c ← getChar
    if c = some '\\' then joinWithin limit else return c

/-- The next character, lines that a backslash continues being joined. -/
def getJoined : Reading (Option Char) := do
  let c ← getChar
  if c ≠ some '\\' then return c
  joinWithin ((← get).layers.foldl (fun n layer => n + layer.text.length) 0)

def failReading {α : Type} (message : String) : Reading α := do
  throw ⟨(← get).line, "Syntax error: " ++ message⟩

/-- The last token does not fit, whatever may be expected. -/
def unexpected {α : Type} (expected : Option Token) : Reading α := do
  let found := (← get).token.describe ++ " unexpected"
  failReading (match expected with
    | some token => found ++ " (expecting " ++ token.describe ++ ")"
    | none => found)

def readAgain : Reading Unit := modify fun s => { s with isAgain := true }

def lookFor (lookout : Lookout) : Reading Unit := modify fun s => { s with lookout }

end NestedShell.Host.Script

import NestedShell.Machine
import NestedShell.Variables

/-! The rules by which a command line is read: words, quotes, escapes and variable references. -/
namespace NestedShell.Lexer

inductive ExpansionFault where
  | badSubstitution
  | source (e : VariableError)
  deriving DecidableEq

def ExpansionFault.message : ExpansionFault → String
  | badSubstitution => "bad substitution"
  | source e => e.message

inductive LexError where
  | unmatched (symbol : Char) (stack : List Char)
  | expansion (name : String) (fault : ExpansionFault)
  | unterminated
  deriving DecidableEq

def LexError.message : LexError → String
  | unmatched symbol _ => "syntax error near " ++ Text.quotedChar symbol
  | expansion name fault => "$\x7b" ++ name ++ "\x7d: " ++ fault.message
  | unterminated => "unexpected end of input"

def LexError.ofUnmatched {S : Type} (miss : Unmatched S) : LexError :=
  unmatched miss.symbol miss.stack

inductive Event where
  | statement (words : List String)
  | error (e : LexError)
  deriving DecidableEq

/-- Where in a command line the lexer stands. -/
inductive Mode where
  | bare
  | escape
  | singleQuote
  | doubleQuote
  | quoteInDouble
  | escapeInDouble
  | varStart
  | varName
  | varBraced
  | varStartInDouble
  | varNameInDouble
  | varBracedInDouble
  deriving DecidableEq

/-- The modes are numbered in order. -/
def Mode.number (m : Mode) : Nat := m.ctorIdx

/-- What has been read of a statement: the word and the variable name begun, the words ended, and
the events not yet taken, the last ones first. -/
structure Draft where
  word : String := ""
  name : String := ""
  words : List String := []
  events : List Event := []
  deriving DecidableEq

namespace Draft

def add (text : String) (d : Draft) : Draft := { d with word := d.word ++ text }

def queue (e : Event) (d : Draft) : Draft := { d with events := e :: d.events }

/-- Ends the word, even an empty one. -/
def endWord (d : Draft) : Draft := { d with words := d.word :: d.words, word := "" }

/-- Ends the word if it holds anything. -/
def breakWord (d : Draft) : Draft := if d.word.isEmpty then d else d.endWord

/-- Ends the word and, if there are words, the statement. -/
def endStatement (d : Draft) : Draft :=
  let d := d.breakWord
  if d.words.isEmpty then d else { d.queue (.statement d.words.reverse) with words := [] }

/-- Adds the value of a variable, nothing when it is not set. -/
def substitute (vars : Lookup) (name : String) (d : Draft) : Draft :=
  match vars name with
  | .ok value => d.add (value.getD "")
  | .error e => d.queue (.error (.expansion name (.source e)))

/-- Forgets the statement; the events stay. -/
def clear (d : Draft) : Draft := { events := d.events }

end Draft

/-- A draft and the variables its references stand for. -/
structure Scan where
  vars : Lookup
  draft : Draft

abbrev Reading := Config Mode.bare Scan

def onDraft (f : Char → Draft → Draft) : Action Mode.bare Scan := fun c =>
  Config.update (fun scan => { scan with draft := f c scan.draft })

def addChar : Action Mode.bare Scan := onDraft (fun c d => d.add (String.singleton c))

def breakWord : Action Mode.bare Scan := onDraft (fun _ d => d.breakWord)

def endStatement : Action Mode.bare Scan := onDraft (fun _ d => d.endStatement)

/-- A closing quote ends the word even when it is empty. -/
def closeQuote : Action Mode.bare Scan := onDraft (fun _ d => d.endWord)

/-- The character an escaped one stands for. -/
def unescape : Char → Char
  | 'r' => '\r'
  | 'n' => '\n'
  | 't' => '\t'
  | 'b' => '\x08'
  | c => c

def addEscaped : Action Mode.bare Scan := onDraft (fun c d => d.add (String.singleton (unescape c)))

def startName : Action Mode.bare Scan := onDraft (fun _ d => { d with name := "" })

def nameChar : Action Mode.bare Scan := onDraft (fun c d => { d with name := d.name.push c })

/-- A name ends before `c`, which is read again as part of the text around; a `$` without a name
stands for itself. -/
def endName : Action Mode.bare Scan := fun c g =>
  let finish (scan : Scan) : Scan :=
    let d := { scan.draft with name := "" }
    let name := scan.draft.name
    { scan with draft := if name.isEmpty then d.add "$" else d.substitute scan.vars name }
  (g.update finish).push c

def endBraced : Action Mode.bare Scan := fun _ =>
  Config.update fun scan =>
    let d := { scan.draft with name := "" }
    let name := scan.draft.name
    { scan with draft :=
        if isValidName name then d.substitute scan.vars name
        else d.queue (.error (.expansion name .badSubstitution)) }

/-- References in either kind of text; `home` is the mode of the text around. -/
def references (start name braced home : Mode) (t : Table Mode.bare Scan) : Table Mode.bare Scan :=
  t.jump (.char '\x7b') start braced
  |>.onEach nameChars start nameChar name
  |>.on .any start endName home
  |>.onEach nameChars name nameChar name
  |>.on .any name endName home
  |>.insert .any braced ⟨some nameChar, none⟩
  |>.on (.char '\x7d') braced endBraced home

def bareRules (t : Table Mode.bare Scan) : Table Mode.bare Scan :=
  t.on .any .bare addChar .bare
  |>.onEach [' ', '\t'] .bare breakWord .bare
  |>.onEach [';', '\n'] .bare endStatement .bare
  |>.jump (.char '\\') .bare .escape
  |>.jump (.char '\'') .bare .singleQuote
  |>.jump (.char '"') .bare .doubleQuote
  |>.on (.char '$') .bare startName .varStart
  |>.on .any .escape addEscaped .bare

def quoteRules (t : Table Mode.bare Scan) : Table Mode.bare Scan :=
  t.on .any .singleQuote addChar .singleQuote
  |>.on (.char '\'') .singleQuote closeQuote .bare
  |>.on .any .doubleQuote addChar .doubleQuote
  |>.on (.char '"') .doubleQuote closeQuote .bare
  |>.on (.char '\'') .doubleQuote addChar .quoteInDouble
  |>.jump (.char '\\') .doubleQuote .escapeInDouble
  |>.on (.char '$') .doubleQuote startName .varStartInDouble
  |>.on .any .quoteInDouble addChar .quoteInDouble
  |>.on (.char '\'') .quoteInDouble addChar .doubleQuote
  |>.on .any .escapeInDouble addEscaped .doubleQuote

/-- The rules of every mode. Each mode has a rule for any character, so none is refused. -/
def grammar : Table Mode.bare Scan :=
  ({} : Table Mode.bare Scan)
  |> bareRules
  |> quoteRules
  |> references .varStart .varName .varBraced .bare
  |> references .varStartInDouble .varNameInDouble .varBracedInDouble .doubleQuote

end NestedShell.Lexer

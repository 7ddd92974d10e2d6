import NestedShell.Lexer.Grammar

/-! Reading command lines, in pieces of any size, into statements of words. -/
namespace NestedShell

/-- A lexer between two characters; a statement may go on in the next piece. -/
structure Lexer where
  cursor : Cursor Lexer.Mode.bare := {}
  draft : Lexer.Draft := {}
  deriving DecidableEq

namespace Lexer

def mode (l : Lexer) : Mode := l.cursor.state

/-- Steps through one character and what it pushes back. Only the end of a name pushes anything
back, one character, into a mode that pushes nothing back, so one turn suffices. -/
def read (c : Char) (g : Reading) : Option (Unmatched Mode) × Reading :=
  match grammar.step c g with
  | (none, g) => (grammar.drain 1 g).2
  | miss => miss

/-- Reads one character; the events it brings about are queued. -/
def feedChar (vars : Lookup) (c : Char) (l : Lexer) : Lexer :=
  match read c ⟨l.cursor, ⟨vars, l.draft⟩⟩ with
  | (none, g) => ⟨g.cursor, g.memory.draft⟩
  | (some miss, g) => ⟨g.cursor, g.memory.draft.clear.queue (.error (.ofUnmatched miss))⟩

def feedChars (vars : Lookup) (cs : List Char) (l : Lexer) : Lexer :=
  cs.foldl (fun l c => l.feedChar vars c) l

@[simp] theorem feedChars_nil (vars : Lookup) (l : Lexer) : l.feedChars vars [] = l := rfl

@[simp] theorem feedChars_cons (vars : Lookup) (c : Char) (cs : List Char) (l : Lexer) :
    l.feedChars vars (c :: cs) = (l.feedChar vars c).feedChars vars cs := rfl

@[simp] theorem feedChars_append (vars : Lookup) (cs ds : List Char) (l : Lexer) :
    l.feedChars vars (cs ++ ds) = (l.feedChars vars cs).feedChars vars ds :=
  List.foldl_append

/-- The oldest event not yet taken. -/
def nextEvent (l : Lexer) : Option Event × Lexer :=
  match l.draft.events.reverse with
  | [] => (none, l)
  | e :: rest => (some e, { l with draft := { l.draft with events := rest.reverse } })

/-- All events not yet taken, in the order in which they came about. -/
def takeEvents (l : Lexer) : List Event × Lexer :=
  (l.draft.events.reverse, { l with draft := { l.draft with events := [] } })

/-- Reads a text and takes all events, older ones included. -/
def feed (vars : Lookup) (text : String) (l : Lexer) : List Event × Lexer :=
  (l.feedChars vars text.toList).takeEvents

/-- No quote, escape or reference is open, and no word waits for its statement to end. -/
def isComplete (l : Lexer) : Bool :=
  l.cursor.isHome && l.draft.word.isEmpty && l.draft.words.isEmpty

/-- Forgets the statement begun and all events. -/
def reset (_ : Lexer) : Lexer := {}

/-- The statements, or the first error. -/
def statements : List Event → Except LexError (List (List String))
  | [] => .ok []
  | .error e :: _ => .error e
  | .statement words :: rest => (statements rest).map (words :: ·)

/-- Reads a text that stands for itself, with a final line feed implied. It fails at the first
error, or when the text ends inside a quote, an escape or a braced name. -/
def split (vars : Lookup) (text : String) (l : Lexer) :
    Except LexError (List (List String)) × Lexer :=
  let (events, l) := l.reset.feed vars (text.push '\n')
  if l.isComplete then (statements events, l) else (.error .unterminated, l.reset)

end Lexer

end NestedShell

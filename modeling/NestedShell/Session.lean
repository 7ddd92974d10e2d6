import NestedShell.Context
import NestedShell.Lexer
import NestedShell.Prompt

/-! Sessions: contexts stacked on one another, and the statements run in the innermost one. -/
namespace NestedShell

/-- Descriptions of contexts, with the contexts they describe. -/
class Blueprint (κ : Type) where
  build : κ → Context κ

/-- Why a session stops reading: the last context was left, a command asked to leave them all, or
the statement was interrupted. -/
inductive Halt where
  | quit
  | exit
  | interrupted
  deriving DecidableEq

/-- Whether what was read so far ends where a statement ends. -/
inductive Progress where
  | complete
  | incomplete
  deriving DecidableEq

/-- A session; the innermost context comes first. -/
structure Session (κ : Type) where
  vars : Variables := {}
  screen : Transcript := {}
  lexer : Lexer := {}
  contexts : List (Context κ) := []
  place : Place := {}
  /-- Prompts are part of the output. -/
  showsPrompts : Bool := false

namespace Session
variable {κ : Type}

def depth (s : Session κ) : Nat := s.contexts.length

def innermost? (s : Session κ) : Option (Context κ) := s.contexts.head?

def print (text : String) (s : Session κ) : Session κ := { s with screen := s.screen.print text }

def error (text : String) (s : Session κ) : Session κ := { s with screen := s.screen.error text }

def resetLexer (s : Session κ) : Session κ := { s with lexer := s.lexer.reset }

/-- The nesting level that the variables tell, if it is an integer. -/
def level? (vars : Variables) : Option Int64 :=
  (vars.get? Variables.level).bind fun text => Text.int64? text.toList

def tell (level : Int64) (vars : Variables) : Variables :=
  vars.set Variables.level (Text.decimal level.toInt)

/-- The variables with the level for one context more. The greatest level wraps around. -/
def raised (vars : Variables) : Variables :=
  let vars := vars.setDefault Variables.level "0"
  tell ((level? vars).getD 0 + 1) vars

/-- The variables with the level for one context less, which is not below zero; but the least level
wraps around before it is compared with zero. -/
def lowered (vars : Variables) : Variables := tell (max ((level? vars).getD 1 - 1) 0) vars

/-- Opens a context above the others. -/
def push (ctx : Context κ) (s : Session κ) : Session κ :=
  { s with vars := raised s.vars, contexts := ctx.seedCompletion :: s.contexts }

/-- Leaves the innermost context and hands the value to the one below. -/
def pop (value : Option Value) (s : Session κ) : Session κ × Except Halt Unit :=
  match s.contexts with
  | [] => (s, .error .quit)
  | [_] => ({ s with vars := lowered s.vars, contexts := [] }, .error .quit)
  | _ :: parent :: below =>
    let (vars, screen) := parent.receive value (lowered s.vars) s.screen
    ({ s with vars, screen, contexts := parent :: below }, .ok ())

variable [Blueprint κ]

/-- Does what the flow of a statement asks for. -/
def follow (flow : Flow κ) (s : Session κ) : Session κ × Except Halt Unit :=
  match flow with
  | .resume _ => (s, .ok ())
  | .quit value => s.pop value
  | .enter child => (s.push (Blueprint.build child), .ok ())
  | .exit => (s, .error .exit)
  | .interrupted => (s, .error .interrupted)

/-- Runs one statement in the innermost context. -/
def dispatch (words : List String) (s : Session κ) : Session κ × Except Halt Unit :=
  match s.contexts with
  | [] => (s, .error .quit)
  | ctx :: below =>
    let o := ctx.call words s.vars s.screen
    follow o.flow { s with vars := o.vars, screen := o.screen, contexts := o.context :: below }

def reportLexError (e : Lexer.LexError) (s : Session κ) : Session κ :=
  match e with
  | .unmatched symbol stack =>
    s.error ("Syntax error: " ++ Text.quotedChar symbol ++ "\n" ++ Text.quotedList stack)
  | .expansion name fault =>
    s.error ("Could not expand variable " ++ Text.quoted name ++ ": " ++ fault.message)
  | .unterminated => s.error e.message

/-- Runs statements and reports errors in order, up to a halt; a halt drops what is being read. -/
def handle : List Lexer.Event → Session κ → Session κ × Except Halt Unit
  | [], s => (s, .ok ())
  | .error e :: rest, s => handle rest (s.reportLexError e)
  | .statement words :: rest, s =>
    match s.dispatch words with
    | (s, .ok ()) => handle rest s
    | (s, .error halt) => (s.resetLexer, .error halt)

/-- Reads one character and runs what it completes, before any other character is read. -/
def feedChar (c : Char) (s : Session κ) : Session κ × Except Halt Unit :=
  let (events, lexer) := (s.lexer.feedChar s.vars.lookup c).takeEvents
  handle events { s with lexer }

def feedChars : List Char → Session κ → Session κ × Except Halt Unit
  | [], s => (s, .ok ())
  | c :: rest, s =>
    match s.feedChar c with
    | (s, .ok ()) => feedChars rest s
    | halted => halted

/-- A text in two pieces; the second is dropped if the first brings a halt. -/
theorem feedChars_append (cs ds : List Char) (s : Session κ) :
    feedChars (cs ++ ds) s =
      match feedChars cs s with
      | (s, .ok ()) => feedChars ds s
      | halted => halted := by
  induction cs generalizing s with
  | nil => rfl
  | cons c cs ih =>
    simp only [List.cons_append, feedChars]
    split <;> simp_all

def progress (s : Session κ) : Progress := if s.lexer.isComplete then .complete else .incomplete

/-- Reads a text and runs each statement as soon as it ends. After a halt the rest of the text is
dropped. -/
def feed (text : String) (s : Session κ) : Session κ × Except Halt Progress :=
  match s.feedChars text.toList with
  | (s, .ok ()) => (s, .ok s.progress)
  | (s, .error halt) => (s, .error halt)

/-- Reads a text as a whole line. -/
def runLine (text : String) (s : Session κ) : Session κ × Except Halt Progress :=
  s.feed (if text.toList.getLast? = some '\n' then text else text.push '\n')

/-- The prompt for a new statement: the innermost context's own, or else `PS1`. -/
def prompt (s : Session κ) : String :=
  let own := s.innermost?.bind (·.prompt)
  let template := (own.or (s.vars.get? "PS1")).getD "> "
  Prompt.expand s.place s.vars template

/-- The prompt while a statement is open. -/
def continuationPrompt (s : Session κ) : String :=
  Prompt.expand s.place s.vars ((s.vars.get? "PS2").getD "more> ")

end Session

end NestedShell

import NestedShell.Session

/-! Dialogues: sessions that ask for one line after another. -/
namespace NestedShell

/-- What the reader answers to a prompt. A reader that has nothing more to say answers `eof`. -/
inductive Answer where
  | line (text : String)
  | eof
  | interrupted
  | error (message : String)
  deriving DecidableEq

/-- A statement is either new, or open and to be continued. -/
inductive Stage where
  | primary
  | continuation
  deriving DecidableEq

/-- One prompt as it was shown: at which stage, whether the lexer was complete, and the scopes
offered for completion. -/
structure Query where
  stage : Stage
  prompt : String
  isComplete : Bool
  scopes : Scopes

/-- How a dialogue goes on after an answer. -/
inductive Turn where
  | ask (stage : Stage)
  | over (result : Except Failure Unit)

/-- A dialogue that has come to its end. -/
structure Dialogue (κ : Type) where
  session : Session κ
  queries : List Query
  unread : List Answer
  result : Except Failure Unit

namespace Session
variable {κ : Type} [Blueprint κ]

/-- Runs a line of input. An interrupted statement is dropped, and the next one is asked for. -/
def hear (text : String) (s : Session κ) : Session κ × Turn :=
  match s.feed (text.push '\n') with
  | (s, .ok .complete) => (s, .ask .primary)
  | (s, .ok .incomplete) => (s, .ask .continuation)
  | (s, .error .interrupted) => (s.print "", .ask .primary)
  | (s, .error _) => (s, .over (.ok ()))

def readFailure (message : String) : Failure := .ofText ("reading input: " ++ message)

/-- Takes an answer. At the primary prompt an end of input leaves the innermost context; while a
statement is open it drops the statement. -/
def take (stage : Stage) (answer : Answer) (s : Session κ) : Session κ × Turn :=
  match stage, answer with
  | _, .error message => (s, .over (.error (readFailure message)))
  | _, .interrupted => (s.resetLexer, .ask .primary)
  | .continuation, .eof => (s.resetLexer, .ask .primary)
  | .primary, .eof =>
    match (s.print "").pop none with
    | (s, .ok ()) => (s, .ask .primary)
    | (s, .error _) => (s, .over (.ok ()))
  | .primary, .line text => if text.isEmpty then (s, .ask .primary) else s.hear text
  | .continuation, .line text => s.hear text

def promptAt (stage : Stage) (s : Session κ) : String :=
  match stage with
  | .primary => s.prompt
  | .continuation => s.continuationPrompt

def showPrompt (stage : Stage) (s : Session κ) : Session κ :=
  if s.showsPrompts then { s with screen := s.screen.write (s.promptAt stage) } else s

/-- The prompt shown at a stage; the scopes are those offered at the last primary prompt. -/
def query (stage : Stage) (scopes : Scopes) (s : Session κ) : Query where
  stage := stage
  prompt := s.promptAt stage
  isComplete := s.lexer.isComplete
  scopes := scopes

/-- The scopes that a prompt offers: at the primary prompt those of the innermost context. -/
def offered (stage : Stage) (before : Scopes) (s : Session κ) : Scopes :=
  match stage with
  | .primary => (s.innermost?.map (·.completion)).getD before
  | .continuation => before

/-- The dialogue is over once no context is left to ask for. -/
def mustEnd (stage : Stage) (s : Session κ) : Bool := stage = .primary && s.contexts.isEmpty

/-- The end of a dialogue whose reader answers `eof` to everything: as many as are still needed. The
queries come with the last one first. -/
def concludeFrom : Nat → Stage → Scopes → List Query → Session κ → Dialogue κ
  | 0, _, _, queries, s => ⟨s, queries.reverse, [], .ok ()⟩
  | limit + 1, stage, scopes, queries, s =>
    if s.mustEnd stage then ⟨s, queries.reverse, [], .ok ()⟩
    else
      let scopes := s.offered stage scopes
      let queries := s.query stage scopes :: queries
      match (s.showPrompt stage).take stage .eof with
      | (s, .over result) => ⟨s, queries.reverse, [], result⟩
      | (s, .ask stage) => concludeFrom limit stage scopes queries s

/-- One `eof` for each context and one for an open statement end any dialogue. -/
def conclude (stage : Stage) (scopes : Scopes) (queries : List Query) (s : Session κ) :
    Dialogue κ :=
  concludeFrom (s.depth + 1) stage scopes queries s

def converseFrom (stage : Stage) (scopes : Scopes) (queries : List Query) :
    List Answer → Session κ → Dialogue κ
  | [], s => s.conclude stage scopes queries
  | answer :: rest, s =>
    if s.mustEnd stage then ⟨s, queries.reverse, answer :: rest, .ok ()⟩
    else
      let scopes := s.offered stage scopes
      let queries := s.query stage scopes :: queries
      match (s.showPrompt stage).take stage answer with
      | (s, .over result) => ⟨s, queries.reverse, rest, result⟩
      | (s, .ask stage) => converseFrom stage scopes queries rest s

/-- Asks for lines and runs them until the last context is left, a command exits, or the reader
fails. -/
def converse (answers : List Answer) (s : Session κ) : Dialogue κ :=
  converseFrom .primary {} [] answers s

end Session

end NestedShell

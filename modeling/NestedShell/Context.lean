import NestedShell.Command
import NestedShell.Completion

/-! One level of a session: its commands, aliases and completion scopes, and how it runs a
statement. -/
namespace NestedShell
variable {κ : Type}

def unknownCommand : Handler κ := fun _ args ws =>
  (ws.error ("unknown command: " ++ Text.quoted args.name), .ok (.status 2))

/-- How a context reports a failure, by its kind and its message. -/
abbrev FailureHook := String → String → Transcript → Transcript

/-- What a context does with the value that a context above it has quit with. -/
abbrev ReturnHook := Option Value → Variables → Transcript → Variables × Transcript

def reportFailure : FailureHook := fun kind message screen => screen.error (kind ++ ": " ++ message)

structure Context (κ : Type) where
  name : String
  commands : Registry κ := {}
  aliases : Aliases := {}
  completion : Scopes := {}
  prompt : Option String := none
  fallback : Handler κ := unknownCommand
  onFailure : FailureHook := reportFailure
  onReturn : Option ReturnHook := none

/-- What becomes of a statement: nothing runs for a reserved name or for a comment; otherwise the
command of the first word runs, or the fallback. -/
inductive Resolution (κ : Type) where
  | refused
  | comment
  | invoke (words : List String) (command : Option (Command κ))

/-- The command that the first character of a statement is short for. -/
def shorthand? (c : Char) : Option String :=
  if c = '!' then some "pipe" else if c = '%' then some "spawn" else none

/-- Writes out a shorthand; the rest of its word is the first argument unless it is empty. -/
def spellOut : List String → List String
  | [] => []
  | head :: rest =>
    match head.toList with
    | [] => head :: rest
    | c :: word =>
      match shorthand? c with
      | none => head :: rest
      | some target =>
        if word.isEmpty then target :: rest else target :: String.ofList word :: rest

/-- What a call leaves behind. -/
structure Outcome (κ : Type) where
  context : Context κ
  vars : Variables
  screen : Transcript
  flow : Flow κ

/-- Reports an error, with the usage text where it helps, and gives it a status. -/
def report (onFailure : FailureHook) (usage : String) (screen : Transcript) :
    Except CommandError (Flow κ) → Transcript × Flow κ
  | .ok flow => (screen, flow)
  | .error (.usage message) => ((screen.error ("Syntax error: " ++ message)).usage usage, .status 2)
  | .error (.missingArgument _) =>
    ((screen.error "Insufficient number of arguments.").usage usage, .status 2)
  | .error (.options message) => (screen.error ("option error: " ++ message), .status 2)
  | .error (.help text) => (screen.write text, .status 0)
  | .error (.failed f) => (onFailure f.kind f.message screen, .status 1)

/-- Records a value that a command has returned. -/
def record (flow : Flow κ) (vars : Variables) : Variables :=
  match flow with
  | .resume (some v) =>
    (vars.set Variables.lastStatus (Text.decimal v.toStatus.toInt)).set
      Variables.lastResult v.render
  | _ => vars

namespace Context

/-- The first word is looked at before aliases are expanded, its first character after that. -/
def resolve (ctx : Context κ) (words : List String) : Resolution κ :=
  if isReserved (words.headD "") then .refused
  else
    let words := ctx.aliases.expand words
    if (words.headD "").toList.head? = some '#' then .comment
    else
      let words := spellOut words
      .invoke words (ctx.commands.lookup (words.headD ""))

/-- Runs the command, or the fallback, and records what it returns. -/
def invoke (ctx : Context κ) (words : List String) (command : Option (Command κ))
    (vars : Variables) (screen : Transcript) : Outcome κ :=
  let handler := (command.map (·.handler)).getD ctx.fallback
  let usage := (command.map (·.usage)).getD ""
  let (ws, result) := handler ctx.commands.catalog ⟨words⟩ ⟨vars, screen, ctx.aliases⟩
  let (screen, flow) := report ctx.onFailure usage ws.screen result
  ⟨{ ctx with aliases := ws.aliases }, record flow ws.vars, screen, flow⟩

/-- Runs one statement. Errors are reported here; the flow tells the session how to go on. -/
def call (ctx : Context κ) (words : List String) (vars : Variables) (screen : Transcript) :
    Outcome κ :=
  match ctx.resolve words with
  | .refused => ⟨ctx, vars, screen, .status 2⟩
  | .comment => ⟨ctx, vars, screen, .status 0⟩
  | .invoke words command => ctx.invoke words command vars screen

/-- Hands over the value that the context above has quit with. -/
def receive (ctx : Context κ) (value : Option Value) (vars : Variables) (screen : Transcript) :
    Variables × Transcript :=
  match ctx.onReturn with
  | some hook => hook value vars screen
  | none => (vars, screen)

/-- The commands are completed at the head of a line and after `help`. -/
def seedCompletion (ctx : Context κ) : Context κ :=
  { ctx with completion :=
      (ctx.completion.set Scopes.commands ctx.commands.names).set "help" ctx.commands.names }

end Context

end NestedShell

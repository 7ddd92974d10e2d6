import NestedShell.Environment
import NestedShell.Host.Files
import NestedShell.Options
import NestedShell.Session.Dialogue
import NestedShell.Session.Script
import NestedShell.Standard
import NestedShell.Text.Typed

/-! The program: a session started from the words of a command line, on a host that runs the
programs outside it. -/
namespace NestedShell

namespace CommandLine
variable {host : Host}

def programName : String := "command_shell"

def signature : Options.Signature where
  about := "Interactive command interpreter."
  switches :=
    [⟨"--command", some "-c", some "command", "run these statements and exit"⟩,
     ⟨"--prompt", none, some "prompt", "primary prompt template, stored in PS1"⟩,
     ⟨"--no-inherit", none, none, "start with an empty environment"⟩]
  positionals := [⟨"script", .optional, "script to run instead of reading the terminal"⟩]

/-- A nested session that a command opens, by its name. -/
structure Nested (host : Host) where
  name : String

def nestUsage : String :=
  "Usage: nest [name]\n\n" ++
  "Start a nested session with the standard commands. `exit [value]` returns\n" ++
  "to this one and hands it the value."

def nest : Handler (Nested host) := fun _ args ws => (ws, .ok (.enter ⟨args.getD 1 "nested"⟩))

def commands (host : Host) : Registry (Nested host) :=
  (Registry.standard { host with sharesTerminal := true }).install "nest" nestUsage nest

instance : Blueprint (Nested host) where
  build child :=
    { name := child.name, commands := commands host,
      prompt := some ("(" ++ child.name ++ ") [%L]%$ ") }

/-- Shows the value that a nested session has quit with. -/
def showReturn : ReturnHook := fun value vars screen =>
  (vars, match value with
    | some v => screen.print ("nested session returned " ++ v.render)
    | none => screen)

def mainContext (host : Host) : Context (Nested host) :=
  { name := "main", commands := commands host, onReturn := some showReturn }

/-- What the program writes, and its exit code. -/
structure Result where
  out : String
  err : String
  code : UInt8
  deriving DecidableEq

/-- A file that is asked for: it cannot be opened, or it cannot be read, or its bytes. -/
abbrev Reader := String → Except Host.SystemError (Except Host.SystemError (List UInt8))

/-- The failure that ends the program: its headline, and its cause underneath. -/
def failureText (f : Failure) : String :=
  match f.circumstances with
  | [] => "Error: " ++ f.message ++ "\n"
  | headline :: _ => "Error: " ++ headline ++ "\n\nCaused by:\n    " ++ f.cause.message ++ "\n"

def conclude (s : Session (Nested host)) (result : Except Failure Unit) : Result :=
  match result with
  | .ok () => ⟨s.screen.out, s.screen.err, 0⟩
  | .error f => ⟨s.screen.out, s.screen.err ++ failureText f, 1⟩

/-- The end of a program whose reader breaks down and leaves a report. -/
def breakDown (report : String) (s : Session (Nested host)) : Result :=
  ⟨s.screen.out, s.screen.err ++ report, 101⟩

/-- The lines of a file, or the failures met in opening or reading it. -/
def script (read : Reader) (path : String) : Except Failure (List ScriptLine) :=
  match read path with
  | .error e => .error { circumstances := ["opening " ++ path], cause := .io e.message }
  | .ok (.error e) => .ok [.error { cause := .io e.message }]
  | .ok (.ok bytes) => .ok (scriptLines bytes)

/-- Terminals that cannot move back in a line; the name that the environment has for the terminal
may be written in small letters or capital ones. -/
def plainTerminals : List String := ["dumb", "cons25", "emacs"]

/-- The session that the options ask for, with one context open. -/
def start (host : Host) (r : Options.Reading) (environment : List String) (place : Place) :
    Session (Nested host) :=
  let given := Variables.ofEnvironment environment
  let showsPrompts := plainTerminals.contains (given.value "TERM").toLower
  let vars := if r.has "--no-inherit" then {} else given
  let vars := match r.value? "--prompt" with
    | some prompt => vars.set "PS1" prompt
    | none => vars
  ({ vars, place, showsPrompts } : Session (Nested host)).push (mainContext host)

/-- A command line is done with at once, or it starts a dialogue. -/
inductive Plan (host : Host) where
  | finished (r : Result)
  | converse (s : Session (Nested host))

def plan (host : Host) (read : Reader) (words environment : List String) (place : Place) :
    Plan host :=
  match signature.read words with
  | .error .help => .finished ⟨signature.help programName ++ "\n", "", 0⟩
  | .error (.error e) =>
    .finished ⟨"", e.message ++ "\nRun " ++ programName ++ " --help for more information.\n", 1⟩
  | .ok r =>
    let s := start host r environment place
    match r.value? "--command", r.positionals with
    | some text, _ => .finished (conclude (s.runLine text).1 (.ok ()))
    | none, path :: _ =>
      match script read path with
      | .error f => .finished (conclude s (.error f))
      | .ok lines =>
        let (s, result) := s.runScript lines
        .finished (conclude s result)
    | none, [] => .converse s

/-- The answer that a line of input is; there is none where the reader breaks down. -/
def answer? (line : String) : Option Answer :=
  (Text.Typed.line? line.toList).map fun cs => .line (String.ofList cs)

/-- What a reader whose input is not a terminal makes of its lines. -/
def readings (input : List UInt8) : List (Option Answer) :=
  (Text.lines 10 13 input).map fun line =>
    match Text.Utf8.text? line with
    | some text => answer? text
    | none => some (.error "stream did not contain valid UTF-8")

/-- Runs a dialogue, which breaks off if it comes to a line that the reader breaks down over. -/
def converse (report : String) (readings : List (Option Answer)) (s : Session (Nested host)) :
    Result :=
  let (before, rest) := readings.span (·.isSome)
  let answers := before.filterMap id
  if rest.isEmpty then
    let d := s.converse answers
    conclude d.session d.result
  else
    -- For the dialogue such a line is an error, which is read if it comes to it.
    let d := s.converse (answers ++ [.error report])
    if d.unread.isEmpty then breakDown report d.session else conclude d.session d.result

/-- Runs the program on the whole of its input; `report` is what a reader that breaks down
leaves. -/
def run (host : Host) (read : Reader) (words environment : List String) (input : List UInt8)
    (place : Place) (report : String) : Result :=
  match plan host read words environment place with
  | .finished r => r
  | .converse s => converse report (readings input) s

end CommandLine

end NestedShell

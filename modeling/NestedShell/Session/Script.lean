import NestedShell.Session
import NestedShell.Text.Lines
import NestedShell.Text.Utf8

/-! Scripts: sessions that read lines to the end of a file. -/
namespace NestedShell

/-- A line of a script, or what went wrong in reading it. -/
abbrev ScriptLine := Except Failure String

/-- The lines of a script's bytes; each must be a text. -/
def scriptLines (bytes : List UInt8) : List ScriptLine :=
  (Text.lines 10 13 bytes).map fun line =>
    match Text.Utf8.text? line with
    | some text => .ok text
    | none => .error { cause := .io "stream did not contain valid UTF-8" }

namespace Session
variable {κ : Type} [Blueprint κ]

/-- Runs the lines as if they were typed, `number` being the number of the first. A halt ends the
script quietly; a line that cannot be read ends it with the failure. -/
def runLines : Nat → List ScriptLine → Session κ → Session κ × Except Failure Unit
  | _, [], s =>
    if s.lexer.isComplete then (s, .ok ())
    else (s.resetLexer.error Lexer.LexError.unterminated.message, .ok ())
  | number, .error f :: _, s => (s, .error (f.during ("reading line " ++ Text.decimal number)))
  | number, .ok line :: rest, s =>
    match s.feed (line.push '\n') with
    | (s, .ok _) => runLines (number + 1) rest s
    | (s, .error _) => (s, .ok ())

/-- Runs a script. A statement left open at its end is reported and dropped. -/
def runScript (lines : List ScriptLine) (s : Session κ) : Session κ × Except Failure Unit :=
  s.runLines 1 lines

end Session

end NestedShell

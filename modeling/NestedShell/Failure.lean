import NestedShell.Aliases
import NestedShell.Text.Decimal
import NestedShell.Variables

/-! Failures of commands: a cause, and what was being done when it came about. -/
namespace NestedShell

/-- An argument that a command asked for and was not given. -/
structure MissingArgument where
  index : Nat
  deriving DecidableEq

def MissingArgument.message (e : MissingArgument) : String :=
  "missing argument at position " ++ Text.decimal e.index

inductive Cause where
  | missingArgument (e : MissingArgument)
  | io (message : String)
  | badVariable (e : VariableError)
  | badAlias (e : AliasError)
  | other (message : String)
  deriving DecidableEq

namespace Cause

def message : Cause → String
  | missingArgument e => e.message
  | io text => text
  | badVariable e => e.message
  | badAlias e => e.message
  | other text => text

/-- The name under which a failure of this cause is reported. -/
def kind : Cause → String
  | missingArgument _ => "MissingArgument"
  | io _ => "IoError"
  | badVariable _ => "EnvError"
  | badAlias _ => "AliasError"
  | other _ => "Error"

end Cause

/-- A cause and its circumstances, the outermost first. -/
structure Failure where
  circumstances : List String := []
  cause : Cause
  deriving DecidableEq

namespace Failure

def ofText (message : String) : Failure := { cause := .other message }

/-- The same failure, met while doing something else. -/
def during (circumstance : String) (f : Failure) : Failure :=
  { f with circumstances := circumstance :: f.circumstances }

def kind (f : Failure) : String := f.cause.kind

/-- The messages, outermost first. -/
def messages (f : Failure) : List String := f.circumstances ++ [f.cause.message]

def message (f : Failure) : String := String.intercalate ": " f.messages

/-- The outermost message alone. -/
def headline (f : Failure) : String := f.circumstances.headD f.cause.message

end Failure

end NestedShell

import NestedShell.Failure
import NestedShell.Text.Utf8

/-! Programs outside the shell. -/
namespace NestedShell

/-- How a program came to its end. -/
inductive Ending where
  | exited (code : UInt8)
  | killed (signal : Nat)
  deriving DecidableEq

/-- The exit code; 128 is added to the number of a signal. -/
def Ending.code : Ending → Nat
  | exited code => code.toNat
  | killed signal => 128 + signal

/-- The exit code of a program that was interrupted from the keyboard. -/
def Ending.interruptCode : Nat := 130

/-- How a program ended, and what it wrote to its output and to its error output. -/
structure Finished where
  ending : Ending
  output : List UInt8 := []
  errors : List UInt8 := []
  deriving DecidableEq

/-- A host runs a program, named by the first word, with the given variables and no others. On a
shared terminal a session's screen shows all that its programs write. -/
structure Host where
  run : List String → Variables → Except Failure Finished
  sharesTerminal : Bool := false

end NestedShell

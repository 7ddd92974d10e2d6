import NestedShell.Text.Lines

/-! What a session has written. -/
namespace NestedShell

/-- The texts written to the output and to the error output. -/
structure Transcript where
  out : String := ""
  err : String := ""
  deriving DecidableEq

namespace Transcript

def write (text : String) (t : Transcript) : Transcript := { t with out := t.out ++ text }

def writeError (text : String) (t : Transcript) : Transcript := { t with err := t.err ++ text }

def print (text : String) (t : Transcript) : Transcript := (t.write text).write "\n"

/-- An error message takes a line of its own. -/
def error (text : String) (t : Transcript) : Transcript := (t.writeError text).writeError "\n"

def warning (text : String) (t : Transcript) : Transcript := t.error text

/-- Usage text under the message it belongs to, each line indented that is not empty. -/
def usage (text : String) (t : Transcript) : Transcript :=
  (Text.linesOf text).foldl
    (fun t line => if line.isEmpty then t.write "\n" else t.print ("  " ++ line)) t

end Transcript

end NestedShell

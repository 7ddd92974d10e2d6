import NestedShell.Text.Blank
import NestedShell.Text.Decimal

/-! What a command hands back. -/
namespace NestedShell

inductive Value where
  | status (n : Int64)
  | text (s : String)
  deriving DecidableEq

namespace Value

/-- The integer in a text, blanks around it aside. -/
def integer? (s : String) : Option Int64 := Text.int64? (Text.trim s.toList)

/-- A status if the text is an integer, the text as it is otherwise. -/
def parse (s : String) : Value :=
  match integer? s with
  | some n => status n
  | none => text s

/-- The value as an integer; a text that is none counts as 0. -/
def toStatus : Value → Int64
  | status n => n
  | text s => (integer? s).getD 0

def render : Value → String
  | status n => Text.decimal n.toInt
  | text s => s

end Value

end NestedShell

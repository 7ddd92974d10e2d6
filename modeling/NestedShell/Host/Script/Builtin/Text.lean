import NestedShell.Host.Echo
import NestedShell.Host.Printf.Script
import NestedShell.Host.Script.Builtin

/-! The builtins `echo` and `printf`. -/
namespace NestedShell.Host.Script.Text

def escapes : EscapeRules where
  letters := ('e', 0x1B) :: EscapeRules.commonLetters
  hasZero := true
  hasStop := true
  takesNext := false

/-- Writes the words, escapes replaced. The only option is a first word `-n`. -/
def echo (words : List String) : Act Nat := do
  let (words, feed) := if words.head? = some "-n" then (words.drop 1, "") else (words, "\n")
  let (cs, halt) := unescape escapes (joinWords words)
  say (String.ofList cs ++ (if halt.isSome then "" else feed))
  return 0

def printf (words : List String) : Act Nat := do
  match ← withoutOptions words with
  | [] => fail "usage: printf format [arg ...]"
  | format :: words =>
    let s := Printf.run Printf.Script.dialect format words
    s.complaints.forM fun c => warn c.message
    say s.out
    match s.halt with
    | some (.fault message) => fail message
    | _ => return if s.isFailed then 1 else 0

end NestedShell.Host.Script.Text

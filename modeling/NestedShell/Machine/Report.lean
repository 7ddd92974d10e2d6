import NestedShell.Machine
import NestedShell.Text.Decimal
import NestedShell.Text.Quoted

/-! What a machine with numbered states says of its rules, and of characters that none covers. -/
namespace NestedShell

def Unmatched.message (miss : Unmatched Nat) : String :=
  "no transition for " ++ Text.quotedChar miss.symbol ++ " in state " ++ Text.decimal miss.state ++
    " (stack: " ++ Text.quotedList miss.stack ++ ")"

/-- Whether the rule has an action, and the state it leads to. -/
def Rule.describe {home : Nat} {σ : Type} (r : Rule home σ) : String :=
  let action := if r.action.isSome then "true" else "false"
  let next := match r.next with
    | some s => "Some(" ++ Text.decimal s ++ ")"
    | none => "None"
  "Transition \x7b action: " ++ action ++ ", next: " ++ next ++ " \x7d"

end NestedShell

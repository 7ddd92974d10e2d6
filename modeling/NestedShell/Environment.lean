import NestedShell.Variables

/-! Environments: what a program is told of its caller's variables, a text for each. -/
namespace NestedShell

/-- The name and the value that a text gives, cut at the first `=` behind its first character. -/
def assignment? (text : String) : Option (String × String) :=
  match text.toList with
  | [] => none
  | first :: rest =>
    if rest.contains '=' then
      some (String.ofList (first :: rest.takeWhile (· ≠ '=')),
        String.ofList ((rest.dropWhile (· ≠ '=')).drop 1))
    else none

namespace Variables

/-- The variables that an environment sets, in its order. -/
def ofEnvironment (texts : List String) : Variables := ofPairs (texts.filterMap assignment?)

/-- A text for each variable, in the order of the names. -/
def environment (vars : Variables) : List String :=
  vars.names.map fun name => name ++ "=" ++ vars.value name

end Variables

end NestedShell

import NestedShell.Command
import NestedShell.Lexer.Quote

/-! The commands `alias` and `unalias`. -/
namespace NestedShell.Standard
variable {κ : Type}

def aliasUsage : String :=
  "Manage aliases.\n\n" ++
  "With no argument, list the current aliases. With a single name, show\n" ++
  "that alias. Otherwise define one; the '=' may stand alone or touch\n" ++
  "either word.\n\n" ++
  "Usage: alias [name[=]value...]"

/-- The replacement in the words after a name: an `=` may stand alone or touch the first word. -/
def replacement : List String → List String
  | [] => []
  | word :: rest =>
    match word.toList with
    | ['='] => rest
    | '=' :: stripped => String.ofList stripped :: rest
    | _ => word :: rest

/-- The name and the replacement that the words of a definition give; an `=` may also touch the
name. -/
def definition (first : String) (rest : List String) : String × List String :=
  match first.toList.dropWhile (· ≠ '=') with
  | [] => (first, replacement rest)
  | _ :: value =>
    (String.ofList (first.toList.takeWhile (· ≠ '=')),
      if value.isEmpty then rest else String.ofList value :: rest)

def aliasLines (aliases : Aliases) : List String :=
  aliases.entries.map fun entry => "alias " ++ entry.1 ++ "=" ++ Lexer.join entry.2

def showAlias (name : String) (ws : Workspace) : Workspace :=
  match ws.aliases.get? name with
  | some words => ws.print (name ++ "=" ++ Lexer.join words)
  | none => ws.print "undefined alias."

def defineAlias (first : String) (rest : List String) (ws : Workspace) : Workspace × Flow κ :=
  let (name, words) := definition first rest
  let (aliases, result) := ws.aliases.set name words
  let ws := { ws with aliases }
  match result with
  | .ok () => (ws, .done)
  | .error e =>
    ((ws.error e.message).print "alias: Could not set alias. Usage: alias name=value", .status 1)

def defineOrShow : Handler κ := fun _ args ws =>
  match args.drop 1 with
  | [] => (ws.printAll (aliasLines ws.aliases), .ok (.status 0))
  | first :: rest =>
    if rest.isEmpty && !first.toList.contains '=' then (showAlias first ws, .ok (.status 0))
    else
      let (ws, flow) := defineAlias first rest ws
      (ws, .ok flow)

def unaliasUsage : String := "Remove the named alias.\n\nUsage: unalias <name>"

def unalias : Handler κ := fun _ args ws =>
  match args.get 1 with
  | .error e => (ws, .error (.missingArgument e))
  | .ok name =>
    match ws.aliases.get? name with
    | some _ => ({ ws with aliases := ws.aliases.erase name }, .ok .done)
    | none => (ws.print ("unalias: " ++ name ++ ": not found"), .ok .done)

end NestedShell.Standard

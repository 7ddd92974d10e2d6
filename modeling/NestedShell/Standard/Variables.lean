import NestedShell.Command

/-! The commands `printenv`, `export`, `unset` and `setenv`. -/
namespace NestedShell.Standard
open Options (Signature)
variable {κ : Type}

def printenvSignature : Signature where
  about := "Show the variables commands and child processes see."
  positionals := [⟨"names", .greedy, "variables to show; all of them when omitted."⟩]

/-- One line for each variable in order of the names, which are padded. -/
def variableLines (vars : Variables) : List String :=
  let names := vars.names
  names.map fun name =>
    Text.padRight (Text.widest names) name ++ " = " ++ Text.quoted (vars.value name)

def variableLine (vars : Variables) (name : String) : String :=
  match vars.get? name with
  | some value => name ++ " = " ++ Text.quoted value
  | none => "'" ++ name ++ "' not in environment."

def printenv : Handler κ := fun _ args ws =>
  match args.read printenvSignature with
  | .error e => (ws, .error e)
  | .ok r =>
    let lines := if r.positionals.isEmpty then variableLines ws.vars
      else r.positionals.map (variableLine ws.vars)
    (ws.printAll lines, .ok .done)

def exportUsage : String :=
  "Set variables that child processes inherit. $NAME references in a value " ++
  "are expanded.\n\nUsage: export NAME=VALUE..."

/-- A faulty assignment is reported, and the next one is tried. -/
def exportOne (ws : Workspace) (assignment : String) : Workspace :=
  let (vars, result) := ws.vars.exportAssignment assignment
  let ws := { ws with vars }
  match result with
  | .ok _ => ws
  | .error e => ws.print ("** could not set value: (" ++ e.message ++ ")")

def exportAll : Handler κ := fun _ args ws => ((args.drop 1).foldl exportOne ws, .ok .done)

def unsetUsage : String := "Remove a variable.\n\nUsage: unset <name>"

def unset : Handler κ := fun _ args ws =>
  match args.get 1 with
  | .error e => (ws, .error (.missingArgument e))
  | .ok name =>
    if ws.vars.contains name then ({ ws with vars := ws.vars.erase name }, .ok .done)
    else (ws.warning "No such environment variable.", .ok (.status 1))

def setenvSignature : Signature where
  about := "Set NAME to VALUE exactly as given, without expansion."
  positionals := [⟨"name", .required, "variable to set."⟩, ⟨"value", .required, "new value."⟩]

def setenv : Handler κ := fun _ args ws =>
  match args.read setenvSignature with
  | .error e => (ws, .error e)
  | .ok r =>
    let name := r.positionals.headD ""
    let value := (r.positionals.drop 1).headD ""
    ({ ws with vars := ws.vars.set name value }, .ok .done)

end NestedShell.Standard

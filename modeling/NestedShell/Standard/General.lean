import NestedShell.Command

/-! The commands `echo`, `help` and `exit`. -/
namespace NestedShell.Standard
open Options (Signature)
variable {κ : Type}

def echoSignature : Signature where
  about := "Write the arguments separated by spaces, then a newline."
  switches := [⟨"--no-newline", some "-n", none, "do not output the trailing newline."⟩]
  positionals := [⟨"words", .greedy, "values to print as-is, separated by spaces."⟩]

def echo : Handler κ := fun _ args ws =>
  match args.read echoSignature with
  | .error e => (ws, .error e)
  | .ok r =>
    let text := String.intercalate " " r.positionals
    (ws.write (if r.has "--no-newline" then text else text.push '\n'), .ok .done)

def helpSignature : Signature where
  about := "List the commands, or describe the named ones."
  positionals := [⟨"names", .greedy, "commands to describe."⟩]

/-- One line for each command: its name, padded, and its summary. -/
def overview (catalog : Catalog) : List String :=
  let names := catalog.names
  names.map fun name =>
    Text.padRight (Text.widest names) name ++ "  " ++
      ((catalog.lookup name).map (·.summary)).getD ""

def describe (catalog : Catalog) (name : String) (ws : Workspace) : Workspace :=
  match catalog.lookup name with
  | some e => ((ws.print "").print name).usage e.usage
  | none => ws.print ("No command named '" ++ name ++ "' found.")

def help : Handler κ := fun catalog args ws =>
  match args.read helpSignature with
  | .error e => (ws, .error e)
  | .ok r =>
    let ws := if r.positionals.isEmpty then ws.printAll (overview catalog)
      else r.positionals.foldl (fun ws name => describe catalog name ws) ws
    (ws, .ok .done)

def exitUsage : String :=
  "Leave this command context. The optional value is handed to the\n" ++
  "enclosing context.\n\nUsage: exit [value]"

def exit : Handler κ := fun _ args ws =>
  (ws, .ok (.quit ((args.get 1).toOption.map Value.parse)))

end NestedShell.Standard

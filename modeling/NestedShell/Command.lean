import NestedShell.Failure
import NestedShell.Options
import NestedShell.Text.Lines
import NestedShell.Transcript
import NestedShell.Value

/-! Commands: their words, what they may change, what they answer, and the registry that finds
them by name. -/
namespace NestedShell

/-- The words of a statement, the command's name first. -/
structure Args where
  words : List String
  deriving DecidableEq

namespace Args

def name (args : Args) : String := args.words.headD ""

def get (index : Nat) (args : Args) : Except MissingArgument String :=
  match args.words[index]? with
  | some word => .ok word
  | none => .error ⟨index⟩

def getD (index : Nat) (default : String) (args : Args) : String :=
  args.words[index]?.getD default

/-- The words from `index` on. -/
def drop (index : Nat) (args : Args) : List String := args.words.drop index

end Args

/-- What a handler asks of the session; `κ` describes the contexts it may open. -/
inductive Flow (κ : Type) where
  | resume (value : Option Value)
  | quit (value : Option Value)
  | exit
  | enter (child : κ)
  | interrupted

namespace Flow
variable {κ : Type}

def done : Flow κ := resume none

def status (n : Int64) : Flow κ := resume (some (.status n))

def text (s : String) : Flow κ := resume (some (.text s))

end Flow

inductive CommandError where
  | usage (message : String)
  | missingArgument (e : MissingArgument)
  | options (message : String)
  | help (text : String)
  | failed (f : Failure)
  deriving DecidableEq

/-- What a command may change. -/
structure Workspace where
  vars : Variables := {}
  screen : Transcript := {}
  aliases : Aliases := {}
  deriving DecidableEq

namespace Workspace

def write (text : String) (ws : Workspace) : Workspace := { ws with screen := ws.screen.write text }

def writeError (text : String) (ws : Workspace) : Workspace :=
  { ws with screen := ws.screen.writeError text }

def print (text : String) (ws : Workspace) : Workspace := { ws with screen := ws.screen.print text }

def printAll (texts : List String) (ws : Workspace) : Workspace :=
  texts.foldl (fun ws text => ws.print text) ws

def error (text : String) (ws : Workspace) : Workspace := { ws with screen := ws.screen.error text }

def warning (text : String) (ws : Workspace) : Workspace :=
  { ws with screen := ws.screen.warning text }

def usage (text : String) (ws : Workspace) : Workspace := { ws with screen := ws.screen.usage text }

end Workspace

/-- What is known of a command. Commands with the same `id` share a handler; `canonical` is the
name the handler was registered under. -/
structure Entry where
  name : String
  canonical : String
  usage : String
  id : Nat
  deriving DecidableEq

def Entry.usageLines (e : Entry) : List (List Char) :=
  ((Text.lines '\n' '\r' e.usage.toList).map Text.trim).filter (!·.isEmpty)

/-- The first line of the usage text that does not start with `Usage:`, or else the first. -/
def Entry.summary (e : Entry) : String :=
  let lines := e.usageLines
  String.ofList ((lines.find? (!"Usage:".toList.isPrefixOf ·)).getD (lines.headD []))

/-- The commands of a context as their handlers see them. -/
structure Catalog where
  entries : Ordered Entry := {}
  deriving DecidableEq

namespace Catalog

def lookup (name : String) (catalog : Catalog) : Option Entry := catalog.entries.get? name

/-- The first entry for each handler. -/
def distinct : List Nat → List Entry → List Entry
  | _, [] => []
  | seen, e :: rest =>
    if seen.contains e.id then distinct seen rest else e :: distinct (e.id :: seen) rest

/-- The canonical names in order, one for each handler. -/
def names (catalog : Catalog) : List String :=
  Text.sorted ((distinct [] catalog.entries.values).map (·.canonical))

end Catalog

abbrev Handler (κ : Type) := Catalog → Args → Workspace → Workspace × Except CommandError (Flow κ)

/-- Reads the words after the name by a signature. -/
def Args.read (args : Args) (sig : Options.Signature) : Except CommandError Options.Reading :=
  match sig.read (args.drop 1) with
  | .ok r => .ok r
  | .error .help => .error (.help (sig.help args.name))
  | .error (.error e) => .error (.options (String.ofList (Text.trimRight e.message.toList)))

structure Command (κ : Type) extends Entry where
  handler : Handler κ

inductive RegistryError where
  | reservedName (name : String)
  | missingUsage (name : String)
  | unknown (name : String)
  deriving DecidableEq

def RegistryError.message : RegistryError → String
  | reservedName name => "command name " ++ Text.quoted name ++ " is reserved"
  | missingUsage name => "command " ++ Text.quoted name ++ " needs usage text"
  | unknown name => "no command named " ++ Text.quoted name

/-- Names that are never registered: the empty one, and those that start with an underscore. -/
def isReserved (name : String) : Bool := name.isEmpty || name.toList.head? = some '_'

/-- The commands of a context by name, and the number of handlers ever registered. -/
structure Registry (κ : Type) where
  commands : Ordered (Command κ) := {}
  issued : Nat := 0

namespace Registry
variable {κ : Type}

/-- Registers a handler under its canonical name, whatever it is. -/
def install (name usage : String) (handler : Handler κ) (r : Registry κ) : Registry κ where
  commands := r.commands.put name ⟨⟨name, name, usage, r.issued⟩, handler⟩
  issued := r.issued + 1

def register (name usage : String) (handler : Handler κ) (r : Registry κ) :
    Registry κ × Except RegistryError Unit :=
  if isReserved name then (r, .error (.reservedName name))
  else if usage.toList.all Text.isBlank then (r, .error (.missingUsage name))
  else (r.install name usage handler, .ok ())

def lookup (name : String) (r : Registry κ) : Option (Command κ) := r.commands.get? name

/-- Makes `name` call what `existing` calls now, whatever becomes of `existing` later. -/
def bind (name existing : String) (r : Registry κ) : Registry κ × Except RegistryError Unit :=
  if isReserved name then (r, .error (.reservedName name))
  else match r.lookup existing with
    | none => (r, .error (.unknown existing))
    | some command =>
      ({ r with commands := r.commands.put name { command with name := name } }, .ok ())

def erase (name : String) (r : Registry κ) : Registry κ :=
  { r with commands := r.commands.erase name }

def catalog (r : Registry κ) : Catalog := ⟨r.commands.map (·.toEntry)⟩

/-- One canonical name for each handler, in order. -/
def names (r : Registry κ) : List String := r.catalog.names

/-- Every name, bound ones included, in order of first arrival. -/
def allNames (r : Registry κ) : List String := r.commands.names

def size (r : Registry κ) : Nat := r.commands.size

def isEmpty (r : Registry κ) : Bool := r.commands.isEmpty

end Registry

end NestedShell

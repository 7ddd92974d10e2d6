import NestedShell.Text.Blank
import NestedShell.Text.Columns

/-! Options of a command: what it takes, how its words are read, and its help text. -/
namespace NestedShell.Options

/-- A word that starts with a dash; if it takes a value, the next word is its value. -/
structure Switch where
  long : String
  short : Option String
  value : Option String
  about : String

inductive Arity where
  | required
  | optional
  | greedy
  deriving DecidableEq

/-- A word known by its place. A greedy one takes all words that are left, dashes or not. -/
structure Positional where
  name : String
  arity : Arity
  about : String

structure Signature where
  about : String
  switches : List Switch := []
  positionals : List Positional := []

/-- What the words of a command say; switches go by their long form. -/
structure Reading where
  given : List String := []
  values : List (String × String) := []
  positionals : List String := []
  deriving DecidableEq

def Reading.has (r : Reading) (switch : String) : Bool := r.given.contains switch

def Reading.value? (r : Reading) (switch : String) : Option String := r.values.lookup switch

inductive OptionError where
  | unrecognized (word : String)
  | missingValue (switch : String)
  | duplicate (switch value : String)
  | trailing
  | missing (names : List String)
  deriving DecidableEq

def OptionError.message : OptionError → String
  | unrecognized word => "Unrecognized argument: " ++ word ++ "\n"
  | missingValue switch => "No value provided for option '" ++ switch ++ "'.\n"
  | duplicate switch value =>
    "Error parsing option '" ++ switch ++ "' with value '" ++ value ++
      "': duplicate values provided\n"
  | trailing => "Trailing arguments are not allowed after `help`."
  | missing names =>
    "Required positional arguments not provided:" ++
      String.join (names.map ("\n    " ++ ·)) ++ "\n"

/-- Why reading ends without a reading. -/
inductive Stop where
  | help
  | error (e : OptionError)
  deriving DecidableEq

def Signature.switch? (sig : Signature) (word : String) : Option Switch :=
  sig.switches.find? (fun s => s.long = word ∨ s.short = some word)

def isHelp (word : String) : Bool := word = "--help" || word = "help"

/-- Reads on with the positionals that are still open, keeping those that have been given with the
last one first. `isAsked` is set once help was asked for, and `ended` once a dash has no meaning any
more. -/
def readFrom (sig : Signature) (isAsked ended : Bool) (left : List Positional) (r : Reading) :
    List String → Except Stop Reading
  | [] =>
    if isAsked then .error .help
    else match (left.filter (·.arity = .required)).map (·.name) with
      | [] => .ok { r with positionals := r.positionals.reverse }
      | names => .error (.error (.missing names))
  | word :: rest =>
    if isHelp word && !ended then readFrom sig true ended left r rest
    else if word.toList.head? = some '-' && !ended then
      if word = "--" then readFrom sig isAsked true left r rest
      else if isAsked then .error (.error .trailing)
      else match sig.switch? word with
        | none => .error (.error (.unrecognized word))
        | some switch =>
          match switch.value with
          | none =>
            readFrom sig isAsked ended left { r with given := switch.long :: r.given } rest
          | some _ =>
            match rest with
            | [] => .error (.error (.missingValue word))
            | value :: rest =>
              if (r.value? switch.long).isSome then .error (.error (.duplicate word value))
              else
                readFrom sig isAsked ended left
                  { r with values := (switch.long, value) :: r.values } rest
    else
      let r' := { r with positionals := word :: r.positionals }
      match left with
      | [] => .error (.error (.unrecognized word))
      | p :: more =>
        if p.arity = .greedy then readFrom sig isAsked true left r' rest
        else readFrom sig isAsked ended more r' rest

/-- Reads the words after the command's name. Options may stand between the positionals until
`--`, or until a greedy positional has begun. -/
def Signature.read (sig : Signature) (words : List String) : Except Stop Reading :=
  readFrom sig false false sig.positionals {} words

def bracket (s : String) : String := "[" ++ s ++ "]"

def Switch.usage (s : Switch) : String :=
  let name := s.short.getD s.long
  bracket (match s.value with
    | none => name
    | some value => name ++ " <" ++ value ++ ">")

def Positional.usage (p : Positional) : String :=
  match p.arity with
  | .required => "<" ++ p.name ++ ">"
  | .optional => bracket ("<" ++ p.name ++ ">")
  | .greedy => bracket (p.name ++ "...")

def Switch.label (s : Switch) : String :=
  match s.short with
  | none => s.long
  | some short => short ++ ", " ++ s.long

/-- A row of help text; the explanations start in one column. -/
def row (label about : String) : String := "\n  " ++ Text.padRight 18 label ++ about

/-- Help text: usage, what the command is for, its positionals but for a greedy one, and its
options. -/
def Signature.help (sig : Signature) (name : String) : String :=
  let placed := sig.positionals.filter (·.arity ≠ .greedy)
  let usages := sig.switches.map (·.usage) ++ (if placed.isEmpty then [] else ["[--]"]) ++
    sig.positionals.map (·.usage)
  let places := if placed.isEmpty then ""
    else "\n\nPositional Arguments:" ++ String.join (placed.map (fun p => row p.name p.about))
  "Usage: " ++ String.intercalate " " (name :: usages) ++ "\n\n" ++ sig.about ++ places ++
    "\n\nOptions:" ++ String.join (sig.switches.map (fun s => row s.label s.about)) ++
    row "--help, help" "display usage information" ++ "\n"

end NestedShell.Options

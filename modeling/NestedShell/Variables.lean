import NestedShell.Ordered
import NestedShell.Text.Quoted
import NestedShell.Text.Sorted

/-! Shell variables, and the references to them that a text may hold. -/
namespace NestedShell

inductive VariableError where
  | missingEquals (text : String)
  | invalidName (name : String)
  | busy
  deriving DecidableEq

def VariableError.message : VariableError → String
  | missingEquals text => "expected NAME=VALUE, got " ++ Text.quoted text
  | invalidName name => "invalid variable name " ++ Text.quoted name
  | busy => "environment is being modified"

/-- A view of variables that may refuse to answer. -/
abbrev Lookup := String → Except VariableError (Option String)

/-- A source that is being changed answers no question. -/
def Lookup.busy : Lookup := fun _ => .error .busy

def nameChars : List Char :=
  "abcdefghijklmnopqrstuvwxyzABCDEFGHIJKLMNOPQRSTUVWXYZ0123456789_?".toList

def isNameChar (c : Char) : Bool := nameChars.contains c

def isValidName (name : String) : Bool := !name.isEmpty && name.toList.all isNameChar

/-- The name that a reference starting after a `$` gives, and how many characters it takes: the
longest run of name characters, or whatever stands between braces. It is known of some texts that
`closes` no brace. -/
def reference? (closes : Bool) (rest : List Char) : Option (List Char × Nat) :=
  match rest.takeWhile isNameChar with
  | [] =>
    match rest with
    | '\x7b' :: body =>
      if closes && body.contains '\x7d' then
        let name := body.takeWhile (· ≠ '\x7d')
        some (name, name.length + 2)
      else none
    | _ => none
  | name => some (name, name.length)

/-- The text with each reference replaced by its value; what a value holds is not read again. The
number is of characters that a reference has already taken. Behind a brace that is never closed no
other one is closed either. -/
def expandFrom (value : String → String) : Bool → Nat → List Char → List Char
  | _, _, [] => []
  | closes, taken + 1, _ :: rest => expandFrom value closes taken rest
  | closes, 0, c :: rest =>
    if c = '$' then
      match reference? closes rest with
      | some (name, taken) =>
        (value (String.ofList name)).toList ++ expandFrom value closes taken rest
      | none => '$' :: expandFrom value (closes && rest.head? ≠ some '\x7b') 0 rest
    else c :: expandFrom value closes 0 rest

structure Variables where
  table : Ordered String := {}
  deriving DecidableEq

namespace Variables

/-- Names of the variables that commands and contexts set. -/
def lastResult : String := "_"
def lastStatus : String := "?"
def level : String := "SHLVL"

def get? (name : String) (vars : Variables) : Option String := vars.table.get? name

/-- The value, or nothing when the variable is not set. -/
def value (name : String) (vars : Variables) : String := (vars.get? name).getD ""

def contains (name : String) (vars : Variables) : Bool := vars.table.contains name

def set (name value : String) (vars : Variables) : Variables := ⟨vars.table.put name value⟩

def erase (name : String) (vars : Variables) : Variables := ⟨vars.table.erase name⟩

/-- Sets each pair in order. -/
def inherit (pairs : List (String × String)) (vars : Variables) : Variables :=
  pairs.foldl (fun vars pair => vars.set pair.1 pair.2) vars

def ofPairs (pairs : List (String × String)) : Variables := inherit pairs {}

/-- In order of first arrival. -/
def pairs (vars : Variables) : List (String × String) := vars.table.entries

def names (vars : Variables) : List String := Text.sorted vars.table.names

def size (vars : Variables) : Nat := vars.table.size

def isEmpty (vars : Variables) : Bool := vars.table.isEmpty

/-- An unset variable expands to nothing, a `$` without a name stays. -/
def expand (text : String) (vars : Variables) : String :=
  String.ofList (expandFrom (fun name => vars.value name) true 0 text.toList)

/-- Sets `name` to the text after expansion. -/
def assign (name text : String) (vars : Variables) : Variables := vars.set name (vars.expand text)

/-- Sets `name` only if it is not set. -/
def setDefault (name value : String) (vars : Variables) : Variables :=
  if vars.contains name then vars else vars.set name value

/-- Assigns from `NAME=VALUE`, cut at the first `=`. -/
def exportAssignment (text : String) (vars : Variables) :
    Variables × Except VariableError String :=
  match text.toList.dropWhile (· ≠ '=') with
  | [] => (vars, .error (.missingEquals text))
  | _ :: value =>
    let name := String.ofList (text.toList.takeWhile (· ≠ '='))
    if name.isEmpty then (vars, .error (.invalidName name))
    else (vars.assign name (String.ofList value), .ok name)

def lookup (vars : Variables) : Lookup := fun name => .ok (vars.get? name)

@[simp] theorem get?_set (name other value : String) (vars : Variables) :
    (vars.set name value).get? other = if other = name then some value else vars.get? other :=
  Ordered.get?_put name other value vars.table

/-- One `NAME=VALUE` line for each variable, in order of the lines. -/
def listing (vars : Variables) : String :=
  String.intercalate "\n" (Text.sorted (vars.pairs.map (fun pair => pair.1 ++ "=" ++ pair.2)))

end Variables

end NestedShell

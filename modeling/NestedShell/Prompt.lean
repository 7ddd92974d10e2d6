import NestedShell.Variables

/-! Prompts: templates with `%`-escapes. -/
namespace NestedShell

/-- Where a session runs, for want of variables that tell. -/
structure Place where
  host : String := "localhost"
  directory : String := ""

namespace Prompt

def colorLetters : List Char := "IDNRGYBMCWrgybmcw".toList

def user (vars : Variables) : String :=
  match vars.get? "USER" with
  | some name => name
  | none => vars.value "USERNAME"

/-- What `%c` stands for. Colors have no text, and an unknown letter stands for itself. -/
def escape (place : Place) (vars : Variables) (c : Char) : String :=
  if c = 'n' then "\n"
  else if c = 'u' then user vars
  else if c = 'h' then (vars.get? "HOSTNAME").getD place.host
  else if c = 'L' then vars.value Variables.level
  else if c = 'd' then (vars.get? "PWD").getD place.directory
  else if c = '$' then if user vars = "root" then "#" else ">"
  else if colorLetters.contains c then ""
  else String.singleton c

/-- The value of a variable, or its name when it is not set. -/
def named (vars : Variables) (name : String) : String := (vars.get? name).getD name

/-- Where in a template the reader stands; a name is kept as far as it is read, the last character
first. -/
inductive Mode where
  | text
  | percent
  | name (read : List Char)
  | color

def expandFrom (place : Place) (vars : Variables) : Mode → List Char → List Char
  | .text, [] => []
  | .percent, [] => ['%']
  | .name read, [] => '%' :: '\x7b' :: read.reverse
  | .color, [] => []
  | .text, c :: rest =>
    if c = '%' then expandFrom place vars .percent rest
    else c :: expandFrom place vars .text rest
  | .percent, c :: rest =>
    if c = '\x7b' then expandFrom place vars (.name []) rest
    else if c = '[' then expandFrom place vars .color rest
    else (escape place vars c).toList ++ expandFrom place vars .text rest
  | .name read, c :: rest =>
    if c = '\x7d' then
      (named vars (String.ofList read.reverse)).toList ++ expandFrom place vars .text rest
    else expandFrom place vars (.name (c :: read)) rest
  | .color, c :: rest =>
    if c = ']' then expandFrom place vars .text rest else expandFrom place vars .color rest

/-- The template with its escapes replaced. An escape left open at the end stays as it is, a color
left open vanishes. -/
def expand (place : Place) (vars : Variables) (template : String) : String :=
  String.ofList (expandFrom place vars .text template.toList)

end Prompt

end NestedShell

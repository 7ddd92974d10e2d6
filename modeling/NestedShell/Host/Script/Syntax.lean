/-! The syntax of scripts: words, redirections and commands. Texts are of characters that stand
for bytes. -/
namespace NestedShell.Host.Script

/-- What is done with the value of a parameter. -/
inductive Operator where
  | value
  | orWord
  | orAssign
  | orFail
  | andWord
  | trim (isEnd isLongest : Bool)
  | length
  | bad
  deriving DecidableEq

/-- How a file is opened. -/
inductive Access where
  | read
  | write
  | append
  | both
  | clobber
  deriving DecidableEq

mutual

/-- A part of a word. A character may be escaped; marks stand where quotes begin and end. An empty
value counts as none where `skipsEmpty` says so. -/
inductive Part where
  | char (c : Char) (isEscaped : Bool)
  | mark
  | parameter (name : String) (op : Operator) (skipsEmpty : Bool) (word : List Part)
  | output (body : Command)
  | sum (body : List Part)

/-- Where a descriptor of a command leads. -/
inductive Redirect where
  | file (descriptor : Nat) (access : Access) (name : List Part)
  | copy (descriptor : Nat) (target : List Part)
  | document (descriptor index : Nat)

inductive Command where
  | nothing
  | simple (line : Nat) (assignments words : List (List Part)) (redirects : List Redirect)
  | pipeline (stages : List Command)
  | background (line : Nat) (body : Command) (redirects : List Redirect)
  | negation (body : Command)
  | next (first second : Command)
  | andThen (first second : Command)
  | orElse (first second : Command)
  | branch (test yes no : Command)
  | loop (isUntil : Bool) (test body : Command)
  | each (line : Nat) (name : String) (words : List (List Part)) (body : Command)
  | choice (line : Nat) (subject : List Part) (cases : List (List (List Part) × Command))
  | function (name : String) (body : Command)
  | redirected (line : Nat) (body : Command) (redirects : List Redirect)
  | subshell (line : Nat) (body : Command) (redirects : List Redirect)

end

abbrev Word := List Part

instance : Inhabited Command := ⟨.nothing⟩

def isNameStart (c : Char) : Bool := c.isAlpha || c = '_'

def isNamePart (c : Char) : Bool := c.isAlphanum || c = '_'

def isName : List Char → Bool
  | [] => false
  | c :: rest => isNameStart c && rest.all isNamePart

/-- Names of one character that stand for something else than a variable. -/
def isSpecialName (c : Char) : Bool := ['?', '$', '#', '@', '*', '!', '-'].contains c || c.isDigit

/-- The text of a word that holds nothing but characters that are not escaped. -/
def plainText? : Word → Option (List Char)
  | [] => some []
  | .char c false :: rest => (plainText? rest).map (c :: ·)
  | _ => none

/-- The characters at the start of a word that are not escaped. -/
def plainStart : Word → List Char
  | .char c false :: rest => c :: plainStart rest
  | _ => []

/-- The characters of a word, its marks and substitutions left out. -/
def bareText : Word → List Char
  | [] => []
  | .char c _ :: rest => c :: bareText rest
  | _ :: rest => bareText rest

/-- A word that starts with a name and an equals sign. -/
def isAssignment (w : Word) : Bool :=
  let start := plainStart w
  isName (start.takeWhile (· ≠ '=')) && start.contains '='

end NestedShell.Host.Script

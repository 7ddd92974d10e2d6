import NestedShell.Ordered
import NestedShell.Text.Quoted

/-! Aliases: names that stand for one or more words at the head of a statement. -/
namespace NestedShell

inductive AliasError where
  | emptyName
  | emptyReplacement (name : String)
  deriving DecidableEq

def AliasError.message : AliasError → String
  | emptyName => "alias name must not be empty"
  | emptyReplacement name => "alias " ++ Text.quoted name ++ " needs a replacement"

structure Aliases where
  table : Ordered (List String) := {}
  deriving DecidableEq

namespace Aliases

def get? (name : String) (aliases : Aliases) : Option (List String) := aliases.table.get? name

/-- Defines `name` anew; neither side may be empty. -/
def set (name : String) (replacement : List String) (aliases : Aliases) :
    Aliases × Except AliasError Unit :=
  if name.isEmpty then (aliases, .error .emptyName)
  else if replacement.isEmpty then (aliases, .error (.emptyReplacement name))
  else (⟨aliases.table.put name replacement⟩, .ok ())

def erase (name : String) (aliases : Aliases) : Aliases := ⟨aliases.table.erase name⟩

def entries (aliases : Aliases) : List (String × List String) := aliases.table.entries

def size (aliases : Aliases) : Nat := aliases.table.size

def isEmpty (aliases : Aliases) : Bool := aliases.table.isEmpty

/-- Replaces the first word while it is an alias whose replacement does not begin with a word in
`seen`; the first word of each replacement is added to `seen`. -/
def expandFrom (aliases : Aliases) : Nat → List String → List String → List String
  | 0, _, words => words
  | _ + 1, _, [] => []
  | limit + 1, seen, head :: rest =>
    match aliases.get? head with
    | some (first :: more) =>
      if seen.contains first then head :: rest
      else aliases.expandFrom limit (first :: seen) (first :: more ++ rest)
    | _ => head :: rest

/-- Substitutes at the head of a statement until the head is no alias, or would become a word that
a replacement has begun with before. No more substitutions than aliases are possible, since each
begins with another word. -/
def expand (words : List String) (aliases : Aliases) : List String :=
  aliases.expandFrom aliases.size [] words

end Aliases

end NestedShell

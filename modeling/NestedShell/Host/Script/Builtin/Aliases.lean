import NestedShell.Host.Script.Builtin

/-! The builtins `alias` and `unalias`. -/
namespace NestedShell.Host.Script.Aliases

/-- The place of an alias in the list. -/
def orderKey (name : String) : Nat := nameNumber name % 39

def say (entry : String × String) : Act Unit :=
  sayLine (entry.1 ++ "=" ++ singleQuoted entry.2)

/-- An alias keeps its place when it is given another text. -/
def put (name text : String) (entries : List (String × String)) : List (String × String) :=
  if entries.any (·.1 = name) then
    entries.map fun entry => if entry.1 = name then (name, text) else entry
  else entries ++ [(name, text)]

/-- Runs an action for each word; the status is 1 if any of them fails. -/
def forEach (words : List String) (act : String → Act Bool) : Act Nat := do
  let results ← words.mapM act
  return if results.all id then 0 else 1

def define (words : List String) : Act Nat := do
  if words.isEmpty then
    let s ← get
    (s.aliases.mergeSort fun a b => orderKey a.1 ≤ orderKey b.1).forM say
  forEach words fun word => do
    let s ← get
    match assignment? word, s.aliases.find? (·.1 = word) with
    | some (name, text), _ =>
      set { s with aliases := put name text s.aliases }
      return true
    | none, some entry =>
      say entry
      return true
    | none, none =>
      complain ("alias: " ++ word ++ " not found")
      return false

def remove (words : List String) : Act Nat := do
  let (options, words) ← readOptions "a" words
  if !options.isEmpty then
    modify fun s => { s with aliases := [] }
    return 0
  forEach words fun word => do
    let s ← get
    if !s.aliases.any (·.1 = word) then
      complain ("unalias: " ++ word ++ " not found")
      return false
    set { s with aliases := s.aliases.filter (·.1 ≠ word) }
    return true

end NestedShell.Host.Script.Aliases

import NestedShell.Host.Script.Builtin
import NestedShell.Host.Script.Fields

/-! The builtin `read`: a line of the input, cut into fields. -/
namespace NestedShell.Host.Script.Read

/-- A line that has been read: its text, whether its end was met, and how much was read for it. -/
structure Line where
  cells : List Cell
  isEnded : Bool
  taken : Nat

/-- Reads a line behind `taken` characters; its cells come with the last one first. Unless the line
is raw, a backslash guards a character from being a separator, and goes on with the next line. -/
def lineFrom (isRaw isGuarded : Bool) (taken : Nat) (cells : List Cell) : List Char → Line
  | [] => ⟨cells.reverse, false, taken⟩
  | c :: rest =>
    if c = '\x00' then lineFrom isRaw isGuarded (taken + 1) cells rest
    else if isGuarded then
      let guarded := if c = '\n' then [] else [.char c false, .region .fixed]
      lineFrom isRaw false (taken + 1) (.region .split :: guarded ++ cells) rest
    else if c = '\\' && !isRaw then lineFrom isRaw true (taken + 1) cells rest
    else if c = '\n' then ⟨cells.reverse, true, taken + 1⟩
    else lineFrom isRaw false (taken + 1) (.char c false :: cells) rest

/-- Gives each name a field; those that there are no fields for get none. -/
def assignFields : List String → List (List Cell) → Act Unit
  | [], _ => return
  | name :: names, fields => do
    assign name (some (String.ofList (textOfCells (fields.headD [])))) false false
    assignFields names (fields.drop 1)

/-- Reads a line into variables, the last of which takes all that is left. -/
def read (words : List String) : Act Nat := do
  let (options, names) ← readOptions "p:r" words
  if names.isEmpty then fail "arg count"
  let s ← get
  let line := lineFrom (options.any (·.1 = 'r')) false 0 [.region .split]
    (((s.stream? 0).map s.world.ahead).getD [])
  set { s with world := ((s.stream? 0).map (s.world.skip · line.taken)).getD s.world }
  assignFields names (fieldsOf (separatorsOf s) (some names.length) line.cells)
  return if line.isEnded then 0 else 1

end NestedShell.Host.Script.Read

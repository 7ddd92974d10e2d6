import NestedShell.Ordered
import NestedShell.Text.Blank

/-! Completion of the word under the cursor from lists of words with a name. -/
namespace NestedShell

/-- Word lists by the name of their scope. -/
structure Scopes where
  table : Ordered (List String) := {}
  deriving DecidableEq

namespace Scopes

/-- The scope of the first word of a line. -/
def commands : String := "commands"

def get? (name : String) (scopes : Scopes) : Option (List String) := scopes.table.get? name

def set (name : String) (words : List String) (scopes : Scopes) : Scopes :=
  ⟨scopes.table.put name words⟩

def erase (name : String) (scopes : Scopes) : Scopes := ⟨scopes.table.erase name⟩

def size (scopes : Scopes) : Nat := scopes.table.size

/-- Number of bytes of a text in UTF-8. -/
def bytes : List Char → Nat
  | [] => 0
  | c :: cs => c.utf8Size + bytes cs

/-- The start of a text that takes `n` bytes, if it can be cut there. -/
def cut? : Nat → List Char → Option (List Char)
  | 0, _ => some []
  | _ + 1, [] => none
  | n + 1, c :: cs =>
    if c.utf8Size ≤ n + 1 then (cut? (n + 1 - c.utf8Size) cs).map (c :: ·) else none

/-- The text up to the last blank, that included, and the word begun after it. -/
def splitWord (cs : List Char) : List Char × List Char :=
  ((cs.reverse.dropWhile (!Text.isBlank ·)).reverse,
    (cs.reverse.takeWhile (!Text.isBlank ·)).reverse)

/-- Where the word under a cursor at byte `position` starts, and the words of its scope that begin
like it. A position that is no place between two characters counts as the end of the line. The
scope of a later word is named by the word before it. -/
def complete (line : String) (position : Nat) (scopes : Scopes) : Nat × List String :=
  let (before, word) := splitWord ((cut? position line.toList).getD line.toList)
  let scope := match Text.lastWord? before with
    | none => commands
    | some previous => String.ofList previous
  (bytes before, ((scopes.get? scope).getD []).filter (fun w => word.isPrefixOf w.toList))

end Scopes

end NestedShell

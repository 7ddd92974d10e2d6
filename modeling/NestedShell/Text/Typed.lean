import NestedShell.Text.Cluster

/-! Lines as they were typed: a backspace takes back what was typed before it. -/
namespace NestedShell.Text.Typed

def backspace : Char := '\x08'

/-- A line so far: its characters, and the size in bytes of each cluster that can be taken back, all
with the last one first. A size is kept in one byte, which forgets multiples of 256. -/
structure Line where
  chars : List Char := []
  sizes : List UInt8 := []

def byteSize (cs : List Char) : Nat := cs.foldl (fun n c => n + c.utf8Size) 0

/-- Takes bytes from the front; a character cannot be taken in part. -/
def dropBytes : Nat → List Char → Option (List Char)
  | 0, cs => some cs
  | _ + 1, [] => none
  | n + 1, c :: cs => if c.utf8Size ≤ n + 1 then dropBytes (n + 1 - c.utf8Size) cs else none

namespace Line

def add (cluster : List Char) (l : Line) : Line :=
  { chars := cluster.reverse ++ l.chars, sizes := (byteSize cluster).toUInt8 :: l.sizes }

/-- The line without its last cluster, as far as the size of that is known. -/
def erase (l : Line) : Option Line :=
  match l.sizes with
  | [] => some l
  | n :: sizes => (dropBytes n.toNat l.chars).map fun chars => { chars, sizes }

def enter (l : Line) (cluster : List Char) : Option Line :=
  if cluster = [backspace] then l.erase else some (l.add cluster)

end Line

/-- What a line comes to. There is no answer where a cluster is too large to be taken back. -/
def line? (cs : List Char) : Option (List Char) :=
  ((Cluster.clusters cs).foldlM Line.enter {}).map (·.chars.reverse)

end NestedShell.Text.Typed

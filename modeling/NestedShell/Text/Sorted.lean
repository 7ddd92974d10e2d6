/-! Texts in the order of their characters' code points. -/
namespace NestedShell.Text

/-- The first text comes before the second, or they are equal. -/
def precedes : List Char → List Char → Bool
  | [], _ => true
  | _ :: _, [] => false
  | a :: as, b :: bs => a.toNat < b.toNat || (a == b && precedes as bs)

def insertSorted (s : String) : List String → List String
  | [] => [s]
  | t :: rest =>
    if precedes s.toList t.toList then s :: t :: rest else t :: insertSorted s rest

def sorted (names : List String) : List String := names.foldr insertSorted []

end NestedShell.Text

/-! Texts set in columns. -/
namespace NestedShell.Text

/-- The text filled up with blanks to a number of characters. -/
def padRight (width : Nat) (s : String) : String :=
  s ++ String.ofList (List.replicate (width - s.length) ' ')

/-- The most bytes that one of the texts takes. -/
def widest (texts : List String) : Nat := texts.foldl (fun n s => max n s.utf8ByteSize) 0

end NestedShell.Text

/-! Lines of characters or bytes. -/
namespace NestedShell.Text
variable {α : Type} [DecidableEq α]

/-- Lines end with `feed`, which may follow one `ret`; neither belongs to the line. What follows
the last `feed` is a line of its own unless it is empty, and keeps its `ret`. The characters of
the current line come last read first. -/
def linesFrom (feed ret : α) : List α → List α → List (List α)
  | [], [] => []
  | line, [] => [line.reverse]
  | line, c :: rest =>
    if c = feed then
      (match line with
        | d :: front => if d = ret then front.reverse else line.reverse
        | [] => []) :: linesFrom feed ret [] rest
    else linesFrom feed ret (c :: line) rest

def lines (feed ret : α) (text : List α) : List (List α) := linesFrom feed ret [] text

/-- Lines of a text, ended by a line feed or a carriage return and a line feed. -/
def linesOf (text : String) : List String := (lines '\n' '\r' text.toList).map String.ofList

end NestedShell.Text

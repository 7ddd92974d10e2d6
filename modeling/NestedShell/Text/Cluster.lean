import NestedShell.Text.Cluster.Kind

/-! Texts cut into clusters: what a reader takes for one character each. -/
namespace NestedShell.Text.Cluster

/-- What a cluster ends with, where that tells whether the next character joins it. -/
inductive Tail where
  | plain
  /-- Half a flag. -/
  | flag
  /-- A pictograph, and what extends it. -/
  | picture
  /-- The same with a joiner behind it. -/
  | joinedPicture
  /-- A consonant, and what extends it. -/
  | consonant
  /-- The same with a linker in it. -/
  | linkedConsonant
  deriving DecidableEq

/-- The tail of a cluster that a character has been added to. -/
def Tail.add (t : Tail) : Kind → Tail
  | .flagLetter => if t = .flag then .plain else .flag
  | .pictograph => .picture
  | .consonant => .consonant
  | .extend => if t = .flag || t = .joinedPicture then .plain else t
  | .nonJoiner => if t = .picture then .picture else .plain
  | .linker =>
    match t with
    | .picture => .picture
    | .consonant | .linkedConsonant => .linkedConsonant
    | _ => .plain
  | .joiner =>
    match t with
    | .picture => .joinedPicture
    | .consonant | .linkedConsonant => t
    | _ => .plain
  | _ => .plain

/-- Whether a character of the second kind joins a cluster whose last one is of the first. -/
def joins (t : Tail) : Kind → Kind → Bool
  | .return, .feed => true
  | .return, _ | .feed, _ | .control, _ => false
  | _, .return | _, .feed | _, .control => false
  | .initial, .initial | .initial, .vowel | .initial, .openSyllable
  | .initial, .closedSyllable => true
  | .openSyllable, .vowel | .openSyllable, .final | .vowel, .vowel | .vowel, .final => true
  | .closedSyllable, .final | .final, .final => true
  | _, .extend | _, .joiner | _, .nonJoiner | _, .linker | _, .spacing => true
  | .leader, _ => true
  | _, .consonant => t = .linkedConsonant
  | _, .pictograph => t = .joinedPicture
  | _, .flagLetter => t = .flag
  | _, _ => false

/-- A text that has been cut so far: the clusters that are complete, and the characters of the one
that is not, all with the last one first. -/
structure Cut where
  clusters : List (List Char) := []
  chars : List Char := []
  last : Kind := .control
  tail : Tail := .plain

namespace Cut

/-- The clusters with the last one, which is complete where the text ends. -/
def closed (t : Cut) : List (List Char) :=
  if t.chars.isEmpty then t.clusters else t.chars.reverse :: t.clusters

def add (t : Cut) (c : Char) : Cut :=
  let k := kind c
  if joins t.tail t.last k then { t with chars := c :: t.chars, last := k, tail := t.tail.add k }
  else { clusters := t.closed, chars := [c], last := k, tail := Tail.plain.add k }

end Cut

def clusters (cs : List Char) : List (List Char) := (cs.foldl Cut.add {}).closed.reverse

end NestedShell.Text.Cluster

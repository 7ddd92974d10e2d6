import NestedShell.Host.Files

/-! What the processes of a script share: files, streams and signals. -/
namespace NestedShell.Host.Script

/-- What a descriptor leads to: a pipe that is being filled, or is being emptied, a place in a
file, or a device. -/
inductive Stream where
  | sink (text : String)
  | source (left : List Char)
  | file (place : Location) (offset : Nat) (isAppending : Bool)
  | null
  | full

/-- A signal that a process has been sent. -/
structure Sent where
  process : Nat
  signal : Nat
  deriving DecidableEq

structure World where
  streams : Array Stream := #[]
  files : List (Location × String) := []
  sent : List Sent := []
  nextProcess : Nat := 3

namespace World

/-- The file tree with the files that have been written. -/
def tree (w : World) : Tree := fun place =>
  match w.files.lookup place with
  | some text => some (.file text)
  | none => Host.tree place

/-- The names in a directory. -/
def namesIn (place : Location) (w : World) : List String :=
  let places := directories ++ links.map (·.1) ++ w.files.map (·.1)
  let inner := places.filterMap fun
    | name :: parent => if parent = place then some name else none
    | [] => none
  let given := if place = ["bin", "usr"] then programs.map (·.1)
    else if place = ["dev"] then devices.map (·.1)
    else if place = ["etc"] then ["passwd"]
    else []
  ["." , ".."] ++ (inner ++ given).eraseDups

def setFile (place : Location) (text : String) (w : World) : World :=
  { w with files := (place, text) :: w.files.filter (·.1 ≠ place) }

def fileText (place : Location) (w : World) : String :=
  match w.tree place with
  | some (.file text) => text
  | _ => ""

/-- Adds a stream; the number is its name from then on. -/
def add (s : Stream) (w : World) : Nat × World :=
  (w.streams.size, { w with streams := w.streams.push s })

def stream? (id : Nat) (w : World) : Option Stream := w.streams[id]?

def setStream (id : Nat) (s : Stream) (w : World) : World :=
  { w with streams := w.streams.setIfInBounds id s }

/-- A text with another one put over it from an offset on. -/
def overlay (text : String) (offset : Nat) (new : String) : String :=
  let cs := text.toList
  String.ofList (cs.take offset ++ List.replicate (offset - cs.length) '\x00' ++ new.toList ++
    cs.drop (offset + new.length))

/-- Writes a text to a stream. -/
def write (id : Nat) (text : String) (w : World) : Except SystemError World :=
  match w.stream? id with
  | some (.sink before) => .ok (w.setStream id (.sink (before ++ text)))
  | some (.file place offset isAppending) =>
    let before := w.fileText place
    let offset := if isAppending then before.length else offset
    .ok ((w.setFile place (overlay before offset text)).setStream id
      (.file place (offset + text.length) isAppending))
  | some .null => .ok w
  | some .full => if text.isEmpty then .ok w else .error .noSpace
  | some (.source _) => .error .badDescriptor
  | none => .error .badDescriptor

/-- What is still to be read from a stream. -/
def ahead (id : Nat) (w : World) : List Char :=
  match w.stream? id with
  | some (.source cs) => cs
  | some (.file place offset _) => (w.fileText place).toList.drop offset
  | _ => []

/-- Passes over characters of a stream. -/
def skip (id n : Nat) (w : World) : World :=
  match w.stream? id with
  | some (.source cs) => w.setStream id (.source (cs.drop n))
  | some (.file place offset isAppending) => w.setStream id (.file place (offset + n) isAppending)
  | _ => w

/-- What a stream has been filled with. -/
def filled (id : Nat) (w : World) : String :=
  match w.stream? id with
  | some (.sink text) => text
  | _ => ""

def send (process signal : Nat) (w : World) : World :=
  { w with sent := w.sent ++ [⟨process, signal⟩] }

end World

end NestedShell.Host.Script

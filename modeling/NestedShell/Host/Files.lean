import NestedShell.Text.Octets

/-! A small file tree, and how paths lead through it. Paths are texts whose characters stand for
bytes. -/
namespace NestedShell.Host

/-- Why the system refuses an operation. -/
inductive SystemError where
  | noEntry
  | listTooLong
  | badDescriptor
  | denied
  | notDirectory
  | isDirectory
  | noSpace
  | brokenPipe
  | nameTooLong
  | nulByte
  deriving DecidableEq

namespace SystemError

/-- The number of an error, where the system has one for it. -/
def number? : SystemError → Option Nat
  | noEntry => some 2
  | listTooLong => some 7
  | badDescriptor => some 9
  | denied => some 13
  | notDirectory => some 20
  | isDirectory => some 21
  | noSpace => some 28
  | brokenPipe => some 32
  | nameTooLong => some 36
  | nulByte => none

def text : SystemError → String
  | noEntry => "No such file or directory"
  | listTooLong => "Argument list too long"
  | badDescriptor => "Bad file descriptor"
  | denied => "Permission denied"
  | notDirectory => "Not a directory"
  | isDirectory => "Is a directory"
  | noSpace => "No space left on device"
  | brokenPipe => "Broken pipe"
  | nameTooLong => "File name too long"
  | nulByte => "nul byte found in provided data"

/-- The text with its number. -/
def message (e : SystemError) : String :=
  match e.number? with
  | some n => e.text ++ " (os error " ++ toString n ++ ")"
  | none => e.text

end SystemError

inductive Utility where
  | echo
  | printf
  | succeed
  | fail
  | script
  deriving DecidableEq

/-- Devices: what is written to one is lost, or refused, or goes to an open descriptor. -/
inductive Device where
  | null
  | full
  | descriptor (n : Nat)
  deriving DecidableEq

inductive Node where
  | directory
  | program (u : Utility)
  | device (d : Device)
  | file (contents : String)
  deriving DecidableEq

/-- A place in the tree: the names on the way from the root, the last one first. -/
abbrev Location := List String

/-- What there is at each place. -/
abbrev Tree := Location → Option Node

/-- The directory that relative paths start in. -/
def workingDirectory : Location := ["shell", "work"]

def directories : List Location :=
  [[], ["usr"], ["bin", "usr"], ["sbin", "usr"], ["lib", "usr"], ["local", "usr"],
   ["bin", "local", "usr"], ["share", "usr"], ["tmp"], ["etc"], ["dev"], ["fd", "dev"], ["home"],
   ["root"], ["var"], ["tmp", "var"], ["opt"], ["proc"], ["sys"], ["run"], ["mnt"], ["srv"],
   ["work"], workingDirectory]

/-- Links of the root to directories further down. -/
def links : List (Location × Location) :=
  [(["bin"], ["bin", "usr"]), (["sbin"], ["sbin", "usr"]), (["lib"], ["lib", "usr"])]

def programs : List (String × Utility) :=
  [("sh", .script), ("echo", .echo), ("printf", .printf), ("true", .succeed), ("false", .fail)]

def devices : List (String × Device) :=
  [("null", .null), ("full", .full), ("stdin", .descriptor 0), ("stdout", .descriptor 1),
   ("stderr", .descriptor 2)]

/-- The tree that every program finds. -/
def tree : Tree
  | [] => some .directory
  | name :: parent =>
    if directories.contains (name :: parent) then some .directory
    else if parent = ["bin", "usr"] then (programs.lookup name).map .program
    else if parent = ["dev"] then (devices.lookup name).map .device
    else if parent = ["fd", "dev"] then
      match name.toList with
      | [c] => if c.isDigit then some (.device (.descriptor (c.toNat - '0'.toNat))) else none
      | _ => none
    else if name :: parent = ["passwd", "etc"] then
      some (.file "root:x:0:0:root:/root:/bin/bash\n")
    else none

/-- No name is longer than this. -/
def mostNameLength : Nat := 255

/-- No path is as long as this. -/
def pathLimit : Nat := 4096

/-- One name further; only a directory leads anywhere, be it to itself or to its parent. -/
def enter (t : Tree) (here : Location) (name : String) : Except SystemError Location :=
  if t here ≠ some .directory then .error .notDirectory
  else if name.isEmpty || name = "." then .ok here
  else if name = ".." then .ok here.tail
  else if mostNameLength < name.length then .error .nameTooLong
  else
    let there := (links.lookup (name :: here)).getD (name :: here)
    if (t there).isSome then .ok there else .error .noEntry

/-- The pieces of a list between separators. -/
def pieces {α : Type} [DecidableEq α] (separator : α) : List α → List (List α)
  | [] => [[]]
  | c :: rest =>
    if c = separator then [] :: pieces separator rest
    else match pieces separator rest with
      | [] => [[c]]
      | piece :: more => (c :: piece) :: more

def names (path : String) : List String := (pieces '/' path.toList).map String.ofList

def isAbsolute (path : String) : Bool := path.toList.head? = some '/'

/-- Where a path leads from a directory. A slash at the end asks for a directory. -/
def resolve (t : Tree) (start : Location) (path : String) : Except SystemError Location :=
  if path.isEmpty || path.toList.contains '\x00' then .error .noEntry
  else if pathLimit ≤ path.length then .error .nameTooLong
  else (names path).foldlM (enter t) (if isAbsolute path then [] else start)

/-- What there is where a path leads. -/
def Tree.find (t : Tree) (start : Location) (path : String) : Except SystemError Node := do
  match t (← resolve t start path) with
  | some node => .ok node
  | none => .error .noEntry

/-- The part of a path up to its last name. -/
def parentPath (path : String) : String :=
  let parent := String.ofList (path.toList.reverse.dropWhile (· ≠ '/')).reverse
  if parent.isEmpty then "." else parent

/-- The place of a file to be written, whether it is there already or its directory is. No file has
a slash at the end of its path. -/
def place (t : Tree) (start : Location) (path : String) : Except SystemError Location := do
  let bare := String.ofList (path.toList.reverse.dropWhile (· = '/')).reverse
  if bare ≠ path then
    let _ ← resolve t start (parentPath bare)
    throw .isDirectory
  match resolve t start path, (names path).getLast? with
  | .error .noEntry, some name =>
    if name.isEmpty then throw .noEntry
    return name :: (← resolve t start (parentPath path))
  | result, _ => result

def isPresent (path : String) : Bool := (resolve tree workingDirectory path).toOption.isSome

/-- The bytes of a file to be read, where `input` is what the reader can read already. A program
is no text, so it holds a byte that is none. -/
def contents (input : List UInt8) (path : String) :
    Except SystemError (Except SystemError (List UInt8)) := do
  match ← Tree.find tree workingDirectory (Text.Octets.ofText path) with
  | .directory => .ok (.error .isDirectory)
  | .program _ => .ok (.ok [0x7F, 0xFF])
  | .device (.descriptor 0) => .ok (.ok input)
  | .device _ => .ok (.ok [])
  | .file text => .ok (.ok (Text.Octets.bytes text))

/-- The names of a path that matter; a single dot does only at the start. -/
def components (path : String) : List String :=
  match names path with
  | [] => []
  | first :: rest =>
    (first :: rest.filter (· ≠ ".")).filter (fun name => !name.isEmpty)

/-- A name in a directory; no directory means the working directory. -/
def inDirectory (directory name : String) : String :=
  if directory.isEmpty then name
  else if directory.toList.getLast? = some '/' then directory ++ name
  else directory ++ "/" ++ name

/-- The paths that a name has in the directories of a search path. -/
def candidates (search name : String) : List String :=
  (pieces ':' search.toList).map fun dir => inDirectory (String.ofList dir) name

def searchPath (search name : String) : Option String := (candidates search name).find? isPresent

/-- The path of a program. Absolute paths, paths that start at a dot and paths of several names
are taken as they are; a single name is looked for in the directories of `search`. -/
def locate (search name : String) : Option String :=
  let asGiven := if isPresent name then some name else none
  if isAbsolute name then asGiven
  else match components name with
    | [] => none
    | ["."] => asGiven
    | [single] => searchPath search single
    | _ => asGiven

/-- The program that a path leads to. -/
def programAt (path : String) : Except SystemError Utility := do
  match ← Tree.find tree workingDirectory path with
  | .program u => .ok u
  | _ => .error .denied

/-- The directories of a search path that programs are started from. One that is too long to be
part of a path counts as the working directory, or for nothing if it is the last. -/
def startDirectories (search : String) : List (List Char) :=
  let dirs := pieces ':' search.toList
  let kept (dir : List Char) : List Char := if dir.length < pathLimit then dir else []
  dirs.dropLast.map kept ++ dirs.getLast?.toList.filter (·.length < pathLimit)

/-- Tries paths until one is a program's. Where there is nothing the search goes on, and also where
there is no leave, which is what it then tells of; any other error ends it. -/
def firstProgram (e : SystemError) : List String → Except SystemError Utility
  | [] => .error e
  | path :: rest =>
    match programAt path with
    | .ok u => .ok u
    | .error .denied => firstProgram .denied rest
    | .error other =>
      if other = .noEntry || other = .notDirectory then
        firstProgram (if e = .denied then e else other) rest
      else .error other

/-- The program that is started under a name: one without slashes is looked for once more, where
`search` says or, for want of that, in two directories. -/
def started (search : Option String) (name : String) : Except SystemError Utility :=
  if name.toList.contains '/' then programAt name
  else
    let directories := startDirectories (search.getD "/bin:/usr/bin")
    firstProgram .noEntry (directories.map fun dir =>
      if dir.isEmpty then name else String.ofList dir ++ "/" ++ name)

/-- No single text that a program is given is longer than this, with the byte that ends it. -/
def longestText : Nat := 131072

/-- What texts and the addresses of all of them may take. -/
def textSpace : Nat := 2097152

/-- A program is given more text than it can be. -/
def isTooLong (path : String) (words environment : List String) : Bool :=
  let sizes := (words ++ environment).map (·.length + 1)
  sizes.any (longestText < ·) ||
    textSpace < sizes.foldl (· + ·) (path.length + 1 + 8 * sizes.length)

end NestedShell.Host

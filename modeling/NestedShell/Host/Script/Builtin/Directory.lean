import NestedShell.Host.Script.Builtin

/-! The builtins `cd` and `pwd`. -/
namespace NestedShell.Host.Script.Directory

/-- What an absolute path starts with: a slash, or two but no more. -/
def rootOf (path : String) : String :=
  match path.toList with
  | '/' :: '/' :: '/' :: _ => "/"
  | '/' :: '/' :: _ => "//"
  | _ => "/"

/-- One name further along a path, by the names alone. The last name comes first. -/
def follow (before : List String) (name : String) : List String :=
  if name.isEmpty || name = "." then before
  else if name = ".." then before.tail
  else name :: before

/-- A path taken from a directory, without dots and needless slashes. -/
def joined (here path : String) : String :=
  let start := if isAbsolute path then [] else ((names here).filter (!·.isEmpty)).reverse
  let root := rootOf (if isAbsolute path then path else here)
  root ++ String.intercalate "/" ((names path).foldl follow start).reverse

/-- The path of a place, without links. -/
def pathOf (place : Location) : String := "/" ++ String.intercalate "/" place.reverse

def isDirectory (s : Shell) (path : String) : Bool :=
  (s.world.tree.find s.directory path).toOption = some .directory

/-- The options `-L` and `-P`, of which the last one counts: whether links are to be followed. -/
def readLinkOptions (words : List String) : Act (Bool × List String) := do
  let (options, words) ← readOptions "LP" words
  return (options.getLast?.any (·.1 = 'P'), words)

/-- Goes to a directory; the answer says whether there is one. -/
def enterDirectory (isPhysical : Bool) (path : String) : Act Bool := do
  let s ← get
  let path := if isPhysical then path else joined s.directoryPath path
  match resolve s.world.tree s.directory path with
  | .error _ => return false
  | .ok there =>
    if s.world.tree there ≠ some .directory then return false
    let shown := if isPhysical then pathOf there else path
    set { s with directory := there }
    setVariable "OLDPWD" (some s.directoryPath) true false
    modify fun s => { s with directoryPath := shown }
    setVariable "PWD" (some shown) true false
    modify fun s => { s with found := s.found.map ({ · with isDoubtful := true }) }
    return true

/-- A path that is not looked for in other directories. -/
def isRooted (path : String) : Bool :=
  isAbsolute path || ["", ".", ".."].contains ((names path).headD "")

/-- The directory that a search path has for a name, and whether to say which one it is. -/
def searched (s : Shell) (name : String) : Option (String × Bool) :=
  match s.get? "CDPATH" with
  | none => none
  | some search =>
    let found := (pieces ':' search.toList).find? fun dir => isDirectory s (pathIn dir name)
    found.map fun dir => (pathIn dir name, !dir.isEmpty)

def cd (words : List String) : Act Nat := do
  let (isPhysical, words) ← readLinkOptions words
  let s ← get
  let (path, isBack) := match words.head? with
    | none => (s.value "HOME", false)
    | some "-" => (s.value "OLDPWD", true)
    | some path => (path, false)
  let name := if path.isEmpty then "." else path
  let (place, isShown) := if path ≠ "" && isRooted path then (path, isBack)
    else match searched s name with
      | some (place, isShown) => (place, isShown || isBack)
      | none => (name, isBack)
  unless ← enterDirectory isPhysical place do fail ("can't cd to " ++ name)
  if isShown then
    let s ← get
    sayLine s.directoryPath
  return 0

def pwd (words : List String) : Act Nat := do
  let (isPhysical, _) ← readLinkOptions words
  let s ← get
  sayLine (if isPhysical then pathOf s.directory else s.directoryPath)
  return 0

end NestedShell.Host.Script.Directory

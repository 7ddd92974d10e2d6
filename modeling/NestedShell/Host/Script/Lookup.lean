import NestedShell.Host.Script.Builtin
import NestedShell.Host.Script.Reader

/-! What the name of a command stands for. -/
namespace NestedShell.Host

/-- What a message says of an error in running a program. -/
def SystemError.whenRun (e : SystemError) : String :=
  if e = .noEntry || e = .notDirectory then "not found" else e.text

/-- The status of a command that cannot be run. -/
def SystemError.status (e : SystemError) : Nat :=
  if [.noEntry, .notDirectory, .nameTooLong].contains e then 127 else 126

namespace Script

/-- Builtins whose errors end a script. -/
def isSpecial (name : String) : Bool := name = "local" || specialNames.contains name

def otherNames : List String :=
  ["[", "alias", "bg", "cd", "chdir", "command", "echo", "false", "fg", "getopts", "hash", "jobs",
   "kill", "printf", "pwd", "read", "test", "true", "type", "ulimit", "umask", "unalias", "wait"]

def isBuiltin (name : String) : Bool := isSpecial name || otherNames.contains name

/-- Builtins whose assignments are not cut into fields. -/
def isAssigning (name : String) : Bool := ["alias", "export", "readonly", "local"].contains name

inductive Meaning where
  | function (body : Command)
  | builtin
  /-- A path, and whether it has been looked for. -/
  | program (path : String) (isSearched : Bool)
  | none (e : SystemError)

/-- Where scripts look for programs when no variable tells. -/
def defaultSearch : String := "/usr/local/sbin:/usr/local/bin:/usr/sbin:/usr/bin:/sbin:/bin"

/-- The file that a search path has for a name. -/
def searchFile (s : Shell) (search name : String) : Except SystemError String :=
  let look (e : SystemError) (path : String) : Except SystemError SystemError :=
    match s.world.tree.find s.directory path with
    | .ok (.program _) | .ok (.file _) => .error .noEntry
    | .ok _ => .ok .denied
    | .error .noEntry | .error .notDirectory => .ok e
    | .error other => .ok other
  let rec go (e : SystemError) : List String → Except SystemError String
    | [] => .error e
    | path :: rest =>
      match look e path with
      | .error _ => .ok path
      | .ok e => go e rest
  go .noEntry (pathsIn search name)

/-- What a name stands for: a path as it is, a function, a builtin, or a program. -/
def meaning (s : Shell) (skipsFunctions : Bool) (search name : String) : Meaning :=
  if name.toList.contains '/' then .program name false
  else
    match if skipsFunctions then none else s.functions.lookup name with
    | some body => .function body
    | none =>
      if isBuiltin name then .builtin
      else match searchFile s search name with
        | .ok path => .program path true
        | .error e => .none e

/-- Keeps where a program has been found. -/
def remember (name path : String) : Act Unit := modify fun s =>
  if s.found.any (·.name = name) then
    { s with found := s.found.map fun f => if f.name = name then { name, path } else f }
  else { s with found := s.found ++ [{ name, path }] }

/-- The program to run by a path. -/
def program (s : Shell) (path : String) : Except SystemError Utility := do
  match ← s.world.tree.find s.directory path with
  | .program u => .ok u
  | _ => .error .denied

/-- The program to run by a name: of those that a search path has, the first that can be run. -/
def searchProgram (s : Shell) (search name : String) : Except SystemError Utility :=
  if name.toList.contains '/' then program s name
  else
    let rec go (e : SystemError) : List String → Except SystemError Utility
      | [] => .error e
      | path :: rest =>
        match program s path with
        | .ok u => .ok u
        | .error other =>
          go (if other = .noEntry || other = .notDirectory then e else other) rest
    go .noEntry (pathsIn search name)

namespace Lookup

/-- Says what a name stands for; a search path of its own leaves aside what has been found. -/
def describe (isVerbose : Bool) (search : Option String) (name : String) : Act Nat := do
  let s ← get
  let found := if search.isSome then none else s.found.find? (·.name = name)
  let tell (long short : String) : Act Nat := do
    sayLine (if isVerbose then name ++ long else short)
    return 0
  let missing : Act Nat := do
    if isVerbose then sayLine (name ++ ": not found")
    return 127
  if Token.keywords.contains name then tell " is a shell keyword" name
  else match s.aliases.lookup name with
    | some text => tell (" is an alias for " ++ text) ("alias " ++ name ++ "=" ++ singleQuoted text)
    | none =>
      match meaning s false (search.getD (s.value "PATH")) name with
      | .function _ => tell " is a shell function" name
      | .builtin =>
        tell (if isSpecial name then " is a special shell builtin" else " is a shell builtin") name
      | .program path isSearched =>
        if isSearched || (s.world.tree.find s.directory path).toOption.isSome then
          match found with
          | some f => tell (" is a tracked alias for " ++ f.path) f.path
          | none => tell (" is " ++ path) path
        else missing
      | .none _ => missing

def type (words : List String) : Act Nat := do
  let results ← words.mapM (describe true none)
  return if results.all (· = 0) then 0 else 127

/-- The builtin `command` where it is not to run anything. -/
def command (words : List String) : Act Nat := do
  let (options, words) ← readOptions "pvV" words
  let letters := options.map (·.1)
  let search := if letters.contains 'p' then some defaultSearch else none
  match words with
  | name :: _ =>
    if letters.contains 'v' || letters.contains 'V' then
      describe (letters.contains 'V') search name
    else return 0
  | [] => return 0

/-- The place of a program that has been found in the list. -/
def orderKey (name : String) : Nat := (nameNumber name &&& 0x7FFF) % 31

def hash (words : List String) : Act Nat := do
  let (options, words) ← readOptions "r" words
  if !options.isEmpty then
    modify fun s => { s with found := [] }
    return 0
  let s ← get
  if words.isEmpty then
    (s.found.mergeSort fun a b => orderKey a.name ≤ orderKey b.name).forM fun f =>
      sayLine (f.path ++ (if f.isDoubtful then "*" else ""))
  let results ← words.mapM fun name => do
    let s ← get
    match meaning s false (s.value "PATH") name with
    | .none e =>
      warn (name ++ ": " ++ e.whenRun)
      return false
    | .program path true =>
      remember name path
      return true
    | _ => return true
  return if results.all id then 0 else 1

end Lookup

end Script

end NestedShell.Host

import NestedShell.Environment
import NestedShell.Host
import NestedShell.Host.Numeral
import NestedShell.Host.Script.Source
import NestedShell.Host.Script.World

/-! The state of a process that runs a script, and actions upon it. -/
namespace NestedShell.Host.Script

structure Variable where
  value : Option String := none
  isExported : Bool := false
  isFixed : Bool := false

/-- Ways to leave loops and functions. -/
inductive Skip where
  | leave
  | again
  | return
  | returnLast
  deriving DecidableEq

/-- What a scope has hidden: variables as they were before, and options. -/
structure Scope where
  hidden : List (String × Option Variable) := []
  options : Option (List Char) := none

/-- How a process ends that runs out of what it may use. -/
def exhaustion : Ending := .killed 11

/-- What a script knows of a job: that it was started, that it has ended by now, or how. -/
inductive JobState where
  | running
  | ended
  | known
  deriving DecidableEq

/-- A command in the list of jobs, and how it ends. -/
structure Job where
  /-- Its place in the list, counted from one. -/
  number : Nat
  process : Nat
  ending : Ending
  state : JobState := .running

/-- Time has passed, in which jobs have ended. -/
def Job.settle (job : Job) : Job :=
  if job.state = .running then { job with state := .ended } else job

/-- The first number that a new job can have: one that no job has, or only one that has been waited
for. The number bounds how many are tried. -/
def freeNumber (jobs : List Job) : Nat → Nat → Nat
  | 0, n => n
  | limit + 1, n =>
    let isTaken := jobs.any fun job => job.number = n && job.state ≠ .known
    if isTaken then freeNumber jobs limit (n + 1) else n

/-- A program that has been found, and where; in another directory it may be elsewhere. -/
structure Finding where
  name : String
  path : String
  isDoubtful : Bool := false

/-- What a signal does in place of ending the process; an empty text does nothing. -/
abbrev Traps := List (Nat × String)

structure Shell where
  world : World := {}
  name : String
  arguments : List String := []
  vars : Ordered Variable := {}
  scopes : List Scope := []
  functions : List (String × Command) := []
  aliases : List (String × String) := []
  options : List Char := []
  descriptors : List (Nat × Nat) := []
  directory : Location := workingDirectory
  /-- The path by which the directory was reached. -/
  directoryPath : String := "/work/shell"
  mask : Nat := 0o022
  status : Nat := 0
  /-- The status of the last substitution within the words of a command. -/
  outputStatus : Nat := 0
  /-- The status before a trap. -/
  savedStatus : Option Nat := none
  line : Nat := 1
  /-- The builtin that is running. -/
  builtin : Option String := none
  loops : Nat := 0
  /-- How many calls of functions are not over. -/
  functionDepth : Nat := 0
  skip : Option Skip := none
  skipCount : Nat := 0
  traps : Traps := []
  /-- Signals that were ignored when the script was started. -/
  ignored : List Nat := []
  /-- Signals whose traps are still to be run. -/
  caught : List Nat := []
  /-- The process of the script, this one, and those that wait for it. -/
  root : Nat := 2
  process : Nat := 2
  ancestors : List Nat := [1]
  lastBackground : Option Nat := none
  jobs : List Job := []
  /-- The word that `getopts` reads next, and how much of the one before it has been read. -/
  optionIndex : Nat := 1
  optionOffset : Option Nat := none
  /-- What descriptors led to before redirections that are to end. -/
  redirected : List (List (Nat × Option Nat)) := []
  limits : List (Char × String) := []
  isTracing : Bool := false
  found : List Finding := []
  /-- What the builtin that is running has written so far. -/
  out : String := ""
  documents : List (Nat × Word) := []
  nextDocument : Nat := 0

/-- Why a process stops. -/
inductive Stop where
  /-- It has been told to. -/
  | exit
  | error
  /-- There is nothing left to do. -/
  | over
  /-- It has become another program, or has been killed. -/
  | ended (ending : Ending)
  | exhausted

abbrev Act := ExceptT Stop (StateM Shell)

namespace Shell

def has (option : Char) (s : Shell) : Bool := s.options.contains option

def stream? (descriptor : Nat) (s : Shell) : Option Nat := s.descriptors.lookup descriptor

def setDescriptor (descriptor : Nat) (stream : Option Nat) (s : Shell) : Shell :=
  let others := s.descriptors.filter (·.1 ≠ descriptor)
  { s with descriptors := stream.toList.map (descriptor, ·) ++ others }

def get? (name : String) (s : Shell) : Option String := (s.vars.get? name).bind (·.value)

def value (name : String) (s : Shell) : String := (s.get? name).getD ""

/-- The environment for programs. -/
def environment (s : Shell) : List (String × String) :=
  s.vars.entries.filterMap fun (name, v) =>
    if v.isExported then v.value.map (name, ·) else none

end Shell

/-- Runs an action that may stop the process, and goes on all the same. -/
def attempt {α : Type} (act : Act α) : Act (Except Stop α) := ExceptT.mk (Except.ok <$> act.run)

/-- Writes to a descriptor; the answer says whether that worked. -/
def writeTo (descriptor : Nat) (text : String) : Act Bool := do
  let s ← get
  match s.stream? descriptor with
  | none => return text.isEmpty
  | some stream =>
    match s.world.write stream text with
    | .ok world =>
      set { s with world }
      return true
    | .error _ => return false

/-- The start of a message: the script, the line and the builtin. -/
def messageHead (s : Shell) : String :=
  s.name ++ ": " ++ toString s.line ++ ": " ++ (s.builtin.map (· ++ ": ")).getD ""

/-- Writes a message to the error output. -/
def warn (message : String) : Act Unit := do
  let _ ← writeTo 2 (messageHead (← get) ++ message ++ "\n")

def setStatus (status : Nat) : Act Unit := modify fun s => { s with status }

/-- Ends the process, or the builtin that is running, with a message. -/
def fail {α : Type} (message : String) : Act α := do
  warn message
  setStatus 2
  throw .error

/-- A decimal number with blanks around it. -/
def wholeDecimal? (text : List Char) : Option Int :=
  let (isNegative, cs) := splitSign (text.dropWhile isSpace)
  let (digits, rest) := digitsIn 10 cs.length cs
  let n : Int := valueIn 10 digits
  let n := if isNegative then -n else n
  if digits.isEmpty || !rest.all isSpace || n < -9223372036854775808 ||
    9223372036854775807 < n then none else some n

def readInteger (word : String) : Act Int := do
  match wholeDecimal? word.toList with
  | some n => return n
  | none => fail ("Illegal number: " ++ word)

def mostCount : Int := 2147483647

/-- A decimal number that is not negative. -/
def readCount (word : String) : Act Nat := do
  let n ← readInteger word
  if n < 0 || mostCount < n then fail ("Illegal number: " ++ word)
  return n.toNat

/-- The position of `getopts` goes with its variable, and what has been found with the path. -/
def followVariable (name : String) (value : Option String) : Act Unit := do
  if name = "OPTIND" then
    let index ← readCount (value.getD "")
    modify fun s => { s with optionIndex := max index 1, optionOffset := none }
  else if name = "PATH" then modify fun s => { s with found := [] }

/-- Variables that stay marked as they are when their value is taken away. -/
def lastingNames : List String :=
  ["IFS", "MAIL", "MAILPATH", "OPTIND", "PATH", "PS1", "PS2", "PS4"]

/-- Sets a variable or takes its value away; one that is fixed stays as it is. -/
def setVariable (name : String) (value : Option String) (isExported isFixed : Bool) : Act Unit := do
  let s ← get
  let old := (s.vars.get? name).getD {}
  if old.isFixed then fail (name ++ ": is read only")
  followVariable name value
  let isExported := isExported || s.has 'a'
  let isKept := value.isSome || isExported || isFixed || lastingNames.contains name
  let v : Variable := { value, isExported := old.isExported || isExported, isFixed }
  modify fun s =>
    { s with vars := if isKept then s.vars.put name v else s.vars.erase name }

/-- Sets a variable whose name may be none. -/
def assign (name : String) (value : Option String) (isExported isFixed : Bool) : Act Unit := do
  if !isName name.toList then fail (name ++ ": bad variable name")
  setVariable name value isExported isFixed

/-- The name and the value of an assignment. -/
def splitAssignment (text : String) : String × String :=
  (String.ofList (text.toList.takeWhile (· ≠ '=')),
    String.ofList ((text.toList.dropWhile (· ≠ '=')).drop 1))

/-- Hides a variable, or the options, in the innermost scope, where it keeps its value until
another one is given. -/
def hide (text : String) (isExported : Bool) : Act Unit := do
  let s ← get
  match s.scopes with
  | [] => fail "not in a function"
  | scope :: outer =>
    if text = "-" then
      let scope := { scope with options := some (scope.options.getD s.options) }
      set { s with scopes := scope :: outer }
    else
      let (name, value) := splitAssignment text
      let old := s.vars.get? name
      set { s with scopes := { scope with hidden := (name, old) :: scope.hidden } :: outer }
      if text.toList.contains '=' then setVariable name (some value) isExported false
      else if old.isNone && !isName name.toList then fail (name ++ ": bad variable name")

/-- Ends the innermost scope: what it has hidden comes back. -/
def endScope : Act Unit := modify fun s =>
  match s.scopes with
  | [] => s
  | scope :: scopes =>
    let vars := scope.hidden.foldl (fun vars (name, old) =>
      match old with
      | some v => vars.put name v
      | none => vars.erase name) s.vars
    { s with scopes, vars, options := scope.options.getD s.options }

/-- Ends all scopes but the first `depth` of them. -/
def endScopes (depth : Nat) : Act Unit := do
  let s ← get
  (List.replicate (s.scopes.length - depth) ()).forM fun _ => endScope

/-- The names that signals have, from 1 on; an empty one is none. -/
def signalNames : List String :=
  ["HUP", "INT", "QUIT", "ILL", "TRAP", "ABRT", "BUS", "FPE", "KILL", "USR1", "SEGV", "USR2",
   "PIPE", "ALRM", "TERM", "", "CHLD", "CONT", "STOP", "TSTP", "TTIN", "TTOU", "URG", "XCPU",
   "XFSZ", "VTALRM", "PROF", "WINCH", "IO", "PWR", "SYS"]

def mostSignal : Nat := 64

/-- The signals that have no meaning of their own: the first of them, and the last of those that
are counted from the first. -/
def firstFree : Nat := 34

def lastCounted : Nat := 49

/-- The name of a signal; one without a name goes by its number. -/
def signalName (n : Nat) : String :=
  if n = 0 then "EXIT"
  else if n = firstFree then "RTMIN"
  else if n = mostSignal then "RTMAX"
  else if lastCounted < n then "RTMAX-" ++ toString (mostSignal - n)
  else if firstFree < n then "RTMIN+" ++ toString (n - firstFree)
  else ((signalNames[n - 1]?).filter (!·.isEmpty)).getD (toString n)

/-- The number of a signal; 0 is the end of the process. -/
def signal? (word : String) : Option Nat :=
  let cs := word.toList
  if !cs.isEmpty && cs.all Char.isDigit then
    if valueIn 10 cs ≤ mostSignal then some (valueIn 10 cs) else none
  else
    let upper := String.ofList (cs.map Char.toUpper)
    (List.range (mostSignal + 1)).find? (signalName · = upper)

/-- Signals that do nothing where no trap is set. -/
def isHarmless (signal : Nat) : Bool := [17, 18, 19, 20, 21, 22, 23, 28].contains signal

/-- What a signal does to this process. -/
def takeSignal (signal : Nat) : Act Unit := do
  let s ← get
  if s.ignored.contains signal then return
  match (if signal = 9 then none else s.traps.lookup signal) with
  | some action =>
    if action.isEmpty || s.caught.contains signal then return
    else set { s with caught := s.caught ++ [signal] }
  | none => if isHarmless signal then return else throw (.ended (.killed signal))

/-- Takes the signals that have been sent to this process. -/
def takeSignals : Act Unit := do
  let s ← get
  let mine := s.world.sent.filter (·.process = s.process)
  set { s with world := { s.world with sent := s.world.sent.filter (·.process ≠ s.process) } }
  mine.forM fun sent => takeSignal sent.signal

end NestedShell.Host.Script

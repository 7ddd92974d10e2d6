import NestedShell.Host.Echo
import NestedShell.Host.Printf.Utility
import NestedShell.Host.Script.Builtin.Directory
import NestedShell.Host.Script.Builtin.Variables
import NestedShell.Host.Script.Lookup
import NestedShell.Host.Script.Process

/-! How a process starts to be a program, be it one that runs a script. -/
namespace NestedShell.Host.Script

/-- The variables that a script has when it starts, some of them whatever its caller has set. -/
def setFirst (environment : List (String × String)) : Act Unit := do
  let s ← get
  let put (isExported : Bool) (entry : String × String) : Act Unit :=
    setVariable entry.1 (some entry.2) isExported false
  [("PATH", defaultSearch), ("PS1", "# "), ("PS2", "> "), ("PS4", "+ ")].forM (put false)
  (environment.filter fun entry => isName entry.1.toList).forM (put true)
  let parent := s.ancestors.headD 0
  [("IFS", " \t\n"), ("OPTIND", "1"), ("PPID", toString parent)].forM (put false)
  let given := ((environment.lookup "PWD").filter fun path =>
    isAbsolute path && (resolve s.world.tree s.directory path).toOption = some s.directory)
  let path := given.getD (Directory.pathOf s.directory)
  modify fun s => { s with directoryPath := path }
  put true ("PWD", path)

/-- Sets the name of a script and its arguments. -/
def setNames : List String → Act Unit
  | [] => return
  | name :: words => modify fun s => { s with name, arguments := words }

/-- Runs all that is left of the input. -/
def runInput (run : Runner) : Act Nat := do
  let s ← get
  let text := ((s.stream? 0).map s.world.ahead).getD []
  set { s with world := ((s.stream? 0).map (s.world.skip · text.length)).getD s.world }
  runText run {} (String.ofList text)

/-- The text of a file. -/
def readFile (path : String) : Act String := do
  let stream ← openFile .read path
  let s ← get
  return String.ofList (s.world.ahead stream)

/-- Runs what the words of a script's start ask for. -/
def runScript (run : Runner) (environment : List (String × String)) (words : List String) :
    Act Nat := do
  setFirst environment
  let asked ← Variables.setOptions true words
  let _ ← flush 0
  if asked.hasCommand then
    match asked.words with
    | [] => fail "-c requires an argument"
    | text :: words =>
      setNames words
      let s ← get
      let readsInput := s.has 's'
      let status ← runText run { isLast := !readsInput } text
      if readsInput then runInput run else return status
  else
    let s ← get
    match asked.words with
    | [] =>
      Variables.putOption 's' true
      runInput run
    | path :: words =>
      if s.has 's' then
        Variables.setArguments (path :: words)
        runInput run
      else
        let text ← readFile path
        setNames (path :: words)
        runText run {} text

/-- The state that a script starts with in place of this one. -/
def Shell.fresh (s : Shell) (name : String) : Shell :=
  { name
    world := s.world
    descriptors := s.descriptors
    directory := s.directory
    mask := s.mask
    limits := s.limits
    root := s.process
    process := s.process
    ancestors := s.ancestors
    ignored := s.ignored ++ (s.traps.filter (·.2.isEmpty)).map (·.1)
    line := 0 }

/-- Writes what a utility leaves behind. -/
def deliver (name : String) (w : Written) : Act Ending := do
  let _ ← writeTo 2 w.err
  let s ← get
  let result := match s.stream? 1 with
    | some stream => s.world.write stream w.out
    | none => if w.out.isEmpty then .ok s.world else .error .badDescriptor
  match result with
  | .ok world =>
    set { s with world }
    return .exited w.code
  | .error e =>
    let _ ← writeTo 2 (name ++ ": write error: " ++ e.text ++ "\n")
    return .exited 1

/-- Texts are read by characters, not by bytes, where the language of the caller asks for it. -/
def knowsText (environment : List (String × String)) : Bool :=
  let given := ["LC_ALL", "LC_CTYPE", "LANG"].filterMap fun name =>
    (environment.lookup name).filter (!·.isEmpty)
  given.head?.any ["C.UTF-8", "C.utf8"].contains

/-- Runs a program in this process, in place of what ran there before. -/
def becomeProgram (run : Runner) (u : Utility) (environment : List (String × String))
    (name : String) (words : List String) : Act Ending := do
  let s ← get
  let isStrict := (environment.lookup "POSIXLY_CORRECT").isSome
  match u with
  | .succeed => return .exited 0
  | .fail => return .exited 1
  | .echo => deliver name { out := Echo.run isStrict words }
  | .printf => deliver name (Printf.Utility.run name (knowsText environment) isStrict words)
  | .script =>
    let body := runProcess run (runScript run environment words)
    let (ending, left) := body.run.run (s.fresh name)
    set { s with world := left.world }
    return match ending with
      | .ok ending => ending
      | .error _ => exhaustion

/-- Gives this process to a program, or tells why that cannot be. -/
def launch (run : Runner) (u : Except SystemError Utility) (path name : String)
    (words : List String) : Act Nat := do
  let s ← get
  let texts := s.environment.map fun (name, value) => name ++ "=" ++ value
  let u := if isTooLong path (name :: words) texts then u.bind fun _ => .error .listTooLong else u
  match u with
  | .ok u => throw (.ended (← becomeProgram run u s.environment name words))
  | .error e =>
    warn (name ++ ": " ++ e.whenRun)
    setStatus e.status
    throw .over

end NestedShell.Host.Script

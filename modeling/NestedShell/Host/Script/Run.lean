import NestedShell.Host.Script.Builtin.Aliases
import NestedShell.Host.Script.Builtin.Limits
import NestedShell.Host.Script.Builtin.Read
import NestedShell.Host.Script.Builtin.Test
import NestedShell.Host.Script.Builtin.Text
import NestedShell.Host.Script.Start

/-! Running commands. -/
namespace NestedShell.Host.Script

/-- Loops are left, or gone on with, or functions are. -/
def leaveLoops (skip : Skip) (words : List String) : Act Nat := do
  let n ← match words with
    | [] => pure 1
    | word :: _ => do
      let n ← readCount word
      if n = 0 then fail ("Illegal number: " ++ word)
      pure n
  let s ← get
  let n := min n s.loops
  if 0 < n then set { s with skip := some skip, skipCount := n }
  return 0

def returnWith (words : List String) : Act Nat := do
  match words with
  | [] =>
    modify fun s => { s with skip := some .returnLast }
    let s ← get
    return s.status
  | word :: _ =>
    let status ← readCount word
    modify fun s => { s with skip := some .return }
    return status

def exitWith (words : List String) : Act Nat := do
  match words with
  | [] => throw .exit
  | word :: _ =>
    let status ← readCount word
    modify fun s => { s with savedStatus := some status }
    throw .exit

/-- Gives this process to a program. -/
def execute (run : Runner) (words : List String) : Act Nat := do
  match words with
  | [] => return 0
  | name :: words =>
    let s ← get
    launch run (searchProgram s (s.value "PATH") name) name name words

/-- The path of a script to be read: a name without slashes is looked for. -/
def scriptPath (name : String) : Act String := do
  if name.toList.contains '/' then return name
  let s ← get
  let isText (path : String) : Bool :=
    match s.world.tree.find s.directory path with
    | .ok (.file _) | .ok (.program _) => true
    | _ => false
  match (pathsIn (s.value "PATH") name).find? isText with
  | some path => return path
  | none => fail (name ++ ": not found")

/-- Runs a script in this process. -/
def source (run : Runner) (words : List String) : Act Nat := do
  match ← withoutOptions words with
  | [] => return 0
  | name :: _ =>
    let path ← scriptPath name
    let text ← readFile path
    modify fun s => { s with builtin := some path }
    let status ← runText run {} text
    modify fun s => { s with skip := s.skip.filter fun k => k ≠ .return && k ≠ .returnLast }
    return status

def runBuiltin (run : Runner) (standing : Standing) (name : String) (words : List String) :
    Act Nat :=
  match name with
  | ":" | "true" => return 0
  | "false" => return 1
  | "." => source run words
  | "[" => Test.bracketBuiltin words
  | "alias" => Aliases.define words
  | "bg" | "fg" => Signals.resume words
  | "break" => leaveLoops .leave words
  | "cd" | "chdir" => Directory.cd words
  | "command" => Lookup.command words
  | "continue" => leaveLoops .again words
  | "echo" => Text.echo words
  | "eval" =>
    if words.isEmpty then return 0
    else runText run { isTested := standing.isTested } (joinWords words)
  | "exec" => execute run words
  | "exit" => exitWith words
  | "export" => Variables.export' words
  | "getopts" => Variables.getopts words
  | "hash" => Lookup.hash words
  | "jobs" => Signals.jobs words
  | "kill" => Signals.kill words
  | "local" => Variables.local' words
  | "printf" => Text.printf words
  | "pwd" => Directory.pwd words
  | "read" => Read.read words
  | "readonly" => Variables.readonly words
  | "return" => returnWith words
  | "set" => Variables.set' words
  | "shift" => Variables.shift words
  | "test" => Test.testBuiltin words
  | "times" => Limits.times
  | "trap" => Signals.trap words
  | "type" => Lookup.type words
  | "ulimit" => Limits.ulimit words
  | "umask" => Limits.umask words
  | "unalias" => Aliases.remove words
  | "unset" => Variables.unset words
  | "wait" => Signals.wait words
  | _ => return 127

/-- Words of a command that have been expanded, and those that have not. -/
structure Opening where
  words : List String := []
  rest : List Word

/-- Expands words until there are more than `n`. -/
def openUpTo (capture : Command → Act String) (n : Nat) : List String → List Word → Act Opening
  | words, [] => return { words, rest := [] }
  | words, w :: rest => do
    if n < words.length then return { words, rest := w :: rest }
    openUpTo capture n (words ++ (← expandFields capture w)) rest

/-- The command that the options of `command` stand before: how many words to pass over, and
whether programs are to be looked for where they always are. -/
def behindOptions (capture : Command → Act String) :
    Nat → Nat → Bool → Opening → Act (Opening × Option (Nat × Bool))
  | 0, _, _, o => return (o, none)
  | limit + 1, n, isStandard, o => do
    let o ← openUpTo capture n o.words o.rest
    match o.words[n]? with
    | none => return (o, none)
    | some word =>
      match word.toList with
      | ['-', '-'] =>
        let o ← openUpTo capture (n + 1) o.words o.rest
        return (o, if n + 1 < o.words.length then some (n + 1, isStandard) else none)
      | '-' :: c :: cs =>
        if (c :: cs).all (· = 'p') then behindOptions capture limit (n + 1) true o
        else return (o, none)
      | _ => return (o, some (n, isStandard))

/-- A command whose words have been expanded as far as need be to tell what it is. -/
structure Call where
  /-- All words, of which the first ones may only say how the others are meant. -/
  opening : Opening
  passed : Nat := 0
  skipsFunctions : Bool := false
  isStandard : Bool := false
  /-- Errors of the command end the script. -/
  isSpecial : Bool := false
  /-- Assignments in front of it hold for it alone. -/
  isScoped : Bool := true
  isAssigning : Bool := false
  isExec : Bool := false

/-- What a name stands for that is not looked for among programs. -/
def builtinName (s : Shell) (skipsFunctions : Bool) (name : String) : Bool :=
  isBuiltin name && (skipsFunctions || !s.functions.any (·.1 = name))

/-- Tells what a command is, looking behind `command` as often as it stands there. -/
def callOf (capture : Command → Act String) : Nat → Call → Act Call
  | 0, call => return call
  | limit + 1, call => do
    let s ← get
    let name := (call.opening.words[call.passed]?).getD ""
    if !builtinName s call.skipsFunctions name then
      return { call with isAssigning := false, isExec := false, isScoped := true }
    let isFirst := call.passed = 0
    let call := { call with
      isSpecial := if isFirst then isSpecial name else call.isSpecial
      isScoped := !isFirst || !isSpecial name
      isAssigning := isAssigning name
      isExec := name = "exec" }
    if name ≠ "command" then return call
    let (opening, behind) ← behindOptions capture mostNameLength (call.passed + 1)
      call.isStandard call.opening
    match behind with
    | none => return { call with opening }
    | some (passed, isStandard) =>
      callOf capture limit { call with opening, passed, isStandard, skipsFunctions := true }

/-- Expands the words that are left of a command. -/
def expandRest (capture : Command → Act String) (isAssigning : Bool) :
    List Word → Act (List String)
  | [] => return []
  | w :: rest => do
    let fields ←
      if isAssigning && isAssignment w then do
        pure [← expandText capture { tilde := false, assignTilde := true } w]
      else expandFields capture w
    return fields ++ (← expandRest capture isAssigning rest)

/-- Writes what is run, behind a prompt of its own. -/
def trace (capture : Command → Act String) (errors : Option Nat) (words : List String) :
    Act Unit := do
  let s ← get
  if s.has 'x' && !s.isTracing then
    set { s with isTracing := true }
    let prompt ← match readPrompt (s.value "PS4") with
      | some word => expandText capture { isQuoted := true } word
      | none => pure (s.value "PS4")
    modify fun s =>
      let line := prompt ++ joinWords words ++ "\n"
      let world := (errors.map fun stream => s.world.write stream line).getD (.ok s.world)
      { s with isTracing := false, world := world.toOption.getD s.world }

/-- A program is to be run, in a process of its own unless this one is done for. -/
def runProgram (run : Runner) (standing : Standing) (path : String) (name : String)
    (words : List String) : Act Nat := do
  let s ← get
  let start := launch run (program s path) path name words
  if standing.isLast && s.traps.all (·.2.isEmpty) then start
  else
    let job ← runChild run id start
    awaitChild job.ending

/-- Runs a builtin. Its errors are over with it, unless it is one whose errors end a script. -/
def callBuiltin (run : Runner) (standing : Standing) (isSpecial : Bool) (name : String)
    (words : List String) : Act Nat := do
  let before := (← get).builtin
  modify fun s => { s with builtin := some name, out := "" }
  let result ← attempt (do flush (← runBuiltin run standing name words))
  let status ← match result with
    | .ok status => pure status
    | .error _ => do
      let _ ← flush 0
      pure (← get).status
  modify fun s => { s with builtin := before, status, out := "" }
  match result with
  | .ok status => return status
  | .error .error => if isSpecial then throw .error else return status
  | .error stop => throw stop

def mostFunctionDepth : Nat := 1000

/-- Calls a function: it has arguments of its own. -/
def callFunction (run : Runner) (standing : Standing) (body : Command) (words : List String) :
    Act Nat := do
  let s ← get
  if mostFunctionDepth ≤ s.functionDepth then
    fail ("Maximum function recursion depth (" ++ toString mostFunctionDepth ++ ") reached")
  set { s with arguments := words, functionDepth := s.functionDepth + 1, loops := 0,
               optionIndex := 1, optionOffset := none }
  let result ← attempt (run { isTested := standing.isTested } body)
  modify fun t =>
    { t with arguments := s.arguments, functionDepth := s.functionDepth,
             loops := s.loops, optionIndex := s.optionIndex, optionOffset := s.optionOffset,
             skip := t.skip.filter fun k => k ≠ .return && k ≠ .returnLast }
  match result with
  | .ok status => return status
  | .error stop => throw stop

/-- Assigns in front of a command: for it alone, or for good. -/
def assignFirst (call : Call) (text : String) : Act Unit := do
  if call.isScoped then hide text true
  else
    let (name, value) := splitAssignment text
    setVariable name (some value) call.isExec false

/-- Runs what a command is. -/
def dispatch (run : Runner) (standing : Standing) (call : Call) (words : List String) :
    Act Nat := do
  let s ← get
  match words with
  | [] => return s.outputStatus
  | name :: words =>
    let search := if call.isStandard then defaultSearch else s.value "PATH"
    match meaning s call.skipsFunctions search name with
    | .builtin => callBuiltin run standing call.isSpecial name words
    | .function body => callFunction run standing body words
    | .program path isSearched =>
      if isSearched && !call.isStandard then remember name path
      runProgram run standing path name words
    | .none e =>
      warn (name ++ ": " ++ e.whenRun)
      setStatus 127
      if call.isSpecial then throw .error else return 127

/-- Runs a simple command: words first, then redirections, then assignments. -/
def runSimple (run : Runner) (standing : Standing) (line : Nat) (assignments words : List Word)
    (redirects : List Redirect) : Act Nat := do
  modify fun s => { s with line, outputStatus := 0 }
  let capture := captureWith run
  let opening ← openUpTo capture 0 [] words
  let call : Call := { opening }
  let call ← if opening.words.isEmpty then pure { call with isScoped := false }
    else callOf capture mostNameLength call
  let rest ← expandRest capture call.isAssigning call.opening.rest
  let all := call.opening.words ++ rest
  let words := all.drop call.passed
  let call := { call with isExec := call.isExec && 1 < words.length }
  let s ← get
  if call.isScoped then set { s with scopes := {} :: s.scopes }
  let targets ← redirects.mapM (expandRedirect capture)
  let failed ← tryRedirects capture targets
  let status ←
    if failed ≠ 0 then do
      setStatus failed
      if call.isSpecial then throw .error
      pure failed
    else do
      let texts ← assignments.mapM fun w => do
        let text ← expandText capture { assignTilde := true } w
        assignFirst call text
        return text
      trace capture (s.stream? 2) (texts ++ all)
      dispatch run standing call words
  unless targets.isEmpty do endRedirects (call.opening.words[call.passed]? = some "exec")
  unwindRedirects s.redirected.length
  endScopes s.scopes.length
  return status

/-- Runs what is to be repeated until it says how it ends. The number bounds how often. -/
def repeatWithin {α β : Type} (step : α → Act (α ⊕ β)) : Nat → α → Act β
  | 0, _ => throw .exhausted
  | limit + 1, a => do
    match ← step a with
    | .inl a => repeatWithin step limit a
    | .inr b => return b

def mostRounds : Nat := 200000

/-- What the end of a loop's body has been skipped for; one loop less is to be left. -/
def endRound : Act (Option Skip) := do
  let s ← get
  match s.skip with
  | some .leave | some .again =>
    if s.skipCount ≤ 1 then
      set { s with skip := none, skipCount := 0 }
      return s.skip
    set { s with skipCount := s.skipCount - 1 }
    return some .leave
  | other => return other

def goesOn (skip : Option Skip) : Bool := skip = none || skip = some .again

def withinLoop (body : Act Nat) : Act Nat := do
  modify fun s => { s with loops := s.loops + 1 }
  let status ← body
  modify fun s => { s with loops := s.loops - 1 }
  return status

/-- A round of a loop: its test, then its body. -/
def loopRound (run : Runner) (standing : Standing) (isUntil : Bool) (test body : Command)
    (status : Nat) : Act (Nat ⊕ Nat) := do
  let tested ← run { isTested := true } test
  let skip ← endRound
  if skip.isSome then
    let status := if skip = some .return then tested else status
    return if goesOn skip then .inl status else .inr status
  if (tested = 0) = isUntil then return .inr status
  let status ← run { isTested := standing.isTested } body
  return if goesOn (← endRound) then .inl status else .inr status

/-- Runs a body for each of some words. -/
def forWords (run : Runner) (standing : Standing) (name : String) (body : Command) :
    Nat → List String → Act Nat
  | status, [] => return status
  | _, word :: rest => do
    setVariable name (some word) false false
    let status ← run { isTested := standing.isTested } body
    if goesOn (← endRound) then forWords run standing name body status rest else return status

/-- The body of the first case whose pattern a text matches. -/
def findCase (capture : Command → Act String) (text : List Char) :
    List (List Word × Command) → Act (Option Command)
  | [] => return none
  | (patterns, body) :: rest => do
    if ← patterns.anyM fun w => return matchesPattern (← expandPattern capture w) text then
      return some body
    findCase capture text rest

/-- Runs a command in a process of its own, unless this one is done for. -/
def runSubshell (run : Runner) (standing : Standing) (body : Command)
    (redirects : List Redirect) : Act Nat := do
  let capture := captureWith run
  let targets ← redirects.mapM (expandRedirect capture)
  let start : Act Nat := do
    targets.forM (followTarget capture false)
    run { standing with isLast := true } body
  let s ← get
  if standing.isLast && s.traps.all (·.2.isEmpty) then start
  else
    let job ← runChild run id start
    awaitChild job.ending

/-- Runs a command that is not waited for. -/
def runBackground (run : Runner) (body : Command) (redirects : List Redirect) : Act Nat := do
  let capture := captureWith run
  let targets ← redirects.mapM (expandRedirect capture)
  let null ← addStream .null
  let prepare (s : Shell) : Shell :=
    { s.setDescriptor 0 (some null) with ignored := [2, 3] ++ s.ignored }
  let job ← runChild run prepare do
    targets.forM (followTarget capture false)
    run { isLast := true } body
  modify fun s =>
    { s with lastBackground := some job.process, jobs := s.jobs ++ [job] }
  takeSignals
  return 0

/-- A program that a stage names is kept in mind though another process runs it. -/
def rememberStage : Command → Act Unit
  | .simple _ _ (w :: _) _ => do
    let s ← get
    match plainText? w with
    | some name =>
      match meaning s false (s.value "PATH") (String.ofList name) with
      | .program path true => if isName name then remember (String.ofList name) path
      | _ => return
    | none => return
  | _ => return

/-- Runs commands each of which reads what the one before it has written. -/
def runStages (run : Runner) (standing : Standing) : Option Nat → List Command → Act Nat
  | _, [] => return 0
  | input, c :: rest => do
    rememberStage c
    let output ← if rest.isEmpty then pure none else some <$> addStream (.sink "")
    let prepare (s : Shell) : Shell :=
      let s := match input with
        | some stream => s.setDescriptor 0 (some stream)
        | none => s
      match output with
      | some stream => s.setDescriptor 1 (some stream)
      | none => s
    let job ← runChild run prepare (run { standing with isLast := true } c)
    match output with
    | none => awaitChild job.ending
    | some stream => do
      unless job.ending = exhaustion do Signals.tellEnding job.ending
      modify fun s =>
        let text := s.world.filled stream
        { s with world := s.world.setStream stream (.source text.toList) }
      runStages run standing output rest

/-- Runs a command, whatever comes of it. -/
def perform (run : Runner) (standing : Standing) (c : Command) : Act Nat := do
  let inner : Standing := { isTested := standing.isTested }
  let capture := captureWith run
  let setLine (line : Nat) : Act Unit := modify fun s => { s with line }
  match c with
  | .nothing => return 0
  | .simple line assignments words redirects =>
    runSimple run standing line assignments words redirects
  | .pipeline stages =>
    let status ← runStages run standing none stages
    takeSignals
    return status
  | .background _ body redirects => runBackground run body redirects
  | .negation body =>
    let status ← run { isTested := true } body
    let s ← get
    return if s.skip.isSome then status else if status = 0 then 1 else 0
  | .next first second =>
    let status ← run inner first
    let s ← get
    if s.skip.isSome then return status else run standing second
  | .andThen first second =>
    let status ← run { isTested := true } first
    let s ← get
    if status ≠ 0 || s.skip.isSome then return status else run standing second
  | .orElse first second =>
    let status ← run { isTested := true } first
    let s ← get
    if status = 0 || s.skip.isSome then return status else run standing second
  | .branch test yes no =>
    let status ← run { isTested := true } test
    let s ← get
    if s.skip.isSome then return status
    else if status = 0 then run standing yes
    else match no with
      | .nothing => return 0
      | no => run standing no
  | .loop isUntil test body =>
    withinLoop (repeatWithin (loopRound run standing isUntil test body) mostRounds 0)
  | .each line name words body =>
    setLine line
    let fields ← words.mapM (expandFields capture)
    withinLoop (forWords run standing name body 0 fields.flatten)
  | .choice line subject cases =>
    setLine line
    let text ← expandText capture { tilde := true } subject
    match ← findCase capture text.toList cases with
    | none | some .nothing => return 0
    | some body => run standing body
  | .function name body =>
    modify fun s => { s with functions := (name, body) :: s.functions.filter (·.1 ≠ name) }
    return 0
  | .redirected line body redirects =>
    setLine line
    let targets ← redirects.mapM (expandRedirect capture)
    let failed ← tryRedirects capture targets
    let status ← if failed ≠ 0 then pure failed else run inner body
    unless targets.isEmpty do endRedirects false
    let s ← get
    if failed ≠ 0 && s.has 'e' && !standing.isTested then
      setStatus failed
      runTraps run
      throw .over
    return status
  | .subshell line body redirects =>
    setLine line
    runSubshell run standing body redirects

/-- A command whose failure ends a script that is to end so. -/
def mustSucceed : Command → Bool
  | .simple .. | .subshell .. | .background .. | .pipeline _ => true
  | _ => false

/-- Runs a command, and what follows from its status. -/
def runWith (run : Runner) (standing : Standing) (c : Command) : Act Nat := do
  let finish (isStrict : Bool) (status : Nat) : Act Nat := do
    runTraps run
    if (isStrict && status ≠ 0) || standing.isLast then throw .over
    return status
  let s ← get
  match c with
  | .nothing => finish false 0
  | c => do
    if s.has 'n' then finish false 0
    else
      runTraps run
      let s ← get
      let isStrict := s.has 'e' && !standing.isTested && mustSucceed c
      let status ← perform run standing c
      setStatus status
      finish isStrict status

/-- Runs commands within commands, the number bounding how deep. -/
def runCommand : Nat → Runner
  | 0 => fun _ _ => throw .exhausted
  | depth + 1 => runWith (runCommand depth)

end NestedShell.Host.Script

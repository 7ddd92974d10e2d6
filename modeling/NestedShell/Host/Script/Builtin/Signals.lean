import NestedShell.Host.Script.Builtin

/-! Builtins for signals and for commands that were not waited for. -/
namespace NestedShell.Host.Script.Signals

/-- A signal by its number or name; 0 is no name's number. -/
def named? (least : Nat) (word : String) : Option Nat :=
  match signal? word with
  | some 0 => if least = 0 || word.toList.all Char.isDigit then some 0 else none
  | found => found

/-- Sets what a signal does; a single `-` undoes that. -/
def setTrap (action : Option String) (signal : Nat) : Act Unit := modify fun s =>
  let others := s.traps.filter (·.1 ≠ signal)
  match action with
  | none | some "-" => { s with traps := others }
  | some text => { s with traps := (signal, text) :: others }

/-- Sets what signals do up to the first word that names none. -/
def setTraps (action : Option String) : List String → Act Nat
  | [] => return 0
  | word :: rest => do
    match named? 0 word with
    | none =>
      complain ("trap: " ++ word ++ ": bad trap")
      return 1
    | some signal =>
      setTrap action signal
      setTraps action rest

def trap (words : List String) : Act Nat := do
  match ← withoutOptions words with
  | [] =>
    let s ← get
    (s.traps.mergeSort fun a b => a.1 ≤ b.1).forM fun (signal, text) =>
      sayLine ("trap -- " ++ singleQuoted text ++ " " ++ signalName signal)
    return 0
  | [word] => setTraps none [word]
  | action :: words =>
    let isNumber := !action.isEmpty && action.toList.all Char.isDigit && (signal? action).isSome
    if isNumber then setTraps none (action :: words) else setTraps (some action) words

/-- What is said of a process that a signal has killed. -/
def signalText (signal : Nat) : String :=
  match signal with
  | 1 => "Hangup"
  | 2 => "Interrupt"
  | 3 => "Quit"
  | 4 => "Illegal instruction"
  | 5 => "Trace/breakpoint trap"
  | 6 => "Aborted"
  | 7 => "Bus error"
  | 8 => "Floating point exception"
  | 9 => "Killed"
  | 10 => "User defined signal 1"
  | 11 => "Segmentation fault"
  | 12 => "User defined signal 2"
  | 13 => "Broken pipe"
  | 14 => "Alarm clock"
  | 15 => "Terminated"
  | 16 => "Stack fault"
  | 24 => "CPU time limit exceeded"
  | 25 => "File size limit exceeded"
  | 26 => "Virtual timer expired"
  | 27 => "Profiling timer expired"
  | 29 => "I/O possible"
  | 30 => "Power failure"
  | 31 => "Bad system call"
  | n =>
    if n < 34 then "Unknown signal " ++ toString n else "Real-time signal " ++ toString (n - 34)

/-- Tells of a process that a signal has killed, unless it was one that ends processes in the
course of things. -/
def tellEnding (ending : Ending) : Act Unit := do
  match ending with
  | .killed signal => if signal ≠ 2 && signal ≠ 13 then complain (signalText signal)
  | .exited _ => return

/-- How the list of jobs shows an ending. -/
def endingText : Ending → String
  | .exited 0 => "Done"
  | .exited code => "Done(" ++ toString code ++ ")"
  | .killed signal => signalText signal

/-- The job that a word behind a percent sign names. The last job is the current one. -/
def findJob (word : Option String) : Act Job := do
  let s ← get
  let need (job : Option Job) (message : String) : Act Job :=
    match job with
    | some job => return job
    | none => fail message
  match word with
  | none => need s.jobs.getLast? "No current job"
  | some word =>
    let missing := "No such job: " ++ word
    match word.toList with
    | ['%'] | ['%', '+'] | ['%', '%'] => need s.jobs.getLast? "No current job"
    | ['%', '-'] => need s.jobs.dropLast.getLast? "No previous job"
    | ['%', '?'] =>
      if 1 < s.jobs.length then fail (word ++ ": ambiguous") else need s.jobs.head? missing
    | '%' :: cs =>
      need (if cs.all Char.isDigit then s.jobs.find? (·.number = valueIn 10 cs) else none) missing
    | _ => fail missing

/-- Ends the wait for a job, which is told of once. -/
def endJob (job : Job) : Act Nat := do
  unless job.state = .known do tellEnding job.ending
  modify fun s => { s with jobs := s.jobs.map fun j =>
    if j.number = job.number then { j with state := .known } else j.settle }
  return job.ending.code

def waitFor (before : Nat) (word : String) : Act Nat := do
  if word.toList.head? = some '%' then endJob (← findJob word)
  else
    let process ← readCount word
    let s ← get
    match s.jobs.find? (·.process = process) with
    | some job => endJob job
    | none => return before

/-- Waits for jobs: the status is that of the last one that there is. -/
def wait (words : List String) : Act Nat := do
  match ← withoutOptions words with
  | [] =>
    modify fun s => { s with jobs := s.jobs.map ({ · with state := .known }) }
    return 0
  | words => words.foldlM waitFor 127

/-- Shows a job, with a mark on the last one and the one before it, and forgets it if it has
ended. -/
def showJob (job : Job) : Act Unit := do
  let s ← get
  let mark := if s.jobs.getLast?.any (·.number = job.number) then "+"
    else if s.jobs.dropLast.getLast?.any (·.number = job.number) then "-" else " "
  let isRunning := job.state = .running
  let text := "[" ++ toString job.number ++ "] " ++ mark ++ " " ++
    (if isRunning then "Running" else endingText job.ending)
  sayLine (text ++ String.ofList (List.replicate (max 1 (33 - text.length)) ' '))
  unless isRunning do
    modify fun s => { s with jobs := s.jobs.filter (·.number ≠ job.number) }

/-- Lists the jobs, the last one first, or their processes. -/
def jobs (words : List String) : Act Nat := do
  let (options, words) ← readOptions "lp" words
  let act (job : Job) : Act Unit :=
    if options.getLast?.any (·.1 = 'p') then sayLine (toString job.process) else showJob job
  if words.isEmpty then
    let s ← get
    s.jobs.reverse.forM act
  else words.forM fun word => do act (← findJob (some word))
  return 0

/-- Jobs cannot be brought to the foreground or back. -/
def resume (words : List String) : Act Nat := do
  let words ← withoutOptions words
  let _ ← findJob words.head?
  fail ("job " ++ words.headD "(null)" ++ " not created under job control")

def usage {α : Type} : Act α :=
  fail ("Usage: kill [-s sigspec | -signum | -sigspec] [pid | job]... or\n" ++
    "kill -l [exitstatus]")

/-- What `kill` is asked for: to list signals, or to send one. -/
structure Errand where
  isList : Bool := false
  signal : Option Nat := none
  words : List String

def errand (words : List String) : Act Errand := do
  match words with
  | [] => usage
  | word :: rest =>
    match word.toList with
    | '-' :: cs =>
      match named? 1 (String.ofList cs) with
      | some signal => return { signal, words := rest }
      | none => do
        let (options, rest) ← readOptions "ls:" (word :: rest)
        let signals ← (options.filter (·.1 = 's')).mapM fun (_, text) =>
          match named? 1 text with
          | some signal => pure signal
          | none => fail ("invalid signal number or name: " ++ text)
        return { isList := options.any (·.1 = 'l'), signal := signals.getLast?, words := rest }
    | _ => return { words }

/-- Names signals: all of them, or the one that a status tells of. -/
def listSignals : List String → Act Nat
  | [] => do
    sayLine "0"
    (List.range mostSignal).forM fun n => sayLine (signalName (n + 1))
    return 0
  | word :: _ => do
    let n ← readCount word
    let n := if 128 < n then n - 128 else n
    if n = 0 || mostSignal < n then
      fail ("invalid signal number or exit status: " ++ word)
    sayLine (signalName n)
    return 0

/-- Sends a signal to a process; the answer says whether there is one. A job that would not end by
itself ends by the signal, if it is not one that jobs ignore. -/
def send (signal process : Nat) : Act Bool := do
  let s ← get
  if process = s.process then
    if signal ≠ 0 then takeSignal signal
    return true
  else if s.ancestors.contains process then
    if signal ≠ 0 then set { s with world := s.world.send process signal }
    return true
  else
    let isMeant (job : Job) : Bool := job.process = process && job.state ≠ .known
    let isStopped (job : Job) : Bool :=
      isMeant job && job.ending = exhaustion && signal ≠ 0 && !([2, 3].contains signal)
    set { s with jobs := s.jobs.map fun job =>
      if isStopped job then { job with ending := .killed signal } else job }
    return s.jobs.any isMeant

def kill (words : List String) : Act Nat := do
  let e ← errand words
  let signal := if e.isList then e.signal else some (e.signal.getD 15)
  if (signal.isNone || e.words.isEmpty) ≠ e.isList then usage
  if e.isList then listSignals e.words
  else
    let results ← e.words.mapM fun (word : String) => do
      let isGroup := word.toList.head? = some '-'
      let process ←
        if word.toList.head? = some '%' then do pure (← findJob word).process
        else readCount (if isGroup then String.ofList (word.toList.drop 1) else word)
      let isThere ← if isGroup then pure false else send (signal.getD 0) process
      unless isThere do warn "No such process\n"
      return isThere
    return if results.all id then 0 else 1

end NestedShell.Host.Script.Signals

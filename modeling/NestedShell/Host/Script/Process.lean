import NestedShell.Host.Script.Builtin.Signals
import NestedShell.Host.Script.Reader
import NestedShell.Host.Script.Redirection

/-! Processes: scripts that are read and run line by line, and how they end. -/
namespace NestedShell.Host.Script

/-- What is known of a command that is run: nothing of its process comes after it, or its status
is going to be tested. -/
structure Standing where
  isLast : Bool := false
  isTested : Bool := false

abbrev Runner := Standing → Command → Act Nat

/-- Runs the lines of a script. The number bounds how many there are. -/
def runLines (run : Runner) (standing : Standing) : Nat → Source → Nat → Act Nat
  | 0, _, status => return status
  | limit + 1, source, status => do
    let s ← get
    match readLine.run { source with aliases := s.aliases, nextDocument := s.nextDocument } with
    | .error e =>
      set { s with line := e.line }
      fail e.message
    | .ok (none, _) => return status
    | .ok (some c, source) =>
      set { s with documents := source.documents ++ s.documents,
                   nextDocument := source.nextDocument }
      let isEnd := source.isAgain && source.token = .ending
      let given ← run { standing with isLast := standing.isLast && isEnd } c
      let status := match c with
        | .nothing => status
        | _ => given
      let s ← get
      if s.skip.isSome then return status
      runLines run standing limit { source with documents := [] } status

def runText (run : Runner) (standing : Standing) (text : String) : Act Nat :=
  runLines run standing (text.length + 1) (Source.ofText text.toList) 0

/-- Runs a trap, after which the status is what it was. -/
def runTrap (run : Runner) (status signal : Nat) : Act Unit := do
  let s ← get
  if s.skip.isSome then set { s with caught := s.caught ++ [signal] }
  else
    let _ ← runText run {} ((s.traps.lookup signal).getD "")
    modify fun s => if s.skip = some .return then s else { s with status }

/-- Runs the traps of the signals that have come. -/
def runTraps (run : Runner) : Act Unit := do
  let s ← get
  if s.caught.isEmpty || s.skip.isSome then return
  let status := s.savedStatus.getD s.status
  set { s with savedStatus := some status, caught := [] }
  (s.caught.mergeSort (· ≤ ·)).forM (runTrap run status)
  modify fun t => { t with savedStatus := s.savedStatus }

/-- Leaves all that a process was in the middle of. A status that was kept counts where the process
was told to stop, or has just run a trap. -/
def leaveAll (isTold : Bool) : Act Unit := do
  unwindRedirects 0
  modify fun s =>
    let isKept := isTold || s.skip = some .returnLast
    { s with status := if isKept then s.savedStatus.getD s.status else s.status,
             savedStatus := none, skip := none, loops := 0, isTracing := false }

/-- Runs what a process is for, then the trap for its end. -/
def runProcess (run : Runner) (body : Act Nat) : Act Ending := do
  let leave (stop : Stop) : Act Unit := leaveAll (match stop with
    | .exit => true
    | _ => false)
  match ← attempt body with
  | .error (.ended ending) => return ending
  | .error .exhausted => return exhaustion
  | first =>
    match first with
    | .error stop => leave stop
    | .ok _ => pure ()
    let s ← get
    match s.traps.lookup 0 with
    | none => return .exited s.status.toUInt8
    | some action =>
      set { s with savedStatus := some s.status, skip := none,
                   traps := s.traps.filter (·.1 ≠ 0) }
      match ← attempt (runText run {} action) with
      | .error (.ended ending) => return ending
      | .error .exhausted => return exhaustion
      | .error stop => leave stop
      | .ok _ => leaveAll true
      let s ← get
      return .exited s.status.toUInt8

/-- The state that a process starts with which this one makes: traps are gone, but signals that are
ignored stay so. -/
def Shell.child (s : Shell) : Shell :=
  { s with
    world := { s.world with nextProcess := s.world.nextProcess + 1 }
    process := s.world.nextProcess
    ancestors := s.process :: s.ancestors
    traps := s.traps.filter (·.2.isEmpty)
    caught := []
    jobs := []
    redirected := [] }

/-- The number for a new job; a job that has it already has been waited for, and is forgotten. -/
def claimNumber : Act Nat := do
  let s ← get
  let number := freeNumber s.jobs s.jobs.length 1
  set { s with jobs := s.jobs.filter (·.number ≠ number) }
  return number

/-- Runs a process to its end; the answer is which one it was and how it ended. -/
def runChild (run : Runner) (prepare : Shell → Shell) (body : Act Nat) : Act Job := do
  let number ← claimNumber
  let s ← get
  let child := prepare s.child
  let (ending, left) := (runProcess run body).run.run child
  set { s with world := left.world }
  let ending := match ending with
    | .ok ending => ending
    | .error _ => exhaustion
  return { number, process := child.process, ending }

/-- Tells how a process has ended that was waited for; the answer is the status. -/
def awaitChild (ending : Ending) : Act Nat := do
  Signals.tellEnding ending
  modify fun s => { s with jobs := s.jobs.map Job.settle }
  takeSignals
  return ending.code

/-- The text that a command writes in a process of its own. -/
def captureWith (run : Runner) : Command → Act String
  | .nothing => return ""
  | c => do
    let sink ← addStream (.sink "")
    let job ← runChild run (·.setDescriptor 1 (some sink)) (run { isLast := true } c)
    let s ← get
    let text := s.world.filled sink
    set { s with world := s.world.setStream sink .null }
    let outputStatus ← awaitChild job.ending
    modify fun s => { s with outputStatus }
    return text

end NestedShell.Host.Script

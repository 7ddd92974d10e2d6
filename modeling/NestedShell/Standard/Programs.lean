import NestedShell.Command
import NestedShell.Host

/-! The commands `pipe` and `spawn`, which run a program of the host. -/
namespace NestedShell.Standard
variable {κ : Type}

/-- An interrupted program interrupts the statement; any other end is a status. -/
def flowOf (ending : Ending) : Flow κ :=
  if ending.code = Ending.interruptCode then .interrupted else .status (Int64.ofNat ending.code)

/-- Shows what a program has written, where there is someone to see it. -/
def showFinished (host : Host) (isCaptured : Bool) (finished : Finished) (ws : Workspace) :
    Workspace :=
  let shown (isSeen : Bool) (bytes : List UInt8) := if isSeen then Text.Utf8.lossy bytes else ""
  (ws.write (shown (isCaptured || host.sharesTerminal) finished.output)).writeError
    (shown host.sharesTerminal finished.errors)

/-- Runs the words after the name. -/
def runProgram (host : Host) (isCaptured : Bool) : Handler κ :=
  fun _ args ws =>
    match args.get 1 with
    | .error e => (ws, .error (.missingArgument e))
    | .ok _ =>
      match host.run (args.drop 1) ws.vars with
      | .error f => (ws, .error (.failed f))
      | .ok finished => (showFinished host isCaptured finished ws, .ok (flowOf finished.ending))

def pipeUsage : String :=
  "Run a program and show what it writes. `!program args` is a shorthand.\n\n" ++
  "Usage: pipe <program> [args...]"

def pipe (host : Host) : Handler κ := runProgram host true

def spawnUsage : String :=
  "Run a program attached to the terminal. `%program args` is a shorthand.\n\n" ++
  "Usage: spawn <program> [args...]"

/-- The output goes to the terminal, not to the session. -/
def spawn (host : Host) : Handler κ := runProgram host false

end NestedShell.Standard

import NestedShell.Host.Script.Run

/-! A small host: a fixed file tree with the utilities `sh`, `echo`, `printf`, `true` and `false`.
It stands in where no system is at hand. The commands that run programs, and the command line, take
any host. -/
namespace NestedShell.Host

/-- What the system says when it cannot start a program. -/
def refusal (name : String) (e : SystemError) : Failure :=
  { cause := .io e.message, circumstances := [name ++ ": failed to run"] }

def holdsNul (text : String) : Bool := text.toList.contains '\x00'

/-- How deep commands within commands run. -/
def commandDepth : Nat := 60000

/-- What the process of a program starts with: an empty input, and sinks for what it writes. -/
def firstState : Script.Shell where
  name := ""
  world := { streams := #[.null, .sink "", .sink ""] }
  descriptors := [(0, 0), (1, 1), (2, 2)]

/-- Runs a utility by its path. Its texts are of characters that stand for bytes. -/
def runUtility (u : Utility) (path : String) (words environment : List String) : Finished :=
  let (ending, s) := (Script.becomeProgram (Script.runCommand commandDepth) u
    (environment.filterMap assignment?) path words).run.run firstState
  { ending := match ending with
      | .ok ending => ending
      | .error _ => Script.exhaustion
    output := Text.Octets.bytes (s.world.filled 1)
    errors := Text.Octets.bytes (s.world.filled 2) }

/-- Finds the program and runs it. -/
def runProgram (words : List String) (vars : Variables) : Except Failure Finished :=
  match words with
  | [] => .error (.ofText "no program given")
  | name :: rest =>
    match locate (Text.Octets.ofText (vars.value "PATH")) (Text.Octets.ofText name) with
    | none => .error (.ofText (name ++ ": command not found"))
    | some path =>
      if words.any holdsNul || vars.pairs.any (fun p => holdsNul p.1 || holdsNul p.2) then
        .error (refusal name .nulByte)
      else
        let environment := vars.environment.map Text.Octets.ofText
        let rest := rest.map Text.Octets.ofText
        match started ((vars.get? "PATH").map Text.Octets.ofText) path with
        | .error e => .error (refusal name e)
        | .ok u =>
          if isTooLong path (path :: rest) environment then .error (refusal name .listTooLong)
          else .ok (runUtility u path rest environment)

def small : Host := { run := runProgram }

end NestedShell.Host

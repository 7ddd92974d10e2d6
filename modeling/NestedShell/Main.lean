import NestedShell.CommandLine
import NestedShell.Host.Small

/-! The program on the real standard streams and files. -/
namespace NestedShell.Main
open CommandLine

/-- The environment the program was started with. -/
def environment : IO (List String) := do
  let bytes ← try IO.FS.readBinFile "/proc/self/environ" catch _ => pure ByteArray.empty
  return (Host.pieces '\x00' (Text.Utf8.lossy bytes.toList).toList).map String.ofList

/-- Reads the file that the command line may ask for. -/
def fileReader (words : List String) : IO Reader := do
  match signature.read words with
  | .ok r =>
    match r.positionals with
    | path :: _ =>
      try
        let bytes ← IO.FS.readBinFile path
        return fun _ => .ok (.ok bytes.toList)
      catch _ =>
        return fun path => Host.contents [] path
    | [] => return fun path => Host.contents [] path
  | .error _ => return fun path => Host.contents [] path

/-- Writes what the session has written since the last time, and forgets it. -/
def flush {host : Host} (s : Session (Nested host)) : IO (Session (Nested host)) := do
  (← IO.getStdout).putStr s.screen.out
  (← IO.getStdout).flush
  (← IO.getStderr).putStr s.screen.err
  return { s with screen := {} }

def reading : IO (Option Answer) := do
  let line ← (← IO.getStdin).getLine
  if line.isEmpty then return some .eof
  return answer? (String.ofList ((Text.lines '\n' '\r' line.toList).headD []))

def write (r : Result) : IO UInt32 := do
  IO.print r.out
  IO.eprint r.err
  return r.code.toUInt32

partial def converse {host : Host} (stage : Stage) (s : Session (Nested host)) : IO UInt32 := do
  let s ← flush (s.showPrompt stage)
  match ← reading with
  | none => write (breakDown "the line cannot be read\n" s)
  | some answer =>
    match s.take stage answer with
    | (s, .ask stage) => converse stage s
    | (s, .over result) => write (conclude s result)

end NestedShell.Main

open NestedShell in
def main (words : List String) : IO UInt32 := do
  let read ← NestedShell.Main.fileReader words
  match CommandLine.plan Host.small read words (← NestedShell.Main.environment) {} with
  | .finished r => NestedShell.Main.write r
  | .converse s => NestedShell.Main.converse .primary s

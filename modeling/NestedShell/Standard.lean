import NestedShell.Standard.Aliases
import NestedShell.Standard.General
import NestedShell.Standard.Programs
import NestedShell.Standard.Variables

/-! The standard commands that every context can start with. -/
namespace NestedShell
open Standard

def Registry.standard {κ : Type} (host : Host) : Registry κ :=
  ({} : Registry κ)
  |>.install "echo" (echoSignature.help "echo") echo
  |>.install "printenv" (printenvSignature.help "printenv") printenv
  |>.install "export" exportUsage exportAll
  |>.install "unset" unsetUsage unset
  |>.install "setenv" (setenvSignature.help "setenv") setenv
  |>.install "help" (helpSignature.help "help") help
  |>.install "alias" aliasUsage defineOrShow
  |>.install "unalias" unaliasUsage unalias
  |>.install "exit" exitUsage exit
  |>.install "pipe" pipeUsage (pipe host)
  |>.install "spawn" spawnUsage (spawn host)

end NestedShell

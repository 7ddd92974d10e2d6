/-! What a utility leaves behind. -/
namespace NestedShell.Host

/-- The texts that a utility writes to its output and to its error output, and its exit code. -/
structure Written where
  out : String := ""
  err : String := ""
  code : UInt8 := 0

/-- Messages that a program puts its name in front of, one a line. -/
def messageLines (program : String) (messages : List String) : String :=
  String.join (messages.map fun m => program ++ ": " ++ m ++ "\n")

end NestedShell.Host

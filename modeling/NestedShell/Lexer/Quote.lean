/-! Words written so that a lexer reads them back. -/
namespace NestedShell.Lexer

def plainMarks : List Char := "-_./:,=+@%".toList

/-- A character that stands for itself outside quotes and ends no word. -/
def isPlain (c : Char) : Bool := c.isAlphanum || plainMarks.contains c

def needsEscape (c : Char) : Bool := c == '\\' || c == '"' || c == '$' || c == '\''

def escapeQuoted (c : Char) : List Char := if needsEscape c then ['\\', c] else [c]

/-- The word itself if it is plain, and otherwise in double quotes. -/
def quote (word : String) : String :=
  if !word.isEmpty && word.toList.all isPlain then word
  else String.ofList ('"' :: word.toList.flatMap escapeQuoted ++ ['"'])

/-- The words of a statement, quoted where need be. -/
def join (words : List String) : String := String.intercalate " " (words.map quote)

end NestedShell.Lexer

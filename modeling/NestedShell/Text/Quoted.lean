import NestedShell.Text.Printable
import NestedShell.Text.Combining

/-! Texts shown between quotes, with what would not be legible escaped. -/
namespace NestedShell.Text

/-- A backslash, `u`, and the code point in hexadecimal between braces. -/
def codePoint (c : Char) : List Char :=
  '\\' :: 'u' :: '\x7b' :: Nat.toDigits 16 c.toNat ++ ['\x7d']

/-- The written form of a character between two `quote`s. -/
def escape (quote c : Char) : List Char :=
  if c = '\x00' then ['\\', '0']
  else if c = '\t' then ['\\', 't']
  else if c = '\r' then ['\\', 'r']
  else if c = '\n' then ['\\', 'n']
  else if c = '\\' ∨ c = quote then ['\\', c]
  else if isCombining c ∨ ¬ isPrintable c then codePoint c
  else [c]

def quoted (s : String) : String :=
  String.ofList ('"' :: s.toList.flatMap (escape '"') ++ ['"'])

def quotedChar (c : Char) : String := String.ofList ('\'' :: escape '\'' c ++ ['\''])

/-- Characters in single quotes, separated by commas, in brackets. -/
def quotedList (cs : List Char) : String :=
  "[" ++ String.intercalate ", " (cs.map quotedChar) ++ "]"

end NestedShell.Text

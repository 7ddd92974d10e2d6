import NestedShell.Host.Script.Shell

/-! What the builtins of scripts have in common. -/
namespace NestedShell.Host.Script

/-- Adds to what the builtin writes when it is done. -/
def say (text : String) : Act Unit := modify fun s => { s with out := s.out ++ text }

def sayLine (text : String) : Act Unit := say (text ++ "\n")

/-- A number made of a name's characters, by which tables of names are listed. -/
def nameNumber (name : String) : Nat :=
  let codes := name.toList.map Char.toNat
  codes.foldl (· + ·) (codes.headD 0 <<< 4)

/-- Writes to the error output as it is. -/
def complain (text : String) : Act Unit := do
  let _ ← writeTo 2 (text ++ "\n")

/-- Writes what the builtin has said; the answer is its status. -/
def flush (status : Nat) : Act Nat := do
  let s ← get
  if s.out.isEmpty then return status
  set { s with out := "" }
  if ← writeTo 1 s.out then return status
  warn ((s.builtin.getD "") ++ ": I/O error")
  return status ||| 1

/-- The path of a name in a directory that a search path names; an empty one is the current one. -/
def pathIn (directory : List Char) (name : String) : String :=
  if directory.isEmpty then name else String.ofList directory ++ "/" ++ name

/-- The paths that a name has in the directories of a search path. -/
def pathsIn (search name : String) : List String :=
  (pieces ':' search.toList).map (pathIn · name)

/-- The letters of an option word. A letter that takes an argument has the rest for it. -/
def readLetters (spec : List Char) : List Char → Act (List Char × Option (Char × List Char))
  | [] => return ([], none)
  | c :: rest => do
    match spec.dropWhile (· ≠ c) with
    | [] => fail ("Illegal option -" ++ String.singleton c)
    | _ :: ':' :: _ => if c = ':' then fail "Illegal option -:" else return ([], some (c, rest))
    | _ => do
      if c = ':' then fail "Illegal option -:"
      let (letters, last) ← readLetters spec rest
      return (c :: letters, last)

/-- The options at the start of words, each with its argument, and the other words. In `spec`, a
colon follows a letter that takes an argument. -/
def readOptions (spec : String) : List String → Act (List (Char × String) × List String)
  | [] => return ([], [])
  | word :: rest => do
    match word.toList with
    | ['-', '-'] => return ([], rest)
    | '-' :: c :: cs =>
      let (letters, last) ← readLetters spec.toList (c :: cs)
      let given := letters.map (·, "")
      match last, rest with
      | none, rest => do
        let (more, words) ← readOptions spec rest
        return (given ++ more, words)
      | some (x, []), [] => fail ("No arg for -" ++ String.singleton x ++ " option")
      | some (x, []), argument :: rest => do
        let (more, words) ← readOptions spec rest
        return (given ++ (x, argument) :: more, words)
      | some (x, argument), rest => do
        let (more, words) ← readOptions spec rest
        return (given ++ (x, String.ofList argument) :: more, words)
    | _ => return ([], word :: rest)

/-- The words behind options that there are none of. -/
def withoutOptions (words : List String) : Act (List String) := Prod.snd <$> readOptions "" words

/-- The rest of a quoted text: its quotes stand in double ones, all else in single ones. -/
def quotedFrom : Bool → List Char → List Char
  | isDouble, [] => [if isDouble then '"' else '\'']
  | false, c :: rest =>
    if c = '\'' then '\'' :: '"' :: c :: quotedFrom true rest else c :: quotedFrom false rest
  | true, c :: rest =>
    if c = '\'' then c :: quotedFrom true rest else '"' :: '\'' :: c :: quotedFrom false rest

/-- A text in quotes from which a script reads it back. -/
def singleQuoted (text : String) : String :=
  String.ofList ('\'' :: quotedFrom false text.toList)

end NestedShell.Host.Script

import NestedShell.Host.Script.Builtin

/-! Builtins for variables, arguments and options. -/
namespace NestedShell.Host.Script.Variables

/-- Writes variables in the order of their names, each with what a script would read it by. -/
def sayVariables (front : String) (isShown : Variable → Bool) : Act Unit := do
  let s ← get
  (NestedShell.Text.sorted s.vars.names).forM fun name => do
    match s.vars.get? name with
    | some v =>
      if isShown v then
        sayLine (front ++ name ++ ((v.value.map ("=" ++ singleQuoted ·)).getD ""))
    | none => return

/-- Marks variables, those that get a value and those that have one. -/
def markAll (isExported isFixed : Bool) (words : List String) : Act Nat := do
  words.forM fun word => do
    let (name, value) := splitAssignment word
    let s ← get
    if word.toList.contains '=' then assign name (some value) isExported isFixed
    else match s.vars.get? name with
      | some v =>
        let v := { v with
          isExported := v.isExported || isExported, isFixed := v.isFixed || isFixed }
        set { s with vars := s.vars.put name v }
      | none => assign name none isExported isFixed
  return 0

def export' (words : List String) : Act Nat := do
  let (options, words) ← readOptions "p" words
  if words.isEmpty || !options.isEmpty then
    sayVariables "export " (·.isExported)
    return 0
  markAll true false words

def readonly (words : List String) : Act Nat := do
  let (options, words) ← readOptions "p" words
  if words.isEmpty || !options.isEmpty then
    sayVariables "readonly " (·.isFixed)
    return 0
  markAll false true words

def local' (words : List String) : Act Nat := do
  if (← get).scopes.isEmpty then fail "not in a function"
  words.forM (hide · false)
  return 0

def unset (words : List String) : Act Nat := do
  let (options, words) ← readOptions "vf" words
  let isFunction := (options.getLast?.map (·.1)) = some 'f'
  words.forM fun name =>
    if isFunction then modify fun s => { s with functions := s.functions.filter (·.1 ≠ name) }
    else assign name none false false
  return 0

/-- The options: their names, their letters where they have one, and what they are known by. -/
def optionNames : List (String × Option Char × Char) :=
  [("errexit", some 'e', 'e'), ("noglob", some 'f', 'f'), ("ignoreeof", some 'I', 'I'),
   ("interactive", some 'i', 'i'), ("monitor", some 'm', 'm'), ("noexec", some 'n', 'n'),
   ("stdin", some 's', 's'), ("xtrace", some 'x', 'x'), ("verbose", some 'v', 'v'),
   ("vi", some 'V', 'V'), ("emacs", some 'E', 'E'), ("noclobber", some 'C', 'C'),
   ("allexport", some 'a', 'a'), ("notify", some 'b', 'b'), ("nounset", some 'u', 'u'),
   ("privileged", some 'p', 'p'), ("nolog", none, 'L'), ("debug", none, 'D')]

def putOption (option : Char) (isOn : Bool) : Act Unit := modify fun s =>
  let others := s.options.filter (· ≠ option)
  let others := if isOn && option = 'V' then others.filter (· ≠ 'E')
    else if isOn && option = 'E' then others.filter (· ≠ 'V') else others
  { s with options := if isOn then option :: others else others }

def setLetter (isOn : Bool) (letter : Char) : Act Unit := do
  match optionNames.find? (·.2.1 = some letter) with
  | some (_, _, option) => putOption option isOn
  | none => fail ("Illegal option " ++ (if isOn then "-" else "+") ++ String.singleton letter)

def setNamed (isOn : Bool) (name : String) : Act Unit := do
  match optionNames.find? (·.1 = name) with
  | some (_, _, option) => putOption option isOn
  | none => fail ("Illegal option -o " ++ name)

/-- Writes which options are on, for a reader or for a script. Before a process has started, all of
them count as on. -/
def sayOptions (isStart isForReader : Bool) : Act Unit := do
  let s ← get
  if isForReader then sayLine "Current option settings"
  optionNames.forM fun (name, _, option) => do
    let isOn := isStart || s.has option
    if isForReader then
      sayLine (name ++ String.ofList (List.replicate (16 - name.length) ' ') ++
        (if isOn then "on" else "off"))
    else sayLine ("set " ++ (if isOn then "-o " else "+o ") ++ name)

/-- What option words ask for: the commands to run, and the words left. -/
structure Asked where
  hasCommand : Bool := false
  words : List String
  /-- Two dashes have ended the options. -/
  isEnded : Bool := false

/-- Sets the options at the start of words. Only where a process is started is there an option to
name its commands. -/
def setOptions (isStart : Bool) : List String → Act Asked
  | [] => return { words := [] }
  | word :: rest => do
    match word.toList with
    | ['-'] =>
      unless isStart do
        putOption 'x' false
        putOption 'v' false
      return { words := rest }
    | ['-', '-'] => return { words := rest, isEnded := true }
    | mark :: letters =>
      if mark ≠ '-' && mark ≠ '+' then return { words := word :: rest }
      let isOn := mark = '-'
      let hasCommand := isStart && letters.contains 'c'
      (letters.filter fun c => c ≠ 'o' && !(isStart && (c = 'c' || c = 'l'))).forM (setLetter isOn)
      let later : Act Asked :=
        if letters.contains 'o' then do
          match rest with
          | [] =>
            sayOptions isStart isOn
            return { words := [] }
          | name :: rest =>
            setNamed isOn name
            setOptions isStart rest
        else setOptions isStart rest
      let asked ← later
      return { asked with hasCommand := asked.hasCommand || hasCommand }
    | [] => return { words := word :: rest }

def setArguments (words : List String) : Act Unit :=
  modify fun s => { s with arguments := words, optionIndex := 1, optionOffset := none }

/-- Sets options and arguments; without words, writes the variables. -/
def set' (words : List String) : Act Nat := do
  if words.isEmpty then sayVariables "" (·.value.isSome)
  else
    let asked ← setOptions false words
    if asked.isEnded || !asked.words.isEmpty then setArguments asked.words
  return 0

def shift (words : List String) : Act Nat := do
  let n ← match words with
    | [] => pure 1
    | word :: _ => readCount word
  let s ← get
  if s.arguments.length < n then fail "can't shift that many"
  setArguments (s.arguments.drop n)
  return 0

/-- An option that `getopts` has found: its letter, and its argument if it takes one. -/
structure Found where
  letter : Char
  argument : Option String := none
  index : Nat
  offset : Option Nat := none

/-- The letter behind `c` in a list of options, and whether it takes an argument. -/
def takesArgument? (letters : List Char) (c : Char) : Option Bool :=
  match letters with
  | [] => none
  | x :: rest =>
    let takes := rest.head? = some ':'
    if x = c then some takes else takesArgument? (if takes then rest.drop 1 else rest) c
termination_by letters.length
decreasing_by simp; split <;> (simp; try omega)

/-- Reads the option at a place of words. -/
def findOption (letters : List Char) (words : List String) (index offset : Nat) (cs : List Char) :
    Act Found := do
  let isQuiet := letters.head? = some ':'
  match cs with
  | [] => return { letter := '?', index }
  | c :: rest =>
    let behind := if rest.isEmpty then none else some (offset + 1)
    let letter := String.singleton c
    match takesArgument? (if isQuiet then letters.drop 1 else letters) c with
    | none =>
      if isQuiet then return { letter := '?', argument := some letter, index, offset := behind }
      complain ("Illegal option -" ++ letter)
      return { letter := '?', index, offset := behind }
    | some false => return { letter := c, argument := some "", index, offset := behind }
    | some true =>
      match rest, words[index - 1]? with
      | _ :: _, _ => return { letter := c, argument := some (String.ofList rest), index }
      | [], some word => return { letter := c, argument := some word, index := index + 1 }
      | [], none =>
        if isQuiet then return { letter := ':', argument := some letter, index, offset := behind }
        complain ("No arg for -" ++ letter ++ " option")
        return { letter := '?', index, offset := behind }

/-- The next option among words, if there is one; otherwise where the other words start. -/
def nextOption (letters : List Char) (words : List String) : Act (Except Nat Found) := do
  let s ← get
  let index := if words.length + 1 < s.optionIndex then 1 else s.optionIndex
  let current := (words[index - 2]?).getD ""
  let left := match s.optionOffset with
    | some n => if 1 < index && index = s.optionIndex then current.toList.drop n else []
    | none => []
  if !left.isEmpty then
    return .ok (← findOption letters words index (s.optionOffset.getD 0) left)
  match ((words[index - 1]?).getD "").toList with
  | ['-', '-'] => return .error (index + 1)
  | '-' :: c :: cs => return .ok (← findOption letters words (index + 1) 1 (c :: cs))
  | _ => return .error index

def getopts (words : List String) : Act Nat := do
  match words with
  | letters :: name :: given => do
    let s ← get
    let words := if given.isEmpty then s.arguments else given
    let found ← nextOption letters.toList words
    match found with
    | .ok found =>
      setVariable "OPTARG" found.argument false false
      setVariable "OPTIND" (some (toString found.index)) false false
      assign name (some (String.singleton found.letter)) false false
      modify fun s => { s with optionIndex := found.index, optionOffset := found.offset }
      return 0
    | .error index =>
      setVariable "OPTIND" (some (toString index)) false false
      assign name (some "?") false false
      modify fun s => { s with optionIndex := index, optionOffset := none }
      return 1
  | _ => fail "Usage: getopts optstring var [arg...]"

end NestedShell.Host.Script.Variables

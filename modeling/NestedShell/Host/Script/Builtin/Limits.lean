import NestedShell.Host.Script.Builtin

/-! The builtins `umask`, `ulimit` and `times`. -/
namespace NestedShell.Host.Script.Limits

def mostMask : Nat := 0o777

/-- Who a clause of a mask is about: a bit for each of user, group and others. -/
def whoBit (c : Char) : Nat :=
  match c with
  | 'u' => 0o100
  | 'g' => 0o010
  | 'o' => 0o001
  | _ => 0o111

/-- The rights that a letter names, where `rights` are those held now. -/
def rightBits (rights : Nat) (c : Char) : Nat :=
  match c with
  | 'r' => 4
  | 'w' => 2
  | 'x' => 1
  | 'u' => rights >>> 6
  | 'g' => rights >>> 3
  | 'o' => rights
  | 'X' => if rights &&& 0o111 = 0 then 0 else 1
  | _ => 0

/-- Applies clauses to rights, where `held` are those before all of them. Nothing is the answer to
what cannot be read. -/
def applyClauses (held : Nat) : Nat → Nat → Nat → List Char → Option Nat
  | 0, _, _, _ => none
  | limit + 1, who, rights, cs =>
    let whoChars := cs.takeWhile ("augo".toList.contains ·)
    let who := whoChars.foldl (fun bits c => bits ||| whoBit c) who
    let who := if who = 0 then 0o111 else who
    match cs.drop whoChars.length with
    | [] => some rights
    | operator :: rest =>
      if !"=+-".toList.contains operator then none
      else
        let letters := rest.takeWhile ("rwxugoXs".toList.contains ·)
        let given := letters.foldl (fun bits c => bits ||| rightBits held c) 0
        let bits := (given &&& 7) * who
        let rights := match operator with
          | '-' => rights &&& (mostMask ^^^ bits)
          | '+' => rights ||| bits
          | _ => bits ||| (rights &&& (mostMask ^^^ (who * 7)))
        match rest.drop letters.length with
        | [] => some rights
        | ',' :: more => applyClauses held limit 0 rights more
        | c :: more =>
          if "=+-".toList.contains c then applyClauses held limit who rights (c :: more) else none

/-- Rights in letters. -/
def rightLetters (bits : Nat) : String :=
  String.ofList ((if bits &&& 4 = 0 then [] else ['r']) ++ (if bits &&& 2 = 0 then [] else ['w']) ++
    (if bits &&& 1 = 0 then [] else ['x']))

def octalText (n : Nat) : String :=
  let digits := Nat.toDigits 8 n
  String.ofList (List.replicate (4 - digits.length) '0' ++ digits)

def umask (words : List String) : Act Nat := do
  let (options, words) ← readOptions "S" words
  let s ← get
  let rights := mostMask ^^^ s.mask
  match words with
  | [] =>
    sayLine (if options.isEmpty then octalText s.mask
      else "u=" ++ rightLetters (rights >>> 6) ++ ",g=" ++ rightLetters (rights >>> 3) ++ ",o=" ++
        rightLetters rights)
  | word :: _ =>
    let cs := word.toList
    if cs.head?.any Char.isDigit then
      if !cs.all (isDigitIn 8) then fail ("Illegal number: " ++ word)
      set { s with mask := valueIn 8 cs &&& mostMask }
    else match applyClauses rights (cs.length + 1) 0 rights cs with
      | some rights => set { s with mask := mostMask ^^^ rights }
      | none => fail ("Illegal mode: " ++ word)
  return 0

/-- A limit of a process: its letter, its name, and what it is where nothing sets it. -/
structure Limit where
  letter : Char
  name : String
  value : String := "unlimited"

def limits : List Limit :=
  [⟨'t', "time(seconds)", "unlimited"⟩, ⟨'f', "file(blocks)", "unlimited"⟩,
   ⟨'d', "data(kbytes)", "unlimited"⟩, ⟨'s', "stack(kbytes)", "8192"⟩,
   ⟨'c', "coredump(blocks)", "0"⟩, ⟨'m', "memory(kbytes)", "unlimited"⟩,
   ⟨'l', "locked memory(kbytes)", "8192"⟩, ⟨'p', "process", "unlimited"⟩,
   ⟨'n', "nofiles", "1024"⟩, ⟨'v', "vmemory(kbytes)", "unlimited"⟩,
   ⟨'w', "locks", "unlimited"⟩, ⟨'r', "rtprio", "0"⟩]

def limitText (s : Shell) (l : Limit) : String := (s.limits.lookup l.letter).getD l.value

def sayLimits (s : Shell) : Act Unit := limits.forM fun l =>
  sayLine (l.name ++ String.ofList (List.replicate (20 - l.name.length) ' ') ++ " " ++
    limitText s l)

/-- Shows a limit, or sets it. -/
def ulimit (words : List String) : Act Nat := do
  let (options, words) ← readOptions "HSatfdsmcvlpnwr" words
  let s ← get
  let letters := (options.map (·.1)).filter fun c => c ≠ 'H' && c ≠ 'S'
  let letter := ((letters.filter (· ≠ 'a')).getLast?).getD 'f'
  let isAll := letters.contains 'a'
  match words with
  | [] =>
    if isAll then sayLimits s
    else (limits.filter (·.letter = letter)).forM fun l => sayLine (limitText s l)
  | word :: rest =>
    if isAll || !rest.isEmpty then fail "too many arguments"
    if word ≠ "unlimited" && !word.toList.all Char.isDigit then fail "bad number"
    let text := if word = "unlimited" then word else toString (valueIn 10 word.toList)
    set { s with limits := (letter, text) :: s.limits }
  return 0

/-- No time passes in a script. -/
def times : Act Nat := do
  sayLine "0m0.000000s 0m0.000000s"
  sayLine "0m0.000000s 0m0.000000s"
  return 0

end NestedShell.Host.Script.Limits

import NestedShell.Host.Script.Builtin

/-! The builtin `test`: conditions on texts, numbers and files. -/
namespace NestedShell.Host.Script.Test

/-- What a word says between or before operands. -/
inductive Sign where
  | before (name : String)
  | between (name : String)
  | not
  | and
  | or
  | opening
  | closing
  deriving DecidableEq

def sign? (word : String) : Option Sign :=
  if ["-r", "-w", "-x", "-e", "-f", "-d", "-c", "-b", "-p", "-u", "-g", "-k", "-s", "-t", "-z",
      "-n", "-h", "-O", "-G", "-L", "-S"].contains word then some (.before word)
  else if ["=", "!=", "<", ">", "-eq", "-ne", "-ge", "-gt", "-le", "-lt", "-nt", "-ot",
      "-ef"].contains word then some (.between word)
  else if word = "!" then some .not
  else if word = "-a" then some .and
  else if word = "-o" then some .or
  else if word = "(" then some .opening
  else if word = ")" then some .closing
  else none

def isBetween (word : String) : Bool :=
  match sign? word with
  | some (.between _) => true
  | _ => false

/-- The first word of a condition: nothing, an operand, or a sign. A sign that stands where only
an operand can is one. -/
inductive Token where
  | nothing
  | operand
  | sign (s : Sign)
  deriving DecidableEq

def token : List String → Token
  | [] => .nothing
  | word :: rest =>
    let standsAlone := match rest with
      | [] => true
      | [_] => false
      | next :: _ => isBetween next
    match sign? word with
    | none => .operand
    | some (.before name) => if standsAlone then .operand else .sign (.before name)
    | some .opening => if rest.isEmpty then .operand else .sign .opening
    | some s => .sign s

/-- A condition that is being read: the words from the current one on. -/
abbrev Cond := StateT (List String) Act

def advance (n : Nat) : Cond Token := do
  modify (·.drop n)
  return token (← get)

def peek : Cond Token := return token ((← get).drop 1)

/-- Links of the file tree, as their paths lead to them. -/
def linkPlaces : List Location :=
  links.map (·.1) ++ [["sh", "bin", "usr"], ["stdin", "dev"], ["stdout", "dev"], ["stderr", "dev"],
    ["fd", "dev"]]

/-- Whether a path leads to a link. -/
def isLink (s : Shell) (path : String) : Bool :=
  let cs := path.toList
  let name := (cs.reverse.takeWhile (· ≠ '/')).reverse
  let parent := String.ofList (cs.take (cs.length - name.length))
  match resolve s.world.tree s.directory (if parent.isEmpty then "." else parent) with
  | .ok there => !name.isEmpty && linkPlaces.contains (String.ofList name :: there)
  | .error _ => false

/-- Whether a condition holds of a file. -/
def fileTest (s : Shell) (name path : String) : Bool :=
  if name = "-h" || name = "-L" then isLink s path
  else match s.world.tree.find s.directory path with
    | .error _ => false
    | .ok node =>
      match name, node with
      | "-e", _ | "-r", _ | "-w", _ | "-O", _ | "-G", _ => true
      | "-f", .file _ | "-f", .program _ => true
      | "-d", .directory => true
      | "-x", .directory | "-x", .program _ => true
      | "-c", .device _ => true
      | "-s", .file text => !text.isEmpty
      | "-s", .directory | "-s", .program _ => true
      | "-k", .directory =>
        (resolve s.world.tree s.directory path).toOption.any [["tmp"], ["tmp", "var"]].contains
      | _, _ => false

/-- A sign before its operand. -/
def testBefore (name operand : String) : Act Bool := do
  match name with
  | "-z" => return operand.isEmpty
  | "-n" => return !operand.isEmpty
  | "-t" =>
    let _ ← readInteger operand
    return false
  | _ => return fileTest (← get) name operand

/-- A sign between its operands. -/
def testBetween (name a b : String) : Act Bool := do
  let compare (f : Int → Int → Bool) : Act Bool := do return f (← readInteger a) (← readInteger b)
  let s ← get
  match name with
  | "=" => return a = b
  | "!=" => return a ≠ b
  | "<" => return a < b
  | ">" => return b < a
  | "-eq" => compare (· = ·)
  | "-ne" => compare (· ≠ ·)
  | "-ge" => compare (· ≥ ·)
  | "-gt" => compare (· > ·)
  | "-le" => compare (· ≤ ·)
  | "-lt" => compare (· < ·)
  | "-ef" =>
    match resolve s.world.tree s.directory a, resolve s.world.tree s.directory b with
    | .ok x, .ok y => return x = y
    | _, _ => return false
  | _ => return false

inductive Goal where
  | either
  | both
  | single
  | operand

/-- Reads a condition that starts with `t`. The number bounds its depth. -/
def read : Nat → Goal → Token → Cond Bool
  | 0, _, _ => fail "condition too deep"
  | depth + 1, goal, t => do
    match goal with
    | .either =>
      let a ← read depth .both t
      if (← peek) ≠ .sign .or then return a
      let b ← read depth .either (← advance 2)
      return a || b
    | .both =>
      let a ← read depth .single t
      if (← peek) ≠ .sign .and then return a
      let b ← read depth .both (← advance 2)
      return a && b
    | .single =>
      if t ≠ .sign .not then read depth .operand t
      else
        let next ← peek
        unless next = .nothing do
          let _ ← advance 1
        return !(← read depth .single next)
    | .operand =>
      match t with
      | .nothing => return false
      | .sign .opening =>
        let next ← advance 1
        if next = .sign .closing then return false
        let a ← read depth .either next
        if (← advance 1) ≠ .sign .closing then fail "closing paren expected"
        return a
      | .sign (.before name) =>
        let _ ← advance 1
        match ← get with
        | [] => fail (name ++ ": argument expected")
        | operand :: _ => testBefore name operand
      | _ =>
        match ← get, ← peek with
        | a :: _, .sign (.between name) =>
          let _ ← advance 2
          match ← get with
          | [] => fail (name ++ ": argument expected")
          | b :: _ => testBetween name a b
        | a :: _, _ => return !a.isEmpty
        | [], _ => return false

/-- The truth of a condition; words left behind it are an error. -/
def holds (t : Token) (words : List String) : Act Bool := do
  let (b, left) ← (read (4 * words.length + 8) .either t).run words
  match left with
  | word :: _ :: _ => fail ((if word.isEmpty then "" else word ++ ": ") ++ "unexpected operator")
  | _ => return b

/-- Tests words. Up to four of them are read by their number: a sign in the middle of three joins
the others, parentheses and a sign that negates come first. -/
def test : Bool → List String → Act Bool
  | isNegated, [] => return isNegated
  | isNegated, words@(first :: rest) => do
    let plain : Act Bool := do return (← holds (token words) words) ≠ isNegated
    let few (limit : Nat) : Act Bool := do
      if limit < words.length || words.length < 3 then plain
      else if first = "(" && words.getLast? = some ")" then
        let inner := rest.dropLast
        return (← holds (token inner) inner) ≠ isNegated
      else if first = "!" then test true rest
      else plain
    match words with
    | [_, operator, _] =>
      if isBetween operator then return (← holds .operand words) ≠ isNegated else few 4
    | _ => few 4

def statusOf (b : Bool) : Nat := if b then 0 else 1

def testBuiltin (words : List String) : Act Nat := return statusOf (← test false words)

def bracketBuiltin (words : List String) : Act Nat := do
  if words.getLast? ≠ some "]" then fail "missing ]"
  testBuiltin words.dropLast

end NestedShell.Host.Script.Test

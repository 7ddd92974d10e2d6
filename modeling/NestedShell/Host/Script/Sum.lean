import NestedShell.Host.Script.Shell

/-! Sums in scripts, on integers of 64 bits. -/
namespace NestedShell.Host.Script.Sum

inductive Token where
  | number (n : Int64)
  | name (text : String)
  | sign (text : String)
  | bad
  deriving DecidableEq

/-- The signs, a longer one before those it begins with. -/
def signs : List String :=
  ["<<=", ">>=", "<<", ">>", "<=", ">=", "==", "!=", "&&", "||", "+=", "-=", "*=", "/=", "%=", "&=",
   "^=", "|=", "+", "-", "*", "/", "%", "<", ">", "!", "~", "&", "^", "|", "(", ")", "?", ":", "="]

def leastInteger : Int := -9223372036854775808

def mostInteger : Int := 9223372036854775807

/-- The tokens of a sum; the number is of characters already taken. -/
def tokensFrom : Nat → List Char → List Token
  | _, [] => []
  | taken + 1, _ :: rest => tokensFrom taken rest
  | 0, c :: rest =>
    let cs := c :: rest
    if c = ' ' || c = '\t' || c = '\n' then tokensFrom 0 rest
    else if c.isDigit then
      let n := wholeNumber cs
      .number (Int64.ofInt (clamp leastInteger mostInteger n.value)) ::
        tokensFrom (rest.length - n.rest.length) rest
    else if isNameStart c then
      let name := cs.takeWhile isNamePart
      .name (String.ofList name) :: tokensFrom (name.length - 1) rest
    else match signs.find? (·.toList.isPrefixOf cs) with
      | some t => .sign t :: tokensFrom (t.length - 1) rest
      | none => [.bad]

/-- How tight the signs between two numbers bind; the tightest come first. -/
def levels : List (List String) :=
  [["*", "/", "%"], ["+", "-"], ["<<", ">>"], ["<", "<=", ">", ">="], ["==", "!="], ["&"], ["^"],
   ["|"]]

def level? (t : String) : Option Nat := levels.findIdx? (·.contains t)

def truth (b : Bool) : Int64 := if b then 1 else 0

/-- A sum that is being computed: its text, and the tokens that are left. -/
structure Work where
  text : String
  left : List Token

abbrev Calc := StateT Work Act

/-- Sums that cannot be computed end the process. -/
def failSum {α : Type} (message : String) : Calc α := do
  fail ("arithmetic expression: " ++ message ++ ": \"" ++ (← get).text ++ "\"")

/-- The result of a sign between two numbers. No number is large enough for the least one divided
by -1, which ends the process by a signal. -/
def apply (t : String) (a b : Int64) : Calc Int64 := do
  let quotient (f : Int64 → Int64 → Int64) : Calc Int64 := do
    if b = 0 then failSum "division by zero"
    if a.toInt = leastInteger && b = -1 then throw (.ended (.killed 8))
    return f a b
  match t with
  | "*" => return a * b
  | "/" => quotient (· / ·)
  | "%" => quotient (· % ·)
  | "+" => return a + b
  | "-" => return a - b
  | "<<" => return a <<< b
  | ">>" => return a >>> b
  | "<" => return truth (a < b)
  | "<=" => return truth (a ≤ b)
  | ">" => return truth (b < a)
  | ">=" => return truth (b ≤ a)
  | "==" => return truth (a = b)
  | "!=" => return truth (a ≠ b)
  | "&" => return a &&& b
  | "^" => return a ^^^ b
  | _ => return a ||| b

/-- The number that a variable holds; one that is not set counts as 0. -/
def lookUp (name : String) : Act Int64 := do
  let text := (← get).value name
  let n := wholeNumber text.toList
  let value := clamp leastInteger mostInteger n.value
  if value ≠ n.value || !n.rest.all isSpace then fail ("Illegal number: " ++ text)
  return Int64.ofInt value

def peek : Calc (Option Token) := return (← get).left.head?

def skip : Calc Unit := modify fun w => { w with left := w.left.drop 1 }

/-- What is computed: all of a sum, a choice, what `||` or `&&` joins, a number with signs in
front, or what further signs make of a number. -/
inductive Goal where
  | assignment
  | choice
  | either
  | both
  | operand
  | rest (first : Int64) (t : String) (limit : Nat)

/-- The sign that an assignment computes with. -/
def assigning? : Token → Option String
  | .sign t =>
    if t = "=" then some ""
    else if ["<=", ">=", "==", "!="].contains t then none
    else if t.toList.getLast? = some '=' then some (String.ofList t.toList.dropLast)
    else none
  | _ => none

/-- Computes what a goal asks for. What is `idle` is only read. The number bounds the depth. -/
def compute : Nat → Bool → Goal → Calc Int64
  | 0, _, _ => failSum "too deep"
  | depth + 1, idle, goal => do
    match goal with
    | .assignment =>
      match (← get).left with
      | .name name :: t :: _ =>
        match assigning? t with
        | none => compute depth idle .choice
        | some t =>
          skip
          skip
          let n ← compute depth idle .assignment
          if idle then return n
          let n ← if t.isEmpty then pure n else do apply t (← lookUp name) n
          assign name (some (String.ofList (Text.decimalChars n.toInt))) false false
          return n
      | _ => compute depth idle .choice
    | .choice =>
      let a ← compute depth idle .either
      if (← peek) ≠ some (.sign "?") then return a
      skip
      let b ← compute depth (idle || a = 0) .assignment
      if (← peek) ≠ some (.sign ":") then failSum "expecting ':'"
      skip
      let c ← compute depth (idle || a ≠ 0) .choice
      return if a ≠ 0 then b else c
    | .either =>
      let a ← compute depth idle .both
      if (← peek) ≠ some (.sign "||") then return a
      skip
      let b ← compute depth (idle || a ≠ 0) .either
      return truth (a ≠ 0 || b ≠ 0)
    | .both =>
      let a ← compute depth idle .operand
      let a ← match ← peek with
        | some (.sign t) =>
          if (level? t).isSome then compute depth idle (.rest a t levels.length) else pure a
        | _ => pure a
      if (← peek) ≠ some (.sign "&&") then return a
      skip
      let b ← compute depth (idle || a = 0) .both
      return truth (a ≠ 0 && b ≠ 0)
    | .rest a t limit =>
      skip
      let b ← compute depth idle .operand
      let own := (level? t).getD 0
      let b ← match ← peek with
        | some (.sign u) =>
          if (level? u).any (· < own) then compute depth idle (.rest b u own) else pure b
        | _ => pure b
      let a ← if idle then pure b else apply t a b
      match ← peek with
      | some (.sign u) =>
        if (level? u).any (· < limit) then compute depth idle (.rest a u limit) else return a
      | _ => return a
    | .operand =>
      let t ← peek
      skip
      match t with
      | some (.number n) => return n
      | some (.name name) => if idle then return 0 else lookUp name
      | some (.sign "(") =>
        let n ← compute depth idle .assignment
        if (← peek) ≠ some (.sign ")") then failSum "expecting ')'"
        skip
        return n
      | some (.sign "+") => compute depth idle .operand
      | some (.sign "-") => return -(← compute depth idle .operand)
      | some (.sign "!") => return truth ((← compute depth idle .operand) = 0)
      | some (.sign "~") => return ~~~(← compute depth idle .operand)
      | _ => failSum "expecting primary"

/-- The value of a sum. -/
def value (text : List Char) : Act Int64 := do
  let tokens := tokensFrom 0 text
  let (n, work) ← (compute (8 * tokens.length + 8) false .assignment).run
    { text := String.ofList text, left := tokens }
  if !work.left.isEmpty then
    let _ ← (failSum "expecting EOF" : Calc Unit).run work
  return n

end NestedShell.Host.Script.Sum

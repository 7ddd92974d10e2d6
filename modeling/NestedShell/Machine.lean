/-! Table-driven machines: rules keyed by a symbol and a state, and a stack of characters that
actions push back for another turn. -/
namespace NestedShell

/-- What a rule answers to: one character, or any character without an exact rule. -/
inductive Symbol where
  | char (c : Char)
  | any
  deriving DecidableEq

/-- Where a machine stands that starts in `home`; the character pushed back last comes first. -/
structure Cursor {S : Type} (home : S) where
  state : S := home
  stack : List Char := []
  deriving DecidableEq

/-- A cursor together with what the actions have collected. -/
structure Config {S : Type} (home : S) (σ : Type) where
  cursor : Cursor home := {}
  memory : σ

/-- What happens to a configuration when a rule fires on a character. -/
abbrev Action {S : Type} (home : S) (σ : Type) := Char → Config home σ → Config home σ

/-- A rule runs its action, then moves; without a `next` state it stays where the action left it. -/
structure Rule {S : Type} (home : S) (σ : Type) where
  action : Option (Action home σ)
  next : Option S

/-- A character that no rule covers, with the state and the stack (oldest first) it was met in. -/
structure Unmatched (S : Type) where
  symbol : Char
  state : S
  stack : List Char
  deriving DecidableEq

/-- The rules of a machine, newest first, and the rule for what none of them covers. -/
structure Table {S : Type} (home : S) (σ : Type) where
  rules : List ((Symbol × S) × Rule home σ) := []
  fallback : Option (Rule home σ) := none

variable {S : Type} {home : S} {σ : Type}

namespace Cursor

def isHome [DecidableEq S] (k : Cursor home) : Bool := k.state = home

/-- Schedules `c` for another turn. -/
def push (c : Char) (k : Cursor home) : Cursor home := { k with stack := c :: k.stack }

def pop (k : Cursor home) : Option Char × Cursor home :=
  match k.stack with
  | [] => (none, k)
  | c :: rest => (some c, { k with stack := rest })

@[simp] theorem pop_push (c : Char) (k : Cursor home) : (k.push c).pop = (some c, k) := rfl

end Cursor

namespace Config

def push (c : Char) (g : Config home σ) : Config home σ := { g with cursor := g.cursor.push c }

/-- Back to the initial state with nothing pushed back; the memory stays. -/
def reset (g : Config home σ) : Config home σ := { g with cursor := {} }

def update (f : σ → σ) (g : Config home σ) : Config home σ := { g with memory := f g.memory }

end Config

def Rule.fire (r : Rule home σ) (c : Char) (g : Config home σ) : Config home σ :=
  let g := match r.action with
    | some act => act c g
    | none => g
  match r.next with
  | some s => { g with cursor := { g.cursor with state := s } }
  | none => g

namespace Table

/-- A later rule for the same symbol and state takes precedence. -/
def insert (symbol : Symbol) (state : S) (r : Rule home σ) (t : Table home σ) : Table home σ :=
  { t with rules := ((symbol, state), r) :: t.rules }

def on (symbol : Symbol) (state : S) (act : Action home σ) (next : S) (t : Table home σ) :
    Table home σ :=
  t.insert symbol state ⟨some act, some next⟩

/-- A change of state with no action. -/
def jump (symbol : Symbol) (state next : S) (t : Table home σ) : Table home σ :=
  t.insert symbol state ⟨none, some next⟩

/-- The same rule for each of the characters. -/
def onEach (symbols : List Char) (state : S) (act : Action home σ) (next : S) (t : Table home σ) :
    Table home σ :=
  symbols.foldl (fun t c => t.on (.char c) state act next) t

def otherwise (act : Action home σ) (next : S) (t : Table home σ) : Table home σ :=
  { t with fallback := some ⟨some act, some next⟩ }

variable [DecidableEq S]

def lookup (t : Table home σ) (symbol : Symbol) (state : S) : Option (Rule home σ) :=
  t.rules.lookup (symbol, state)

@[simp] theorem lookup_empty (b : Symbol) (q : S) : ({} : Table home σ).lookup b q = none := rfl

@[simp] theorem lookup_insert (t : Table home σ) (a b : Symbol) (s q : S) (r : Rule home σ) :
    (t.insert a s r).lookup b q = if b = a ∧ q = s then some r else t.lookup b q := by
  grind [insert, lookup]

@[simp] theorem lookup_on (t : Table home σ) (a b : Symbol) (s q next : S) (act : Action home σ) :
    (t.on a s act next).lookup b q =
      if b = a ∧ q = s then some ⟨some act, some next⟩ else t.lookup b q :=
  lookup_insert t a b s q _

@[simp] theorem lookup_jump (t : Table home σ) (a b : Symbol) (s q next : S) :
    (t.jump a s next).lookup b q = if b = a ∧ q = s then some ⟨none, some next⟩ else t.lookup b q :=
  lookup_insert t a b s q _

theorem lookup_onEach (t : Table home σ) (symbols : List Char) (b : Symbol) (s q next : S)
    (act : Action home σ) :
    (t.onEach symbols s act next).lookup b q =
      if b ∈ symbols.map .char ∧ q = s then some ⟨some act, some next⟩ else t.lookup b q := by
  unfold onEach
  induction symbols generalizing t with
  | nil => simp
  | cons c cs ih =>
    rw [List.foldl_cons, ih]
    grind [lookup_on]

@[simp] theorem lookup_onEach_char (t : Table home σ) (symbols : List Char) (c : Char)
    (s q next : S) (act : Action home σ) :
    (t.onEach symbols s act next).lookup (.char c) q =
      if c ∈ symbols ∧ q = s then some ⟨some act, some next⟩ else t.lookup (.char c) q := by
  simp [lookup_onEach]

@[simp] theorem lookup_onEach_any (t : Table home σ) (symbols : List Char) (s q next : S)
    (act : Action home σ) :
    (t.onEach symbols s act next).lookup .any q = t.lookup .any q := by
  simp [lookup_onEach]

/-- The exact rule, else the rule of the state for any character, else the fallback. -/
def rule? (t : Table home σ) (c : Char) (state : S) : Option (Rule home σ) :=
  (t.lookup (.char c) state).or ((t.lookup .any state).or t.fallback)

/-- Where no rule applies the cursor goes home, the memory is untouched, and the miss is
returned. -/
def step (t : Table home σ) (c : Char) (g : Config home σ) :
    Option (Unmatched S) × Config home σ :=
  match t.rule? c g.cursor.state with
  | some r => (none, r.fire c g)
  | none => (some ⟨c, g.cursor.state, g.cursor.stack.reverse⟩, g.reset)

/-- Steps through the characters in order, up to the first miss. -/
def steps (t : Table home σ) : List Char → Config home σ → Option (Unmatched S) × Config home σ
  | [], g => (none, g)
  | c :: cs, g =>
    match t.step c g with
    | (none, g) => t.steps cs g
    | miss => miss

/-- Gives pushed-back characters their turn, newest first, up to a miss or the limit; the number
of characters taken comes first. -/
def drain (t : Table home σ) : Nat → Config home σ → Nat × Option (Unmatched S) × Config home σ
  | 0, g => (0, none, g)
  | limit + 1, g =>
    match g.cursor.pop with
    | (none, _) => (0, none, g)
    | (some c, k) =>
      match t.step c { g with cursor := k } with
      | (none, g) =>
        let (n, rest) := t.drain limit g
        (n + 1, rest)
      | miss => (1, miss)

end Table

end NestedShell

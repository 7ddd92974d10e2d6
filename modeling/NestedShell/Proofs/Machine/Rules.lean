import Mathlib.Data.List.Induction
import Mathlib.Tactic.Common
import NestedShell.Machine

/-! Machines whose rules are registered one after the other. Of the rules registered under one key
the last one counts and nothing else does, and behind a character that no rule covers a machine goes
on as a new one. -/
namespace NestedShell

variable {S : Type} {home : S} {σ : Type}

/-- What a rule is registered under: a symbol and a state, or neither for the fallback. -/
abbrev Key (S : Type) := Option (Symbol × S)

/-- A way to give rules to a machine. -/
inductive Registration {S : Type} (home : S) (σ : Type) where
  | insert (symbol : Symbol) (state : S) (rule : Rule home σ)
  | on (symbol : Symbol) (state : S) (act : Action home σ) (next : S)
  | jump (symbol : Symbol) (state next : S)
  | onEach (symbols : List Char) (state : S) (act : Action home σ) (next : S)
  | otherwise (act : Action home σ) (next : S)

namespace Registration

def run : Registration home σ → Table home σ → Table home σ
  | insert symbol state rule, t => t.insert symbol state rule
  | on symbol state act next, t => t.on symbol state act next
  | jump symbol state next, t => t.jump symbol state next
  | onEach symbols state act next, t => t.onEach symbols state act next
  | otherwise act next, t => t.otherwise act next

/-- The rules that are registered, each under its key, in their order. -/
def entries : Registration home σ → List (Key S × Rule home σ)
  | insert symbol state rule => [(some (symbol, state), rule)]
  | on symbol state act next => [(some (symbol, state), ⟨some act, some next⟩)]
  | jump symbol state next => [(some (symbol, state), ⟨none, some next⟩)]
  | onEach symbols state act next =>
    symbols.map fun c => (some (.char c, state), ⟨some act, some next⟩)
  | otherwise act next => [(none, ⟨some act, some next⟩)]

end Registration

/-- The rule is registered under the key, and none is behind it. -/
def LastRule (registrations : List (Registration home σ)) (key : Key S) (rule : Rule home σ) :
    Prop :=
  ∃ before after, registrations.flatMap Registration.entries = before ++ (key, rule) :: after ∧
    ∀ entry ∈ after, entry.1 ≠ key

/-- The rule that a character is met with in a state: the one for the character, else the one for
any character in that state, else the fallback. -/
inductive Covers (registrations : List (Registration home σ)) (c : Char) (state : S) :
    Rule home σ → Prop
  | exactly {rule} (last : LastRule registrations (some (.char c, state)) rule) :
      Covers registrations c state rule
  | any {rule} (inexact : ∀ other, ¬LastRule registrations (some (.char c, state)) other)
      (last : LastRule registrations (some (.any, state)) rule) : Covers registrations c state rule
  | fallback {rule} (inexact : ∀ other, ¬LastRule registrations (some (.char c, state)) other)
      (noAny : ∀ other, ¬LastRule registrations (some (.any, state)) other)
      (last : LastRule registrations none rule) : Covers registrations c state rule

namespace Table

/-- The rules of a machine that they were given to one after the other. -/
def build (registrations : List (Registration home σ)) : Table home σ :=
  registrations.foldl (fun t registration => registration.run t) {}

def enter (entry : Key S × Rule home σ) (t : Table home σ) : Table home σ :=
  match entry.1 with
  | some (symbol, state) => t.insert symbol state entry.2
  | none => { t with fallback := some entry.2 }

theorem run_eq_foldl_enter (registration : Registration home σ) (t : Table home σ) :
    registration.run t = registration.entries.foldl (fun t entry => t.enter entry) t := by
  cases registration with
  | onEach symbols state act next =>
    rw [Registration.entries, List.foldl_map]
    rfl
  | _ => rfl

theorem build_eq_foldl_enter (registrations : List (Registration home σ)) :
    build registrations =
      (registrations.flatMap Registration.entries).foldl (fun t entry => t.enter entry) {} := by
  rw [build, List.foldl_flatMap]
  simp only [run_eq_foldl_enter]

variable [DecidableEq S]

/-- The rule under a key. -/
def find? (t : Table home σ) : Key S → Option (Rule home σ)
  | some (symbol, state) => t.lookup symbol state
  | none => t.fallback

theorem find?_enter (entry : Key S × Rule home σ) (t : Table home σ) (key : Key S) :
    (t.enter entry).find? key = if key = entry.1 then some entry.2 else t.find? key := by
  obtain ⟨_ | ⟨symbol, state⟩, rule⟩ := entry <;> obtain _ | ⟨b, q⟩ := key
  · rfl
  · rfl
  · rfl
  · simp [enter, find?]

theorem find?_build (registrations : List (Registration home σ)) (key : Key S) :
    (build registrations).find? key =
      (registrations.flatMap Registration.entries).reverse.lookup key := by
  rw [build_eq_foldl_enter]
  induction registrations.flatMap Registration.entries using List.reverseRecOn with
  | nil => cases key <;> rfl
  | append_singleton entries entry ih =>
    rw [List.foldl_append, List.foldl_cons, List.foldl_nil, find?_enter, ih, List.reverse_append,
      List.reverse_singleton, List.singleton_append, List.lookup_cons]
    by_cases hkey : key = entry.1
    · simp [hkey]
    · rw [if_neg hkey, beq_false_of_ne hkey]

/-- A table holds the last rule that was registered under each key. -/
theorem find?_build_eq_some_iff {registrations : List (Registration home σ)} {key : Key S}
    {rule : Rule home σ} :
    (build registrations).find? key = some rule ↔ LastRule registrations key rule := by
  rw [find?_build, List.lookup_eq_some_iff, LastRule]
  constructor
  · rintro ⟨after, before, hentries, hafter⟩
    refine ⟨before.reverse, after.reverse, ?_, ?_⟩
    · simpa using congrArg List.reverse hentries
    · intro entry hentry heq
      simpa [heq] using hafter entry (List.mem_reverse.mp hentry)
  · rintro ⟨before, after, hentries, hafter⟩
    refine ⟨after.reverse, before.reverse, by simp [hentries], ?_⟩
    intro entry hentry
    simpa using (hafter entry (List.mem_reverse.mp hentry)).symm

theorem find?_build_eq_none_iff {registrations : List (Registration home σ)} {key : Key S} :
    (build registrations).find? key = none ↔ ∀ rule, ¬LastRule registrations key rule := by
  simp only [← find?_build_eq_some_iff, Option.eq_none_iff_forall_ne_some]

theorem rule?_eq (t : Table home σ) (c : Char) (state : S) :
    t.rule? c state =
      (t.find? (some (.char c, state))).or ((t.find? (some (.any, state))).or (t.find? none)) :=
  rfl

theorem rule?_build_eq_some_iff {registrations : List (Registration home σ)} {c : Char} {state : S}
    {rule : Rule home σ} :
    (build registrations).rule? c state = some rule ↔ Covers registrations c state rule := by
  simp only [rule?_eq, Option.or_eq_some_iff, find?_build_eq_some_iff, find?_build_eq_none_iff]
  constructor
  · rintro (h | ⟨hexact, h | ⟨hany, h⟩⟩)
    · exact .exactly h
    · exact .any hexact h
    · exact .fallback hexact hany h
  · rintro (h | ⟨hexact, h⟩ | ⟨hexact, hany, h⟩)
    · exact .inl h
    · exact .inr ⟨hexact, .inl h⟩
    · exact .inr ⟨hexact, .inr ⟨hany, h⟩⟩

end Table

/-- A machine that nothing has happened to yet, given a memory. -/
def Config.new (memory : σ) : Config home σ := { memory }

/-- What the rule makes of a configuration: its action has its way with it, and then the machine
moves. -/
def Rule.moved (rule : Rule home σ) (c : Char) (g : Config home σ) : Config home σ :=
  let acted := rule.action.elim g fun act => act c g
  ⟨⟨rule.next.getD acted.cursor.state, acted.cursor.stack⟩, acted.memory⟩

namespace Table

/-- What a machine is asked to do between two looks at it. -/
inductive Request where
  | process (c : Char)
  | processAll (text : String)
  | push (c : Char)
  | pop
  | reset

inductive Answer (S : Type) where
  | processed (miss : Option (Unmatched S))
  | popped (c : Option Char)
  | done

variable [DecidableEq S] {t u : Table home σ}

def serve (t : Table home σ) : Request → Config home σ → Answer S × Config home σ
  | .process c, g =>
    let (miss, g) := t.step c g
    (.processed miss, g)
  | .processAll text, g =>
    let (miss, g) := t.steps text.toList g
    (.processed miss, g)
  | .push c, g => (.done, g.push c)
  | .pop, g =>
    let (c, cursor) := g.cursor.pop
    (.popped c, { g with cursor })
  | .reset, g => (.done, g.reset)

/-- The answers to requests made one after the other, each with the configuration behind it. -/
def serveAll (t : Table home σ) : List Request → Config home σ → List (Answer S × Config home σ)
  | [], _ => []
  | request :: requests, g =>
    t.serve request g :: t.serveAll requests (t.serve request g).2

section
variable (h : ∀ c state, t.rule? c state = u.rule? c state)
include h

theorem step_congr (c : Char) (g : Config home σ) : t.step c g = u.step c g := by
  rw [step, step, h]

theorem steps_congr (cs : List Char) (g : Config home σ) : t.steps cs g = u.steps cs g := by
  induction cs generalizing g with
  | nil => rfl
  | cons c cs ih => simp only [steps, step_congr h, ih]

theorem serve_congr (request : Request) (g : Config home σ) :
    t.serve request g = u.serve request g := by
  cases request with
  | process c => simp only [serve, step_congr h]
  | processAll text => simp only [serve, steps_congr h]
  | push c => rfl
  | pop => rfl
  | reset => rfl

theorem serveAll_congr (requests : List Request) (g : Config home σ) :
    t.serveAll requests g = u.serveAll requests g := by
  induction requests generalizing g with
  | nil => rfl
  | cons request requests ih => rw [serveAll, serveAll, serve_congr h, ih]

end

/-- A rule that is found runs its action, and only then moves: what the action has done to the state
does not matter where the rule leads to one. -/
theorem step_of_rule? {c : Char} {g : Config home σ} {rule : Rule home σ}
    (h : t.rule? c g.cursor.state = some rule) : t.step c g = (none, rule.moved c g) := by
  obtain ⟨_ | act, _ | next⟩ := rule <;> simp [step, h, Rule.fire, Rule.moved]

theorem step_of_no_rule? {c : Char} {g : Config home σ} (h : t.rule? c g.cursor.state = none) :
    t.step c g = (some ⟨c, g.cursor.state, g.cursor.stack.reverse⟩, .new g.memory) := by
  simp [step, h, Config.reset, Config.new]

/-- The last rules under the keys decide about all that a machine does. The rule that covers a
character runs its action and then moves; a character that none covers is reported with the state
and the stack it was met in, and the machine goes on as a new one that has the memory. -/
theorem serveAll_of_lastRules (registrations : List (Registration home σ)) :
    (∀ others : List (Registration home σ),
      (∀ key rule, LastRule registrations key rule ↔ LastRule others key rule) →
        ∀ requests g, (build registrations).serveAll requests g =
          (build others).serveAll requests g) ∧
    ∀ (c : Char) (g : Config home σ) (requests : List Request),
      (∀ rule, Covers registrations c g.cursor.state rule →
        (build registrations).serveAll (.process c :: requests) g =
          (.processed none, rule.moved c g) ::
            (build registrations).serveAll requests (rule.moved c g)) ∧
      ((∀ rule, ¬Covers registrations c g.cursor.state rule) →
        (build registrations).serveAll (.process c :: requests) g =
          (.processed (some ⟨c, g.cursor.state, g.cursor.stack.reverse⟩), .new g.memory) ::
            (build registrations).serveAll requests (.new g.memory)) := by
  refine ⟨fun others hsame requests g => ?_, fun c g requests => ⟨fun rule hcovers => ?_,
    fun hnone => ?_⟩⟩
  · have hfind : ∀ key, (build registrations).find? key = (build others).find? key := by
      intro key
      ext rule
      rw [find?_build_eq_some_iff, find?_build_eq_some_iff, hsame]
    refine serveAll_congr (fun c state => ?_) requests g
    rw [rule?_eq, rule?_eq, hfind, hfind, hfind]
  · have hstep := step_of_rule? (rule?_build_eq_some_iff.mpr hcovers)
    simp only [serveAll, serve, hstep]
  · have hrule : (build registrations).rule? c g.cursor.state = none := by
      simp only [Option.eq_none_iff_forall_ne_some, Ne, rule?_build_eq_some_iff]
      exact hnone
    have hstep := step_of_no_rule? hrule
    simp only [serveAll, serve, hstep]

/-- Rules that are overwritten, a character that two of them are for, and one that none is for. -/
theorem serveAll_of_lastRules_overwritten :
    let keep : Action 0 (List Char) := fun c g => g.update (· ++ [c])
    let registrations : List (Registration 0 (List Char)) :=
      [.jump (.char 'a') 0 2, .onEach ['a', 'b'] 0 keep 0, .jump (.char 'a') 0 1]
    let others : List (Registration 0 (List Char)) :=
      [.on (.char 'b') 0 keep 0, .jump (.char 'a') 0 1]
    let g : Config 0 (List Char) := ⟨⟨1, ['q', 'p']⟩, ['b']⟩
    let requests : List Request := [.processAll "ba", .push 'q', .process 'x', .pop]
    (∀ key rule, LastRule registrations key rule ↔ LastRule others key rule) ∧
    (build registrations).serveAll requests (.new []) =
      (build others).serveAll requests (.new []) ∧
    Covers registrations 'a' 0 ⟨none, some 1⟩ ∧
    (build registrations).serveAll [.process 'a', .pop] (.new []) =
      [(.processed none, ⟨⟨1, []⟩, []⟩), (.popped none, ⟨⟨1, []⟩, []⟩)] ∧
    (∀ rule, ¬Covers registrations 'x' 1 rule) ∧
    (build registrations).serveAll [.process 'x', .pop] g =
      [(.processed (some ⟨'x', 1, ['p', 'q']⟩), .new ['b']), (.popped none, .new ['b'])] := by
  intro keep registrations others g requests
  have hlookup (b : Symbol) (q : Nat) :
      (build registrations).lookup b q = (build others).lookup b q := by
    simp only [registrations, others, build, List.foldl_cons, List.foldl_nil, Registration.run,
      lookup_jump, lookup_on, lookup_onEach, lookup_empty]
    grind
  have hsame : ∀ key rule, LastRule registrations key rule ↔ LastRule others key rule := by
    intro key rule
    rw [← find?_build_eq_some_iff, ← find?_build_eq_some_iff]
    cases key with
    | none => rfl
    | some key => rw [find?, find?, hlookup]
  have hcovers : Covers registrations 'a' 0 ⟨none, some 1⟩ := rule?_build_eq_some_iff.mp rfl
  have hnone : ∀ rule, ¬Covers registrations 'x' 1 rule := by
    intro rule hrule
    cases rule?_build_eq_some_iff.mpr hrule
  obtain ⟨halike, hserves⟩ := serveAll_of_lastRules registrations
  exact ⟨hsame, halike others hsame requests (.new []), hcovers,
    (hserves 'a' (.new []) [.pop]).1 _ hcovers, hnone, (hserves 'x' g [.pop]).2 hnone⟩

/-- A rule moves even where its action has sent the machine back to its initial state. -/
example : (build [.on (.char 'r') 3 (fun _ g => g.reset) 4] : Table 0 Unit).serveAll [.process 'r']
    ⟨⟨3, ['q']⟩, ()⟩ = [(.processed none, ⟨⟨4, []⟩, ()⟩)] :=
  rfl

end Table

end NestedShell

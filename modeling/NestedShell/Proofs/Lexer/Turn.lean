import Mathlib.Tactic.Common
import Mathlib.Tactic.SplitIfs
import NestedShell.Lexer
import NestedShell.Proofs.Machine.Turns

/-! What one character does to a lexer, mode by mode and without the table. A character that ends
a name is read twice, and nothing is ever pushed back by the second reading. -/
namespace NestedShell.Lexer

namespace Draft

@[simp] theorem add_empty (d : Draft) : d.add "" = d := by simp [add]

@[simp] theorem add_add (s t : String) (d : Draft) : (d.add s).add t = d.add (s ++ t) := by
  simp [add, String.append_assoc]

/-- A `$` without a name stands for itself. -/
def endName (vars : Lookup) (d : Draft) : Draft :=
  if d.name.isEmpty then { d with name := "" }.add "$"
  else { d with name := "" }.substitute vars d.name

def endBraced (vars : Lookup) (d : Draft) : Draft :=
  if isValidName d.name then { d with name := "" }.substitute vars d.name
  else { d with name := "" }.queue (.error (.expansion d.name .badSubstitution))

end Draft

namespace Mode

/-- The mode of the text around a reference. -/
def home : Mode → Mode
  | varStart | varName | varBraced => bare
  | varStartInDouble | varNameInDouble | varBracedInDouble => doubleQuote
  | m => m

/-- Whether `c` ends a name without belonging to the reference. -/
def endsName (c : Char) : Mode → Bool
  | varStart | varStartInDouble => !isNameChar c && c != '\x7b'
  | varName | varNameInDouble => !isNameChar c
  | _ => false

@[simp] theorem endsName_home (c : Char) (m : Mode) : m.home.endsName c = false := by
  cases m <;> rfl

/-- One step of the table. -/
def step (vars : Lookup) (c : Char) (d : Draft) : Mode → Mode × Draft
  | bare =>
    if c = '$' then (varStart, { d with name := "" })
    else if c = '"' then (doubleQuote, d)
    else if c = '\'' then (singleQuote, d)
    else if c = '\\' then (escape, d)
    else if c = ';' ∨ c = '\n' then (bare, d.endStatement)
    else if c = ' ' ∨ c = '\t' then (bare, d.breakWord)
    else (bare, d.add (.singleton c))
  | escape => (bare, d.add (.singleton (unescape c)))
  | singleQuote => if c = '\'' then (bare, d.endWord) else (singleQuote, d.add (.singleton c))
  | doubleQuote =>
    if c = '$' then (varStartInDouble, { d with name := "" })
    else if c = '\\' then (escapeInDouble, d)
    else if c = '\'' then (quoteInDouble, d.add (.singleton c))
    else if c = '"' then (bare, d.endWord)
    else (doubleQuote, d.add (.singleton c))
  | quoteInDouble => (if c = '\'' then doubleQuote else quoteInDouble, d.add (.singleton c))
  | escapeInDouble => (doubleQuote, d.add (.singleton (unescape c)))
  | varStart =>
    if isNameChar c then (varName, { d with name := d.name.push c })
    else if c = '\x7b' then (varBraced, d)
    else (bare, d.endName vars)
  | varName =>
    if isNameChar c then (varName, { d with name := d.name.push c }) else (bare, d.endName vars)
  | varBraced =>
    if c = '\x7d' then (bare, d.endBraced vars) else (varBraced, { d with name := d.name.push c })
  | varStartInDouble =>
    if isNameChar c then (varNameInDouble, { d with name := d.name.push c })
    else if c = '\x7b' then (varBracedInDouble, d)
    else (doubleQuote, d.endName vars)
  | varNameInDouble =>
    if isNameChar c then (varNameInDouble, { d with name := d.name.push c })
    else (doubleQuote, d.endName vars)
  | varBracedInDouble =>
    if c = '\x7d' then (doubleQuote, d.endBraced vars)
    else (varBracedInDouble, { d with name := d.name.push c })

/-- All that `c` brings about: where it ends a name it is read again, in the text around. -/
def turn (vars : Lookup) (c : Char) (d : Draft) (m : Mode) : Mode × Draft :=
  if m.endsName c then m.home.step vars c (d.endName vars) else m.step vars c d

theorem turn_blank {c : Char} (h : c = ' ' ∨ c = '\t') (vars : Lookup) (d : Draft) :
    bare.turn vars c d = (bare, d.breakWord) := by
  rcases h with rfl | rfl <;> rfl

theorem turn_terminator {c : Char} (h : c = ';' ∨ c = '\n') (vars : Lookup) (d : Draft) :
    bare.turn vars c d = (bare, d.endStatement) := by
  rcases h with rfl | rfl <;> rfl

theorem step_of_endsName {c : Char} {m : Mode} (h : m.endsName c) (vars : Lookup) (d : Draft) :
    m.step vars c d = (m.home, d.endName vars) := by
  cases m <;> simp_all [endsName, step, home]

end Mode

/-- No mode refuses a character, and only the end of a name is pushed back. -/
theorem step_grammar (vars : Lookup) (c : Char) (m : Mode) (d : Draft) (stack : List Char) :
    grammar.step c ⟨⟨m, stack⟩, ⟨vars, d⟩⟩ =
      (none, ⟨⟨(m.step vars c d).1, if m.endsName c then c :: stack else stack⟩,
        ⟨vars, (m.step vars c d).2⟩⟩) := by
  have hn : (c ∈ nameChars) = (isNameChar c = true) := by simp [isNameChar]
  cases m <;>
    simp [Table.step, Table.rule?, grammar, bareRules, quoteRules, references, hn, Mode.step,
      Mode.endsName] <;>
    repeat' split
  all_goals
    simp_all [Rule.fire, Config.update, Config.push, Cursor.push, onDraft, addChar, breakWord,
      endStatement, closeQuote, addEscaped, startName, nameChar, endName, endBraced,
      Draft.endName, Draft.endBraced]

/-- A lexer with nothing pushed back. -/
def inMode (m : Mode) (d : Draft) : Lexer := ⟨{ state := m }, d⟩

@[simp] theorem mode_inMode (m : Mode) (d : Draft) : (inMode m d).mode = m := rfl

@[simp] theorem draft_inMode (m : Mode) (d : Draft) : (inMode m d).draft = d := rfl

theorem inMode_of_stack (l : Lexer) (h : l.cursor.stack = []) : inMode l.mode l.draft = l := by
  obtain ⟨⟨m, stack⟩, d⟩ := l
  subst h
  rfl

/-- The loop over a character and what it pushes back ends after two steps at most, without a
miss and with nothing left to read. -/
theorem turns_grammar (vars : Lookup) (c : Char) (m : Mode) (d : Draft) :
    Turns grammar c ⟨⟨m, []⟩, ⟨vars, d⟩⟩ (if m.endsName c then 2 else 1) none
      ⟨⟨(m.turn vars c d).1, []⟩, ⟨vars, (m.turn vars c d).2⟩⟩ := by
  have hstep := step_grammar vars c m d []
  cases he : m.endsName c with
  | false =>
    simp only [he, Bool.false_eq_true, if_false] at hstep
    simpa [Mode.turn, he] using Turns.last hstep rfl
  | true =>
    have hagain := step_grammar vars c m.home (d.endName vars) []
    simp only [he, if_true, Mode.step_of_endsName he] at hstep
    simp only [Mode.endsName_home, Bool.false_eq_true, if_false] at hagain
    simpa [Mode.turn, he] using Turns.again hstep rfl (Turns.last hagain rfl)

theorem read_eq_drain (c : Char) (g : Reading) : read c g = (grammar.drain 2 (g.push c)).2 := by
  simp only [read, Table.drain, Config.push, Cursor.pop_push]
  split <;> simp_all

/-- The lexer does what the loop does, though it allows for no more than two steps. -/
theorem feedChar_inMode (vars : Lookup) (c : Char) (m : Mode) (d : Draft) :
    (inMode m d).feedChar vars c = inMode (m.turn vars c d).1 (m.turn vars c d).2 := by
  have hsteps : (if m.endsName c then 2 else 1) ≤ 2 := by split <;> omega
  have hread : read c ⟨⟨m, []⟩, ⟨vars, d⟩⟩ =
      (none, ⟨⟨(m.turn vars c d).1, []⟩, ⟨vars, (m.turn vars c d).2⟩⟩) := by
    rw [read_eq_drain, (turns_grammar vars c m d).drain_eq hsteps]
  simp [feedChar, inMode, hread]

end NestedShell.Lexer

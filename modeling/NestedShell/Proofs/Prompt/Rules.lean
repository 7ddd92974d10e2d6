import Mathlib.Tactic.Common
import NestedShell.Machine
import NestedShell.Prompt

/-! The escapes of a template as rules of a table-driven machine. The machine keeps the name that it
is in the middle of beside what it has put out, and a name is never carried over to the next one. -/
namespace NestedShell.Prompt

/-- Where in a template the machine stands. -/
inductive Spot where
  | text
  | percent
  | name
  | color
  deriving DecidableEq

/-- What has been put out, and the name begun. -/
structure Notes where
  out : String := ""
  name : String := ""

def onNotes (f : Char → Notes → Notes) : Action Spot.text Notes := fun c => Config.update (f c)

def addChar : Action Spot.text Notes := onNotes fun c n => { n with out := n.out.push c }

def addEscape (place : Place) (vars : Variables) : Action Spot.text Notes :=
  onNotes fun c n => { n with out := n.out ++ escape place vars c }

def startName : Action Spot.text Notes := onNotes fun _ n => { n with name := "" }

def nameChar : Action Spot.text Notes := onNotes fun c n => { n with name := n.name.push c }

def endName (vars : Variables) : Action Spot.text Notes :=
  onNotes fun _ n => { out := n.out ++ named vars n.name, name := "" }

/-- Each state has a rule for any character, so none is refused. -/
def rules (place : Place) (vars : Variables) : Table Spot.text Notes :=
  ({} : Table Spot.text Notes)
  |>.on .any .text addChar .text
  |>.jump (.char '%') .text .percent
  |>.on .any .percent (addEscape place vars) .text
  |>.on (.char '\x7b') .percent startName .name
  |>.jump (.char '[') .percent .color
  |>.insert .any .name ⟨some nameChar, none⟩
  |>.on (.char '\x7d') .name (endName vars) .text
  |>.insert .any .color ⟨none, none⟩
  |>.jump (.char ']') .color .text

/-- What is put out for an escape that the template ends in the middle of. -/
def Spot.unfinished (name : String) : Spot → String
  | percent => "%"
  | Spot.name => "%\x7b" ++ name
  | text | color => ""

/-- What the machine makes of a template; were a character refused, the template itself. -/
def render (place : Place) (vars : Variables) (template : String) : String :=
  match (rules place vars).steps template.toList { memory := {} } with
  | (none, g) => g.memory.out ++ g.cursor.state.unfinished g.memory.name
  | (some _, _) => template

/-- Where a reader stands that keeps nothing but the name. -/
def Spot.mode (name : String) : Spot → Mode
  | text => .text
  | percent => .percent
  | Spot.name => .name name.toList.reverse
  | color => .color

section
variable (place : Place) (vars : Variables)

/-- One step of the table. -/
def Spot.step (c : Char) (n : Notes) : Spot → Spot × Notes
  | text => if c = '%' then (percent, n) else (text, { n with out := n.out.push c })
  | percent =>
    if c = '\x7b' then (Spot.name, { n with name := "" })
    else if c = '[' then (color, n)
    else (text, { n with out := n.out ++ escape place vars c })
  | Spot.name =>
    if c = '\x7d' then (text, { out := n.out ++ named vars n.name, name := "" })
    else (Spot.name, { n with name := n.name.push c })
  | color => (if c = ']' then text else color, n)

theorem step_rules (c : Char) (s : Spot) (n : Notes) :
    (rules place vars).step c ⟨{ state := s }, n⟩ =
      (none, ⟨{ state := (s.step place vars c n).1 }, (s.step place vars c n).2⟩) := by
  cases s <;> simp [Table.step, Table.rule?, rules, Spot.step] <;> repeat' split
  all_goals
    simp_all [Rule.fire, Config.update, onNotes, addChar, addEscape, startName, nameChar, endName]

/-- What has been put out, together with what the reader makes of the rest, stays the same. -/
theorem out_step (c : Char) (cs : List Char) (s : Spot) (n : Notes) :
    (s.step place vars c n).2.out.toList ++ expandFrom place vars
        ((s.step place vars c n).1.mode (s.step place vars c n).2.name) cs =
      n.out.toList ++ expandFrom place vars (s.mode n.name) (c :: cs) := by
  cases s <;> simp only [Spot.step, Spot.mode, expandFrom] <;> repeat' split
  all_goals simp_all

theorem steps_rules (cs : List Char) (s : Spot) (n : Notes) :
    ∃ t m, (rules place vars).steps cs ⟨{ state := s }, n⟩ = (none, ⟨{ state := t }, m⟩) ∧
      (m.out ++ t.unfinished m.name).toList =
        n.out.toList ++ expandFrom place vars (s.mode n.name) cs := by
  induction cs generalizing s n with
  | nil =>
    refine ⟨s, n, rfl, ?_⟩
    cases s <;> simp [Spot.unfinished, Spot.mode, expandFrom]
  | cons c cs ih =>
    obtain ⟨t, m, hsteps, hout⟩ := ih (s.step place vars c n).1 (s.step place vars c n).2
    refine ⟨t, m, ?_, ?_⟩
    · rw [Table.steps, step_rules]
      exact hsteps
    · rw [hout, out_step]

/-- The machine refuses no character and makes of a template what the reader makes of it. -/
theorem render_eq_expand (template : String) :
    render place vars template = expand place vars template := by
  obtain ⟨t, m, hsteps, hout⟩ := steps_rules place vars template.toList .text {}
  rw [render, hsteps, expand, ← String.toList_inj, String.toList_ofList]
  exact hout

end

end NestedShell.Prompt

import NestedShell.Proofs.Lexer.Memory
import NestedShell.Proofs.Session.Dialogue
import NestedShell.Session.Script

/-! The sessions that can be reached from a new one, and what is true of the lexer of every one of
them: it is settled, and no event waits in it. -/
namespace NestedShell
variable {κ : Type}

namespace Session

@[simp] theorem lexer_pop (value : Option Value) (s : Session κ) :
    (s.pop value).1.lexer = s.lexer := by
  unfold pop
  split <;> rfl

variable [Blueprint κ]

@[simp] theorem lexer_dispatch (words : List String) (s : Session κ) :
    (s.dispatch words).1.lexer = s.lexer := by
  unfold dispatch
  split
  · rfl
  · rename_i ctx below _
    dsimp only
    cases (ctx.call words s.vars s.screen).flow with
    | quit value => exact lexer_pop value _
    | resume value => rfl
    | enter child => rfl
    | exit => rfl
    | interrupted => rfl

/-- Events leave the lexer as it is, unless one of them brings a halt. -/
theorem lexer_handle (events : List Lexer.Event) (s : Session κ) :
    (s.handle events).1.lexer = match (s.handle events).2 with
      | .ok () => s.lexer
      | .error _ => {} := by
  induction events generalizing s with
  | nil => rfl
  | cons event rest ih =>
    cases event with
    | error e =>
      rw [handle, ih, reportLexError_eq]
    | statement words =>
      have hlexer := lexer_dispatch words s
      rcases hrun : s.dispatch words with ⟨t, halt | ⟨⟩⟩ <;> rw [hrun] at hlexer <;>
        simp only [handle, hrun]
      · rfl
      · rw [ih, ← hlexer]

theorem rests_handle {s : Session κ} (h : s.lexer.Rests) (events : List Lexer.Event) :
    (s.handle events).1.lexer.Rests := by
  rw [lexer_handle]
  split
  · exact h
  · exact Lexer.rests_empty

theorem rests_feedChars {s : Session κ} (h : s.lexer.Rests) (cs : List Char) :
    (s.feedChars cs).1.lexer.Rests := by
  induction cs generalizing s with
  | nil => exact h
  | cons c cs ih =>
    have hfirst : (s.feedChar c).1.lexer.Rests :=
      rests_handle (.takeEvents (h.settled.feedChar s.vars.lookup c)) _
    rw [feedChars]
    rcases hc : s.feedChar c with ⟨t, halt | ⟨⟩⟩ <;> rw [hc] at hfirst
    · exact hfirst
    · exact ih hfirst

theorem rests_feed {s : Session κ} (h : s.lexer.Rests) (text : String) :
    (s.feed text).1.lexer.Rests := by
  have hchars := rests_feedChars h text.toList
  rw [feed]
  rcases hfed : s.feedChars text.toList with ⟨t, halt | ⟨⟩⟩ <;> rw [hfed] at hchars <;> exact hchars

theorem rests_runLines {s : Session κ} (h : s.lexer.Rests) (number : ℕ) (lines : List ScriptLine) :
    (s.runLines number lines).1.lexer.Rests := by
  induction lines generalizing number s with
  | nil =>
    rw [runLines]
    split
    · exact h
    · exact Lexer.rests_empty
  | cons line rest ih =>
    cases line with
    | error f => exact h
    | ok line =>
      have hline := rests_feed h (line.push '\n')
      rw [runLines]
      rcases hfed : s.feed (line.push '\n') with ⟨t, halt | progress⟩ <;> rw [hfed] at hline
      · exact hline
      · exact ih hline (number + 1)

theorem rests_hear {s : Session κ} (h : s.lexer.Rests) (text : String) :
    (s.hear text).1.lexer.Rests := by
  have hline := rests_feed h (text.push '\n')
  rw [hear]
  rcases hfed : s.feed (text.push '\n') with ⟨t, (_ | _ | _) | (_ | _)⟩ <;> rw [hfed] at hline <;>
    exact hline

theorem rests_take {s : Session κ} (h : s.lexer.Rests) (stage : Stage) (answer : Answer) :
    (s.take stage answer).1.lexer.Rests := by
  cases answer with
  | error message => cases stage <;> exact h
  | interrupted => cases stage <;> exact Lexer.rests_empty
  | eof =>
    cases stage with
    | continuation => exact Lexer.rests_empty
    | primary =>
      have hpop : ((s.print "").pop none).1.lexer.Rests := by
        rw [lexer_pop]
        exact h
      rw [take]
      rcases hleft : (s.print "").pop none with ⟨t, halt | ⟨⟩⟩ <;> rw [hleft] at hpop <;> exact hpop
  | line text =>
    cases stage with
    | continuation => exact rests_hear h text
    | primary =>
      rw [take]
      split
      · exact h
      · exact rests_hear h text

theorem rests_exchange {s : Session κ} (h : s.lexer.Rests) (stage : Stage)
    (answers : List Answer) : (s.exchange stage answers).outcome.1.lexer.Rests :=
  rests_take (by rwa [exchange, lexer_showPrompt]) stage _

theorem Talk.rests {stage : Stage} {answers : List Answer} {s t : Session κ}
    {exchanges : List (Exchange κ)} {result : Except Failure Unit}
    (h : Talk stage answers s exchanges t result) (hs : s.lexer.Rests) : t.lexer.Rests := by
  induction h with
  | ended ends => exact hs
  | @last stage answers s t result goes hover =>
    have hexchange := rests_exchange hs stage answers
    rwa [hover] at hexchange
  | @ask stage answers s next t exchanges u result goes hask _ ih =>
    have hexchange := rests_exchange hs stage answers
    rw [hask] at hexchange
    exact ih hexchange

/-- The sessions that there can be. Only what is read changes the lexer; whatever else is done to a
session, or to what belongs to it, leaves the lexer alone. -/
inductive Reachable : Session κ → Prop
  | new {s : Session κ} (hlexer : s.lexer = {}) : Reachable s
  | beside {s t : Session κ} (h : Reachable s) (hlexer : t.lexer = s.lexer) : Reachable t
  | feed {s : Session κ} (h : Reachable s) (text : String) : Reachable (s.feed text).1
  | converse {s : Session κ} (h : Reachable s) (answers : List Answer) :
    Reachable (s.converse answers).session
  | runScript {s : Session κ} (h : Reachable s) (lines : List ScriptLine) :
    Reachable (s.runScript lines).1

theorem Reachable.rests {s : Session κ} (h : Reachable s) : s.lexer.Rests := by
  induction h with
  | new hlexer => exact hlexer ▸ Lexer.rests_empty
  | beside _ hlexer ih => exact hlexer ▸ ih
  | feed _ text ih => exact rests_feed ih text
  | @converse s _ answers ih => exact (talk_exchanges answers s).1.rests ih
  | runScript _ lines ih => exact rests_runLines ih 1 lines

end Session

end NestedShell

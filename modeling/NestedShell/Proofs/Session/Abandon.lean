import NestedShell.Proofs.Session.Delivery
import NestedShell.Proofs.Session.Reach

/-! What a script or a dialogue leaves in the lexer when it is over. Only a failure to read input
while a statement is open leaves anything: the statement is then kept, and what is read next goes
on with it. -/
namespace NestedShell
variable {κ : Type}

/-- A dialogue that fails when it has asked for more of a statement. -/
def Dialogue.BreaksOff (d : Dialogue κ) : Prop :=
  (∃ failure, d.result = .error failure) ∧ ∃ q ∈ d.queries.getLast?, q.stage = .continuation

namespace Session

theorem progress_eq_incomplete {s : Session κ} :
    s.progress = .incomplete ↔ ¬ s.lexer.isComplete := by
  unfold progress
  split <;> simp_all

variable [Blueprint κ]

/-- A line of the script cannot be read, and the lines before it leave a statement open. -/
def BreaksOff (lines : List ScriptLine) (s : Session κ) : Prop :=
  ∃ (before : List String) (f : Failure) (rest : List ScriptLine),
    lines = before.map .ok ++ .error f :: rest ∧
      (s.feed (String.join (before.map (·.push '\n')))).2 = .ok .incomplete

/-- A text that is halted leaves nothing open. -/
theorem lexer_of_feed_error {text : String} {s t : Session κ} {halt : Halt}
    (h : s.feed text = (t, .error halt)) : t.lexer = {} := by
  obtain ⟨_, _, v, _, rfl, _⟩ := (feeds_of_feed_error h).exists_of_error rfl
  rfl

theorem not_breaksOff_nil (s : Session κ) : ¬ s.BreaksOff [] := by
  rintro ⟨before, f, rest, hlines, -⟩
  simp at hlines

theorem breaksOff_error (f : Failure) (rest : List ScriptLine) (s : Session κ) :
    s.BreaksOff (.error f :: rest) ↔ ¬ s.lexer.isComplete := by
  have hempty : s.feed "" = (s, .ok s.progress) := rfl
  rw [← progress_eq_incomplete]
  constructor
  · rintro ⟨before, g, more, hlines, hopen⟩
    cases before with
    | nil =>
      rw [List.map_nil, String.join_nil, hempty] at hopen
      exact Except.ok.inj hopen
    | cons line before => cases hlines
  · intro hopen
    refine ⟨[], f, rest, rfl, ?_⟩
    rw [List.map_nil, String.join_nil, hempty, hopen]

theorem breaksOff_ok (line : String) (rest : List ScriptLine) (s : Session κ) :
    s.BreaksOff (.ok line :: rest) ↔
      ∃ t progress, s.feed (line.push '\n') = (t, .ok progress) ∧ t.BreaksOff rest := by
  constructor
  · rintro ⟨before, f, more, hlines, hopen⟩
    cases before with
    | nil => cases hlines
    | cons first before =>
      obtain ⟨hfirst, rfl⟩ := List.cons.inj hlines
      obtain rfl := Except.ok.inj hfirst
      rw [List.map_cons, String.join_cons, feed_append] at hopen
      rcases hfed : s.feed (line.push '\n') with ⟨t, halt | progress⟩ <;> rw [hfed] at hopen
      · cases hopen
      · exact ⟨t, progress, rfl, before, f, more, rfl, hopen⟩
  · rintro ⟨t, progress, hfed, before, f, more, rfl, hopen⟩
    refine ⟨line :: before, f, more, rfl, ?_⟩
    rw [List.map_cons, String.join_cons, feed_append, hfed]
    exact hopen

theorem runLines_isComplete_iff (number : ℕ) (lines : List ScriptLine) (s : Session κ) :
    (s.runLines number lines).1.lexer.isComplete ↔ ¬ s.BreaksOff lines := by
  induction lines generalizing number s with
  | nil =>
    refine iff_of_true ?_ (not_breaksOff_nil s)
    rw [runLines]
    split
    · assumption
    · rfl
  | cons line rest ih =>
    cases line with
    | error f => rw [breaksOff_error, not_not, runLines]
    | ok line =>
      rw [breaksOff_ok, runLines]
      rcases hfed : s.feed (line.push '\n') with ⟨t, halt | progress⟩
      · refine iff_of_true ?_ (by simp)
        rw [lexer_of_feed_error hfed]
        rfl
      · simpa using ih (number + 1) t

/-- A failure leaves the session as the lines before it have left it. -/
theorem runLines_error (number : ℕ) (before : List String) (f : Failure) (rest : List ScriptLine)
    {s t : Session κ} {progress : Progress}
    (h : s.feed (String.join (before.map (·.push '\n'))) = (t, .ok progress)) :
    (s.runLines number (before.map .ok ++ .error f :: rest)).1 = t := by
  induction before generalizing number s with
  | nil =>
    cases h
    rfl
  | cons line before ih =>
    rw [List.map_cons, String.join_cons, feed_append] at h
    rw [List.map_cons, List.cons_append, runLines]
    rcases hfed : s.feed (line.push '\n') with ⟨u, halt | progress⟩ <;> rw [hfed] at h
    · cases h
    · exact ih (number + 1) h

/-- The answer that ends a dialogue leaves a statement open only if it fails at a continuation
prompt. -/
theorem take_isComplete_iff {stage : Stage} {answer : Answer} {s t : Session κ}
    {result : Except Failure Unit} (hs : Ready stage s) (hcontexts : s.contexts ≠ [])
    (h : s.take stage answer = (t, .over result)) :
    t.lexer.isComplete ↔ ¬ ((∃ failure, result = .error failure) ∧ stage = .continuation) := by
  have hstage : s.lexer.isComplete ↔ ¬ stage = .continuation := by
    rw [← hs.prompt]
    cases stage <;> simp
  have hhear : ∀ text, s.hear text = (t, .over result) →
      (t.lexer.isComplete ↔ ¬ ((∃ failure, result = .error failure) ∧ stage = .continuation)) := by
    intro text hover
    obtain ⟨rfl, -⟩ := hear_over hover
    refine iff_of_true ?_ (by simp)
    rw [hear] at hover
    rcases hfed : s.feed (text.push '\n') with ⟨u, (_ | _ | _) | (_ | _)⟩ <;> rw [hfed] at hover <;>
      cases hover <;> rw [lexer_of_feed_error hfed] <;> rfl
  cases answer with
  | error message => cases stage <;> cases h <;> simpa using hstage
  | interrupted => cases stage <;> cases h
  | eof =>
    cases stage with
    | continuation => cases h
    | primary =>
      obtain ⟨_, _, hlexer⟩ := take_eof_primary hcontexts
      rw [h] at hlexer
      have hlexer : t.lexer = s.lexer := hlexer
      simpa [hlexer] using hstage
  | line text =>
    cases stage with
    | continuation => exact hhear text h
    | primary =>
      rw [take] at h
      split at h
      · cases h
      · exact hhear text h

theorem Talk.isComplete_iff {stage : Stage} {answers : List Answer} {s t : Session κ}
    {exchanges : List (Exchange κ)} {result : Except Failure Unit}
    (h : Talk stage answers s exchanges t result) (hs : Ready stage s) :
    t.lexer.isComplete ↔ ¬ ((∃ failure, result = .error failure) ∧
      ∃ e ∈ exchanges.getLast?, e.stage = .continuation) := by
  induction h with
  | @ended stage _ _ ends =>
    have hstage : stage = .primary := by
      cases stage with
      | primary => rfl
      | continuation => simp [mustEnd] at ends
    exact iff_of_true (hs.prompt.mp hstage) (by simp)
  | @last stage answers s t result goes hover =>
    have hcontexts := hs.contexts_ne_nil goes
    rw [take_isComplete_iff hs.showPrompt (by rwa [contexts_showPrompt]) hover]
    simp [exchange]
  | @ask stage answers s next t exchanges u result goes hask hrest ih =>
    have hcontexts := hs.contexts_ne_nil goes
    rw [ih (ready_take hs.showPrompt (by rwa [contexts_showPrompt]) hask)]
    cases hrest <;> simp

end Session

theorem Lists.last_stage_iff {queries : List Query} {exchanges : List (Exchange κ)}
    (h : Lists queries exchanges) (stage : Stage) :
    (∃ q ∈ queries.getLast?, q.stage = stage) ↔ ∃ e ∈ exchanges.getLast?, e.stage = stage := by
  have hlast : queries.getLast?.map (·.stage) = exchanges.getLast?.map (·.stage) := by
    have hstages := congrArg (List.map Prod.fst) h
    simp only [List.map_map] at hstages
    rw [← List.getLast?_map, ← List.getLast?_map]
    exact congrArg List.getLast? hstages
  have hsome : ∀ {α : Type} (o : Option α) (f : α → Stage),
      (∃ x ∈ o, f x = stage) ↔ o.map f = some stage := by
    intro α o f
    simp [Option.map_eq_some_iff]
  rw [hsome, hsome, hlast]

namespace Session
variable [Blueprint κ]

/-- Whatever is in a script, and whatever a reader answers, the lexer is complete at the end unless
input could not be read while a statement was open, and then it is not. When it is complete it is
like a new one; and a text that is fed behind the failure of a script goes on with what was read
before it. -/
theorem isComplete_at_end_iff {s : Session κ} (hs : s.Reachable) (hcomplete : s.lexer.isComplete) :
    (∀ lines, let t := (s.runScript lines).1
      (t.lexer.isComplete ↔ ¬ s.BreaksOff lines) ∧ (t.lexer.isComplete ↔ t.lexer = {})) ∧
    (∀ answers, let t := (s.converse answers).session
      (t.lexer.isComplete ↔ ¬ (s.converse answers).BreaksOff) ∧
        (t.lexer.isComplete ↔ t.lexer = {})) ∧
    ∀ (before : List String) f rest t progress more,
      s.feed (String.join (before.map (·.push '\n'))) = (t, .ok progress) →
        (s.runScript (before.map .ok ++ .error f :: rest)).1.feed more =
          s.feed (String.join (before.map (·.push '\n')) ++ more) := by
  refine ⟨fun lines => ⟨runLines_isComplete_iff 1 lines s, ?_⟩, fun answers => ⟨?_, ?_⟩, ?_⟩
  · exact (hs.runScript lines).rests.isComplete_iff
  · obtain ⟨htalk, hlists⟩ := talk_exchanges answers s
    rw [Dialogue.BreaksOff, hlists.last_stage_iff]
    exact htalk.isComplete_iff (ready_primary hcomplete)
  · exact (hs.converse answers).rests.isComplete_iff
  · intro before f rest t progress more hfed
    rw [runScript, runLines_error 1 before f rest hfed, feed_append, hfed]

theorem reachable_single : single.Reachable := .new rfl

/-- A script of one line leaves no quote open behind it, and one that opens a quote before a line
that is no text does. -/
theorem isComplete_at_end_iff_single :
    single.Reachable ∧ single.lexer.isComplete ∧
      ¬ single.BreaksOff (scriptLines (Text.Utf8.encode "'")) ∧
        single.BreaksOff (scriptLines [39, 10, 255]) := by
  obtain ⟨hscript, -⟩ := isComplete_at_end_iff reachable_single (by decide)
  refine ⟨reachable_single, by decide, (hscript _).1.mp (by decide +kernel), ?_⟩
  exact not_not.mp (mt (hscript _).1.mpr (by decide +kernel))

/-- A quote that is open when a line of a script, or an answer, cannot be read stays open. -/
theorem not_complete_after_failure :
    single.Reachable ∧ single.lexer.isComplete ∧
      ¬ (single.runScript (scriptLines [39, 10, 255])).1.lexer.isComplete ∧
        ¬ (single.converse [.line "'", .error "broken"]).session.lexer.isComplete :=
  ⟨reachable_single, by decide, by decide +kernel, by decide +kernel⟩

end Session

end NestedShell

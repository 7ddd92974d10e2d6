import NestedShell.Proofs.Session.Nesting

/-! Dialogues come to an end, and keep the prompts that they show in step with the lexer: a primary
prompt is shown between statements, and a continuation prompt in the middle of one. -/
namespace NestedShell
variable {κ : Type}

/-- The failure that an answer brings the dialogue to. -/
def Answer.failure? : Answer → Option Failure
  | error message => some (Session.readFailure message)
  | _ => none

namespace Session

/-- The session is as a dialogue has it when it asks for input at a stage. -/
structure Ready (stage : Stage) (s : Session κ) : Prop where
  prompt : stage = .primary ↔ s.lexer.isComplete
  continued : stage = .continuation → s.contexts ≠ []

theorem ready_primary {s : Session κ} (h : s.lexer.isComplete) : Ready .primary s :=
  ⟨iff_of_true rfl h, nofun⟩

theorem ready_continuation {s : Session κ} (h : ¬ s.lexer.isComplete) (hs : s.contexts ≠ []) :
    Ready .continuation s :=
  ⟨iff_of_false nofun h, fun _ => hs⟩

theorem Ready.contexts_ne_nil {stage : Stage} {s : Session κ} (hs : Ready stage s)
    (goes : s.mustEnd stage = false) : s.contexts ≠ [] := by
  cases stage with
  | primary => simpa [mustEnd] using goes
  | continuation => exact hs.continued rfl

theorem Ready.showPrompt {stage : Stage} {s : Session κ} (hs : Ready stage s) :
    Ready stage (s.showPrompt stage) := by
  constructor
  · rw [lexer_showPrompt]
    exact hs.prompt
  · rw [contexts_showPrompt]
    exact hs.continued

variable [Blueprint κ]

theorem eq_of_run_mem_dispatchLog {words given : List String} {s u : Session κ}
    (h : (u, .run words) ∈ s.moments (s.dispatchLog given)) : u = s ∧ words = given := by
  unfold dispatchLog at h
  split at h
  · cases h
  · rcases List.mem_cons.mp h with heq | h
    · cases heq
      exact ⟨rfl, rfl⟩
    · exact absurd (mem_of_mem_moments h) run_mem_followLog

/-- Why a statement halts. -/
theorem dispatch_eq_error {words : List String} {s t : Session κ} {halt : Halt}
    (h : s.dispatch words = (t, .error halt)) :
    match halt with
    | .quit => t.contexts = []
    | .exit => s.flow? words = some .exit
    | .interrupted =>
      s.flow? words = some .interrupted ∧ t = (Deed.run words).perform s := by
  cases hflow : s.flow? words with
  | none =>
    rw [dispatch_of_flow_none hflow] at h
    cases h
    exact flow?_eq_none.mp hflow
  | some flow =>
    rw [dispatch_of_flow hflow] at h
    cases flow with
    | quit value =>
      obtain ⟨rfl, hnone⟩ := pop_eq_error h
      exact hnone
    | resume value => cases h
    | enter child => cases h
    | exit =>
      cases h
      rfl
    | interrupted =>
      cases h
      exact ⟨rfl, rfl⟩

theorem contexts_ne_nil_of_dispatch {words : List String} {s t : Session κ}
    (h : s.dispatch words = (t, .ok ())) : t.contexts ≠ [] := by
  cases hflow : s.flow? words with
  | none =>
    rw [dispatch_of_flow_none hflow] at h
    cases h
  | some flow =>
    have hrun : ((Deed.run words).perform s).contexts ≠ [] := by
      have hcontexts : s.contexts ≠ [] := fun hnone => by simp [flow?_eq_none.mpr hnone] at hflow
      obtain ⟨ctx, below, hcons⟩ := List.exists_cons_of_ne_nil hcontexts
      simp [Deed.perform, hcons]
    rw [dispatch_of_flow hflow] at h
    cases flow with
    | quit value =>
      obtain ⟨-, -, hsome⟩ := pop_eq_ok h
      exact hsome
    | enter child =>
      cases h
      exact List.cons_ne_nil _ _
    | resume value =>
      cases h
      exact hrun
    | exit => cases h
    | interrupted => cases h

theorem Feeds.contexts_ne_nil {s t : Session κ} {deeds : List (Deed κ)} {r : Except Halt Unit}
    (h : Feeds s deeds t r) (hr : r = .ok ()) (hs : s.contexts ≠ []) : t.contexts ≠ [] := by
  induction h with
  | done s => exact hs
  | read lexer _ ih => exact ih hr hs
  | write screen _ ih => exact ih hr hs
  | statement run _ ih => exact ih hr (contexts_ne_nil_of_dispatch run)
  | halt _ => cases hr

/-- A text is halted by a statement, and nothing is open then. -/
theorem Feeds.exists_of_error {s t : Session κ} {deeds : List (Deed κ)} {r : Except Halt Unit}
    (h : Feeds s deeds t r) {halt : Halt} (hr : r = .error halt) :
    ∃ u words v, u.dispatch words = (v, .error halt) ∧ t = v.resetLexer ∧
      ((u.flow? words).isSome → (u, .run words) ∈ s.moments deeds) := by
  induction h with
  | done s => cases hr
  | read lexer _ ih =>
    obtain ⟨u, words, v, hrun, ht, hmem⟩ := ih hr
    exact ⟨u, words, v, hrun, ht, fun hsome => List.mem_cons_of_mem _ (hmem hsome)⟩
  | write screen _ ih =>
    obtain ⟨u, words, v, hrun, ht, hmem⟩ := ih hr
    exact ⟨u, words, v, hrun, ht, fun hsome => List.mem_cons_of_mem _ (hmem hsome)⟩
  | statement run _ ih =>
    obtain ⟨u, words, v, hrun, ht, hmem⟩ := ih hr
    refine ⟨u, words, v, hrun, ht, fun hsome => ?_⟩
    rw [moments_append, perform_dispatchLog, run]
    exact List.mem_append_right _ (hmem hsome)
  | @halt s words v h run =>
    cases hr
    refine ⟨s, words, v, run, rfl, fun hsome => ?_⟩
    obtain ⟨flow, hflow⟩ := Option.isSome_iff_exists.mp hsome
    rw [moments_append, dispatchLog, hflow]
    exact List.mem_append_left _ List.mem_cons_self

/-- An interrupted statement is the last of its text. -/
theorem Feeds.of_interrupted {s t : Session κ} {deeds : List (Deed κ)} {r : Except Halt Unit}
    (h : Feeds s deeds t r) {u : Session κ} {words : List String}
    (hmem : (u, .run words) ∈ s.moments deeds) (hflow : u.flow? words = some .interrupted) :
    r = .error .interrupted ∧ t = ((Deed.run words).perform u).resetLexer := by
  have hdispatch : u.dispatch words = ((Deed.run words).perform u, .error .interrupted) :=
    dispatch_of_flow hflow
  induction h with
  | done s => cases hmem
  | read lexer _ ih => exact ih (List.mem_of_ne_of_mem (by simp) hmem)
  | write screen _ ih => exact ih (List.mem_of_ne_of_mem (by simp) hmem)
  | statement run _ ih =>
    rw [moments_append, perform_dispatchLog, run] at hmem
    rcases List.mem_append.mp hmem with hmem | hmem
    · obtain ⟨rfl, rfl⟩ := eq_of_run_mem_dispatchLog hmem
      rw [run] at hdispatch
      cases hdispatch
    · exact ih hmem
  | halt run =>
    rw [moments_append] at hmem
    rcases List.mem_append.mp hmem with hmem | hmem
    · obtain ⟨rfl, rfl⟩ := eq_of_run_mem_dispatchLog hmem
      rw [run] at hdispatch
      cases hdispatch
      exact ⟨rfl, rfl⟩
    · simp at hmem

theorem ready_hear {text : String} {s t : Session κ} {next : Stage} (hs : s.contexts ≠ [])
    (h : s.hear text = (t, .ask next)) : Ready next t := by
  rw [hear] at h
  rcases hfed : s.feed (text.push '\n') with ⟨u, halt | progress⟩ <;> rw [hfed] at h
  · cases halt <;> cases h
    obtain ⟨_, _, v, _, rfl, _⟩ := (feeds_of_feed_error hfed).exists_of_error rfl
    exact ready_primary rfl
  · obtain ⟨hfeeds, hprogress⟩ := feeds_of_feed_ok hfed
    have hu : u.contexts ≠ [] := hfeeds.contexts_ne_nil rfl hs
    unfold Session.progress at hprogress
    split at hprogress <;> subst hprogress <;> cases h <;> rename_i hcomplete
    · exact ready_primary hcomplete
    · exact ready_continuation hcomplete hu

/-- A line ends a dialogue when it leaves no context, or by a statement that exits. -/
theorem hear_over {text : String} {s t : Session κ} {result : Except Failure Unit}
    (h : s.hear text = (t, .over result)) :
    result = .ok () ∧ (t.contexts = [] ∨ ∃ u words,
      (u, .run words) ∈ s.moments (s.feedLog (text.push '\n')) ∧ u.flow? words = some .exit) := by
  rw [hear] at h
  rcases hfed : s.feed (text.push '\n') with ⟨u, halt | progress⟩ <;> rw [hfed] at h
  · obtain ⟨v, words, w, hrun, rfl, hmem⟩ := (feeds_of_feed_error hfed).exists_of_error rfl
    have hwhy := dispatch_eq_error hrun
    cases halt <;> cases h
    · exact ⟨rfl, .inl hwhy⟩
    · have hflow : v.flow? words = some .exit := hwhy
      exact ⟨rfl, .inr ⟨v, words, hmem (by simp [hflow]), hflow⟩⟩
  · cases progress <;> cases h

theorem hear_of_interrupted {text : String} {s u : Session κ} {words : List String}
    (hmem : (u, .run words) ∈ s.moments (s.feedLog (text.push '\n')))
    (hflow : u.flow? words = some .interrupted) :
    s.hear text = (((Deed.run words).perform u).resetLexer.print "", .ask .primary) := by
  rcases hfed : s.feed (text.push '\n') with ⟨t, halt | progress⟩
  · obtain ⟨hhalt, rfl⟩ := (feeds_of_feed_error hfed).of_interrupted hmem hflow
    cases hhalt
    rw [hear, hfed]
  · cases ((feeds_of_feed_ok hfed).1.of_interrupted hmem hflow).1

/-- Statements are run by lines alone. -/
theorem run_mem_takeLog {stage : Stage} {answer : Answer} {s u : Session κ} {words : List String}
    (h : (u, .run words) ∈ s.moments (s.takeLog stage answer)) :
    ∃ text, s.take stage answer = s.hear text ∧
      (u, .run words) ∈ s.moments (s.feedLog (text.push '\n')) := by
  have hline : ∀ text, (u, .run words) ∈ s.moments (s.hearLog text) →
      (u, .run words) ∈ s.moments (s.feedLog (text.push '\n')) := by
    intro text hmem
    rw [hearLog, moments_append] at hmem
    refine (List.mem_append.mp hmem).resolve_right fun hwrite => ?_
    split at hwrite <;> simp at hwrite
  cases answer with
  | error message => cases stage <;> cases h
  | interrupted => cases stage <;> simp [takeLog] at h
  | eof =>
    cases stage with
    | continuation => simp [takeLog] at h
    | primary =>
      have hmem := List.mem_of_ne_of_mem (by simp) (mem_of_mem_moments h)
      exact absurd hmem run_mem_popLog
  | line text =>
    cases stage with
    | continuation => exact ⟨text, rfl, hline text h⟩
    | primary =>
      rw [takeLog] at h
      split at h
      · cases h
      · rename_i hempty
        exact ⟨text, by rw [take, if_neg hempty], hline text h⟩

theorem take_eof_primary {s : Session κ} (hs : s.contexts ≠ []) :
    ∃ child, s.contexts = child :: (s.take .primary .eof).1.contexts ∧
      (s.take .primary .eof).1.lexer = s.lexer := by
  rw [take, pop]
  rcases hcontexts : s.contexts with _ | ⟨child, _ | ⟨parent, below⟩⟩
  · exact absurd hcontexts hs
  · exact ⟨child, by simp [print, hcontexts]⟩
  · exact ⟨child, by simp [print, hcontexts]⟩

theorem ready_take {stage next : Stage} {answer : Answer} {s t : Session κ} (hs : Ready stage s)
    (hcontexts : s.contexts ≠ []) (h : s.take stage answer = (t, .ask next)) : Ready next t := by
  cases answer with
  | error message => cases stage <;> cases h
  | interrupted => cases stage <;> cases h <;> exact ready_primary rfl
  | eof =>
    obtain ⟨rfl, -⟩ := take_eof_eq_ask h
    cases stage with
    | continuation =>
      cases h
      exact ready_primary rfl
    | primary =>
      obtain ⟨_, _, hlexer⟩ := take_eof_primary hcontexts
      rw [h] at hlexer
      exact ready_primary (hlexer ▸ hs.prompt.mp rfl)
  | line text =>
    cases stage with
    | continuation => exact ready_hear hcontexts h
    | primary =>
      rw [take] at h
      split at h
      · cases h
        exact hs
      · exact ready_hear hcontexts h

/-- What brings a dialogue to its end. -/
theorem take_over {stage : Stage} {answer : Answer} {s t : Session κ}
    {result : Except Failure Unit} (h : s.take stage answer = (t, .over result)) :
    match result with
    | .ok () => t.contexts = [] ∨ ∃ u words,
        (u, .run words) ∈ s.moments (s.takeLog stage answer) ∧ u.flow? words = some .exit
    | .error failure => answer.failure? = some failure := by
  have hhear : ∀ text, s.hear text = (t, .over result) → result = .ok () ∧
      (t.contexts = [] ∨ ∃ u words,
        (u, .run words) ∈ s.moments (s.hearLog text) ∧ u.flow? words = some .exit) := by
    intro text hover
    obtain ⟨hok, hwhy⟩ := hear_over hover
    refine ⟨hok, hwhy.imp_right fun ⟨u, words, hmem, hflow⟩ => ⟨u, words, ?_, hflow⟩⟩
    rw [hearLog, moments_append]
    exact List.mem_append_left _ hmem
  cases answer with
  | error message => cases stage <;> cases h <;> rfl
  | interrupted => cases stage <;> cases h
  | eof =>
    cases stage with
    | continuation => cases h
    | primary =>
      rw [take] at h
      rcases hpop : (s.print "").pop none with ⟨u, halt | ⟨⟩⟩ <;> rw [hpop] at h <;> cases h
      exact .inl (pop_eq_error hpop).2
  | line text =>
    cases stage with
    | continuation =>
      obtain ⟨rfl, hwhy⟩ := hhear text h
      exact hwhy
    | primary =>
      rw [take] at h
      split at h
      · cases h
      · rename_i hempty
        obtain ⟨rfl, hwhy⟩ := hhear text h
        simpa only [takeLog, if_neg hempty] using hwhy

end Session

namespace Exchange
variable [Blueprint κ]

/-- The words are run as a statement, and `u` is the session just before that. -/
def Runs (e : Exchange κ) (u : Session κ) (words : List String) : Prop :=
  (u, .run words) ∈ e.asked.moments e.log

theorem runs_iff {e : Exchange κ} {u : Session κ} {words : List String} :
    e.Runs u words ↔ (u, .run words) ∈ e.asked.moments (e.asked.takeLog e.stage e.answer) := by
  rw [Runs, log, Session.moments_cons]
  exact ⟨List.mem_of_ne_of_mem (by simp), List.mem_cons_of_mem _⟩

/-- The exchange has the prompt that is due, and what breaks off a statement drops it and does
nothing to the contexts. -/
structure InStep (e : Exchange κ) : Prop where
  prompt : e.stage = .primary ↔ e.asked.lexer.isComplete
  contexts_ne_nil : e.asked.contexts ≠ []
  interrupted : e.answer = .interrupted → e.outcome = (e.asked.resetLexer, .ask .primary)
  dropped : e.answer = .eof → e.stage = .continuation →
    e.outcome = (e.asked.resetLexer, .ask .primary)
  /-- The handler of the statement may have changed the aliases before it was interrupted. -/
  broken : ∀ u words, e.Runs u words → u.flow? words = some .interrupted →
    e.outcome.1.lexer = {} ∧ e.outcome.2 = .ask .primary ∧
      ∃ ctx aliases below, u.contexts = ctx :: below ∧
        e.outcome.1.contexts = { ctx with aliases } :: below
  left : e.answer = .eof → e.stage = .primary →
    ∃ child, e.asked.contexts = child :: e.outcome.1.contexts

end Exchange

namespace Session
variable [Blueprint κ] {stage next : Stage} {answers : List Answer} {s t : Session κ}
  {exchanges : List (Exchange κ)} {result : Except Failure Unit}

theorem inStep_exchange (hs : Ready stage s) (goes : s.mustEnd stage = false) :
    (s.exchange stage answers).InStep := by
  have hcontexts : (s.showPrompt stage).contexts ≠ [] := by
    rw [contexts_showPrompt]
    exact hs.contexts_ne_nil goes
  refine ⟨hs.showPrompt.prompt, hcontexts, fun hanswer => ?_, fun hanswer hstage => ?_,
    fun u words hruns hflow => ?_, fun hanswer hstage => ?_⟩
  · rw [Exchange.outcome, hanswer]
    cases stage <;> rfl
  · rw [Exchange.outcome, hanswer, hstage]
    rfl
  · obtain ⟨text, htake, hmem⟩ := run_mem_takeLog (Exchange.runs_iff.mp hruns)
    rw [Exchange.outcome, htake, hear_of_interrupted hmem hflow]
    have hu : u.contexts ≠ [] := fun hnone => by simp [flow?_eq_none.mpr hnone] at hflow
    obtain ⟨ctx, below, hcons⟩ := List.exists_cons_of_ne_nil hu
    obtain ⟨aliases, hcall⟩ := ctx.exists_context_call words u.vars u.screen
    exact ⟨rfl, rfl, ctx, aliases, below, hcons, by
      simp [print, resetLexer, Deed.perform, hcons, hcall]⟩
  · obtain ⟨child, hchild, -⟩ := take_eof_primary hcontexts
    rw [Exchange.outcome, hanswer, hstage]
    exact ⟨child, hchild⟩

theorem Talk.inStep (h : Talk stage answers s exchanges t result) (hs : Ready stage s) :
    ∀ e ∈ exchanges, e.InStep := by
  induction h with
  | ended ends => exact nofun
  | last goes hover => simpa using inStep_exchange hs goes
  | ask goes hask _ ih =>
    have hnext := ready_take hs.showPrompt
      (by simpa using hs.contexts_ne_nil goes) hask
    exact List.forall_mem_cons.mpr ⟨inStep_exchange hs goes, ih hnext⟩

/-- While there is a context, the prompt that an answer leads to is the one that is shown next. -/
theorem Talk.goes_on {before rest : List (Exchange κ)} {e : Exchange κ}
    (h : Talk stage answers s (before ++ e :: rest) t result) (hask : e.outcome.2 = .ask next)
    (hcontexts : e.outcome.1.contexts ≠ []) :
    ∃ later more, rest = later :: more ∧ later.stage = next ∧
      later.asked = e.outcome.1.showPrompt next := by
  generalize hall : before ++ e :: rest = all at h
  induction h generalizing before with
  | ended ends => simp at hall
  | last goes hover =>
    obtain ⟨-, rfl, -⟩ : before = [] ∧ _ ∧ rest = [] := by
      simpa [List.append_eq_singleton_iff] using hall
    rw [hover] at hask
    cases hask
  | ask goes hask' hrest ih =>
    rcases List.append_eq_cons_iff.mp hall with ⟨rfl, hcons⟩ | ⟨before', rfl, hrest'⟩
    · obtain ⟨rfl, rfl⟩ := List.cons.inj hcons
      rw [hask'] at hask hcontexts
      cases hask
      cases hrest with
      | ended ends => simp [mustEnd, hcontexts] at ends
      | last => exact ⟨_, _, rfl, rfl, by rw [hask']; rfl⟩
      | ask => exact ⟨_, _, rfl, rfl, by rw [hask']; rfl⟩
    · exact ih hrest'.symm

theorem Talk.ends (h : Talk stage answers s exchanges t result) :
    match result with
    | .ok () => t.contexts = [] ∨ ∃ e ∈ exchanges.getLast?, ∃ u words,
        e.Runs u words ∧ u.flow? words = some .exit
    | .error failure => ∃ e ∈ exchanges.getLast?, e.answer.failure? = some failure := by
  induction h with
  | @ended stage _ _ ends =>
    cases stage
    · simpa [mustEnd] using ends
    · simp [mustEnd] at ends
  | @last stage answers s t result goes hover =>
    have hwhy := take_over hover
    cases result with
    | ok =>
      rcases hwhy with hnone | ⟨u, words, hmem, hflow⟩
      · exact .inl hnone
      · exact .inr ⟨_, rfl, u, words, Exchange.runs_iff.mpr hmem, hflow⟩
    | error failure => exact ⟨_, rfl, hwhy⟩
  | @ask _ _ _ _ _ exchanges _ result goes hask hrest ih =>
    have hlast : ∀ first, ∀ e ∈ exchanges.getLast?, e ∈ (first :: exchanges).getLast? := by
      intro first e he
      simp [List.getLast?_cons, Option.mem_def.mp he]
    cases result with
    | ok =>
      rcases ih with hnone | ⟨e, he, hexit⟩
      · exact .inl hnone
      · exact .inr ⟨e, hlast _ e he, hexit⟩
    | error failure =>
      obtain ⟨e, he, hfailure⟩ := ih
      exact ⟨e, hlast _ e he, hfailure⟩

/-- A dialogue comes to an end, whatever is answered, when nothing more is ever answered than `eof`
after the answers, and there is one course that it can take. Its prompts are in step with the lexer,
and what an answer leads to comes next. It succeeds only if no context is left or a statement has
exited, and fails only if the reader does. -/
theorem dialogue_in_step (s : Session κ) (answers : List Answer)
    (hcomplete : s.lexer.isComplete) :
    Talk .primary answers s (s.exchanges answers) (s.converse answers).session
      (s.converse answers).result ∧
    (∀ course t result, Talk .primary answers s course t result →
      course = s.exchanges answers ∧ t = (s.converse answers).session ∧
        result = (s.converse answers).result) ∧
    Lists (s.converse answers).queries (s.exchanges answers) ∧
    (∀ e ∈ s.exchanges answers, e.InStep) ∧
    (∀ before e rest next, s.exchanges answers = before ++ e :: rest →
      e.outcome.2 = .ask next → e.outcome.1.contexts ≠ [] →
        ∃ later more, rest = later :: more ∧ later.stage = next ∧
          later.asked = e.outcome.1.showPrompt next) ∧
    ((s.converse answers).result = .ok () →
      (s.converse answers).session.contexts = [] ∨
        ∃ e ∈ (s.exchanges answers).getLast?, ∃ u words,
          e.Runs u words ∧ u.flow? words = some .exit) ∧
    ∀ failure, (s.converse answers).result = .error failure →
      ∃ e ∈ (s.exchanges answers).getLast?, e.answer.failure? = some failure := by
  obtain ⟨htalk, hlists⟩ := talk_exchanges answers s
  refine ⟨htalk, fun course t result hcourse => hcourse.unique htalk, hlists,
    htalk.inStep (ready_primary hcomplete), ?_, fun hok => ?_, fun failure herror => ?_⟩
  · intro before e rest next hsplit hask hcontexts
    rw [hsplit] at htalk
    exact htalk.goes_on hask hcontexts
  · rw [hok] at htalk
    exact htalk.ends
  · rw [herror] at htalk
    exact htalk.ends

/-- A statement is left open and dropped, a context is opened, and then the input ends. -/
def openAndNest : List Answer := [.line "'", .interrupted, .line "nest"]

theorem dialogue_in_step_openAndNest :
    single.lexer.isComplete ∧ (∀ e ∈ single.exchanges openAndNest, e.InStep) ∧
      (single.exchanges openAndNest).map (·.stage) =
        [.primary, .continuation, .primary, .primary, .primary] := by
  have hcomplete : single.lexer.isComplete := by decide
  obtain ⟨-, -, -, hsteps, -⟩ := dialogue_in_step single openAndNest hcomplete
  exact ⟨hcomplete, hsteps, by decide +kernel⟩

end Session

end NestedShell

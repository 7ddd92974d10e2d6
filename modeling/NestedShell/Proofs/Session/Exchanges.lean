import NestedShell.Proofs.Session.Deeds
import NestedShell.Session.Dialogue

/-! Dialogues as what they consist of, exchanges of a prompt and an answer. The loop of a dialogue
sets no bound on their number; it ends all the same. -/
namespace NestedShell
variable {κ : Type}

/-- An answer, with the session as it is when the prompt has been shown. -/
structure Exchange (κ : Type) where
  stage : Stage
  asked : Session κ
  answer : Answer

namespace Session

@[simp] theorem contexts_showPrompt (stage : Stage) (s : Session κ) :
    (s.showPrompt stage).contexts = s.contexts := by
  unfold showPrompt
  split <;> rfl

@[simp] theorem lexer_showPrompt (stage : Stage) (s : Session κ) :
    (s.showPrompt stage).lexer = s.lexer := by
  unfold showPrompt
  split <;> rfl

theorem showPrompt_eq (stage : Stage) (s : Session κ) :
    s.showPrompt stage = { s with screen := (s.showPrompt stage).screen } := by
  unfold showPrompt
  split <;> rfl

/-- The next exchange with a reader that has these answers left. One that has none left answers
`eof`, now and for ever. -/
def exchange (stage : Stage) (answers : List Answer) (s : Session κ) : Exchange κ :=
  ⟨stage, s.showPrompt stage, answers.headD .eof⟩

/-- How many times `eof` must be answered at a stage, at most, for the dialogue to end. -/
def patience (stage : Stage) (s : Session κ) : ℕ :=
  match stage with
  | .primary => s.depth
  | .continuation => s.depth + 1

@[simp] theorem patience_showPrompt (stage : Stage) (s : Session κ) :
    (s.showPrompt stage).patience stage = s.patience stage := by
  cases stage <;> simp [patience, depth]

theorem mustEnd_of_patience {stage : Stage} {s : Session κ} (h : s.patience stage = 0) :
    s.mustEnd stage := by
  cases stage with
  | primary =>
    have hcontexts : s.contexts = [] := List.length_eq_zero_iff.mp h
    simp [mustEnd, hcontexts]
  | continuation => cases h

variable [Blueprint κ]

def hearLog (text : String) (s : Session κ) : List (Deed κ) :=
  s.feedLog (text.push '\n') ++
    match s.feed (text.push '\n') with
    | (t, .error .interrupted) => [.write (t.print "").screen]
    | _ => []

def takeLog (stage : Stage) (answer : Answer) (s : Session κ) : List (Deed κ) :=
  match stage, answer with
  | _, .error _ => []
  | _, .interrupted | .continuation, .eof => [.read {}]
  | .primary, .eof => .write (s.print "").screen :: (s.print "").popLog none
  | .primary, .line text => if text.isEmpty then [] else s.hearLog text
  | .continuation, .line text => s.hearLog text

theorem perform_hearLog (text : String) (s : Session κ) :
    s.perform (s.hearLog text) = (s.hear text).1 := by
  rw [hearLog, perform_append, perform_feedLog, hear]
  rcases s.feed (text.push '\n') with ⟨t, (_ | _ | _) | (_ | _)⟩ <;> rfl

theorem perform_takeLog (stage : Stage) (answer : Answer) (s : Session κ) :
    s.perform (s.takeLog stage answer) = (s.take stage answer).1 := by
  cases answer with
  | error message => cases stage <;> rfl
  | interrupted => cases stage <;> rfl
  | eof =>
    cases stage with
    | continuation => rfl
    | primary =>
      have hpop := perform_popLog none (s.print "")
      rw [takeLog, take, perform_cons]
      refine hpop.trans ?_
      rcases (s.print "").pop none with ⟨t, _ | _⟩ <;> rfl
  | line text =>
    cases stage with
    | continuation => exact perform_hearLog text s
    | primary =>
      rw [takeLog, take]
      split
      · rfl
      · exact perform_hearLog text s

end Session

namespace Exchange
variable [Blueprint κ]

def outcome (e : Exchange κ) : Session κ × Turn := e.asked.take e.stage e.answer

def log (e : Exchange κ) : List (Deed κ) :=
  .write e.asked.screen :: e.asked.takeLog e.stage e.answer

end Exchange

namespace Session
variable [Blueprint κ]

theorem perform_exchange (stage : Stage) (answers : List Answer) (s : Session κ) :
    s.perform (s.exchange stage answers).log = (s.exchange stage answers).outcome.1 := by
  rw [Exchange.log, perform_cons, Deed.perform, exchange, ← showPrompt_eq]
  exact perform_takeLog _ _ _

/-- The loop of a dialogue, without a bound: from a stage and the answers that are left, the
exchanges up to its end, the session then, and the result. -/
inductive Talk :
    Stage → List Answer → Session κ → List (Exchange κ) → Session κ → Except Failure Unit → Prop
  | ended {stage answers s} (ends : s.mustEnd stage) : Talk stage answers s [] s (.ok ())
  | last {stage answers s t result} (goes : s.mustEnd stage = false)
    (hover : (s.exchange stage answers).outcome = (t, .over result)) :
    Talk stage answers s [s.exchange stage answers] t result
  | ask {stage answers s next t exchanges u result} (goes : s.mustEnd stage = false)
    (ask : (s.exchange stage answers).outcome = (t, .ask next))
    (rest : Talk next answers.tail t exchanges u result) :
    Talk stage answers s (s.exchange stage answers :: exchanges) u result

theorem Talk.unique {stage : Stage} {answers : List Answer} {s t u : Session κ}
    {exchanges others : List (Exchange κ)} {result outcome : Except Failure Unit}
    (h : Talk stage answers s exchanges t result) (h' : Talk stage answers s others u outcome) :
    exchanges = others ∧ t = u ∧ result = outcome := by
  induction h generalizing others u outcome with
  | ended ends =>
    cases h' with
    | ended => exact ⟨rfl, rfl, rfl⟩
    | last goes => simp [ends] at goes
    | ask goes => simp [ends] at goes
  | last goes hover =>
    cases h' with
    | ended ends => simp [ends] at goes
    | last _ hover' =>
      rw [hover] at hover'
      cases hover'
      exact ⟨rfl, rfl, rfl⟩
    | ask _ hask =>
      rw [hover] at hask
      cases hask
  | ask goes hask _ ih =>
    cases h' with
    | ended ends => simp [ends] at goes
    | last _ hover =>
      rw [hask] at hover
      cases hover
    | ask _ hask' rest =>
      rw [hask] at hask'
      cases hask'
      obtain ⟨rfl, rfl, rfl⟩ := ih rest
      exact ⟨rfl, rfl, rfl⟩

theorem Talk.perform {stage : Stage} {answers : List Answer} {s t : Session κ}
    {exchanges : List (Exchange κ)} {result : Except Failure Unit}
    (h : Talk stage answers s exchanges t result) :
    s.perform (exchanges.flatMap (·.log)) = t := by
  induction h with
  | ended ends => rfl
  | last goes hover => rw [List.flatMap_cons, List.flatMap_nil, List.append_nil, perform_exchange,
      hover]
  | ask goes hask _ ih => rw [List.flatMap_cons, perform_append, perform_exchange, hask, ih]

/-- An `eof` at a primary prompt takes one context away, and any other `eof` leads to a primary
prompt. -/
theorem take_eof_eq_ask {stage next : Stage} {s t : Session κ}
    (h : s.take stage .eof = (t, .ask next)) :
    next = .primary ∧ (stage = .primary → t.depth + 1 = s.depth) ∧
      (stage = .continuation → t.depth = s.depth) := by
  cases stage with
  | continuation =>
    cases h
    exact ⟨rfl, nofun, fun _ => rfl⟩
  | primary =>
    rw [take] at h
    rcases hpop : (s.print "").pop none with ⟨u, halt | ⟨⟩⟩ <;> rw [hpop] at h <;> cases h
    obtain ⟨child, hcontexts, -⟩ := pop_eq_ok hpop
    have hdepth : t.depth + 1 = s.depth := (congrArg List.length hcontexts).symm
    exact ⟨rfl, fun _ => hdepth, nofun⟩

theorem patience_ask {stage next : Stage} {s t : Session κ}
    (h : s.take stage .eof = (t, .ask next)) : t.patience next + 1 = s.patience stage := by
  obtain ⟨rfl, hprimary, hcontinuation⟩ := take_eof_eq_ask h
  cases stage with
  | primary => exact hprimary rfl
  | continuation => exact congrArg (· + 1) (hcontinuation rfl)

end Session

/-- The prompts as a dialogue lists them are those of the exchanges. -/
def Lists (queries : List Query) (exchanges : List (Exchange κ)) : Prop :=
  queries.map (fun q => (q.stage, q.isComplete)) =
    exchanges.map fun e => (e.stage, e.asked.lexer.isComplete)

theorem Lists.query {queries : List Query} {exchanges : List (Exchange κ)}
    (h : Lists queries exchanges) (stage : Stage) (scopes : Scopes) (answers : List Answer)
    (s : Session κ) :
    Lists (s.query stage scopes :: queries) (s.exchange stage answers :: exchanges) := by
  simp only [Lists, List.map_cons, Session.exchange, Session.lexer_showPrompt]
  exact congrArg _ h

namespace Dialogue
open Session
variable [Blueprint κ] {stage next : Stage} {answers : List Answer} {queries : List Query}
  {s t : Session κ}

/-- A dialogue that comes to its end by a talk, and lists the prompts of the talk behind those it
has listed before, the last one first. -/
def Concludes (stage : Stage) (answers : List Answer) (queries : List Query) (s : Session κ)
    (d : Dialogue κ) : Prop :=
  ∃ exchanges more, Talk stage answers s exchanges d.session d.result ∧
    d.queries = queries.reverse ++ more ∧ Lists more exchanges

theorem concludes_none (ends : s.mustEnd stage) (unread : List Answer) :
    Concludes stage answers queries s ⟨s, queries.reverse, unread, .ok ()⟩ :=
  ⟨[], [], .ended ends, (List.append_nil _).symm, rfl⟩

theorem concludes_over {result : Except Failure Unit} (goes : s.mustEnd stage = false)
    (hover : (s.exchange stage answers).outcome = (t, .over result)) (scopes : Scopes)
    (unread : List Answer) :
    Concludes stage answers queries s
      ⟨t, (s.query stage scopes :: queries).reverse, unread, result⟩ := by
  have hnone : Lists [] ([] : List (Exchange κ)) := rfl
  exact ⟨_, [s.query stage scopes], .last goes hover, List.reverse_cons, hnone.query ..⟩

theorem concludes_ask {d : Dialogue κ} {scopes : Scopes} (goes : s.mustEnd stage = false)
    (ask : (s.exchange stage answers).outcome = (t, .ask next))
    (h : Concludes next answers.tail (s.query stage scopes :: queries) t d) :
    Concludes stage answers queries s d := by
  obtain ⟨exchanges, more, htalk, hqueries, hlists⟩ := h
  refine ⟨_, s.query stage scopes :: more, .ask goes ask htalk, ?_, hlists.query ..⟩
  rw [hqueries, List.reverse_cons, List.append_assoc, List.singleton_append]

end Dialogue

namespace Session
open Dialogue
variable [Blueprint κ]

/-- As many exchanges as there is patience end a talk with a reader who has no answers left. -/
theorem concludes_concludeFrom (limit : ℕ) (stage : Stage) (scopes : Scopes) (queries : List Query)
    (s : Session κ) (h : s.patience stage ≤ limit) :
    Concludes stage [] queries s (concludeFrom limit stage scopes queries s) := by
  induction limit generalizing stage scopes queries s with
  | zero => exact concludes_none (mustEnd_of_patience (Nat.le_zero.mp h)) []
  | succ limit ih =>
    rw [concludeFrom]
    split
    · rename_i ends
      exact concludes_none ends []
    · rename_i goes
      have goes : s.mustEnd stage = false := by simpa using goes
      dsimp only
      split
      · rename_i t result hover
        have hover : (s.exchange stage []).outcome = (t, .over result) := hover
        exact concludes_over goes hover _ []
      · rename_i t next hask
        refine concludes_ask goes hask (ih next _ _ t ?_)
        have hpatience := patience_ask hask
        rw [patience_showPrompt] at hpatience
        omega

theorem concludes_converseFrom (stage : Stage) (scopes : Scopes) (queries : List Query)
    (answers : List Answer) (s : Session κ) :
    Concludes stage answers queries s (converseFrom stage scopes queries answers s) := by
  induction answers generalizing stage scopes queries s with
  | nil =>
    refine concludes_concludeFrom _ stage scopes queries s ?_
    cases stage with
    | primary => exact Nat.le_succ _
    | continuation => exact Nat.le_refl _
  | cons answer rest ih =>
    rw [converseFrom]
    split
    · rename_i ends
      exact concludes_none ends _
    · rename_i goes
      have goes : s.mustEnd stage = false := by simpa using goes
      dsimp only
      split
      · rename_i t result hover
        have hover : (s.exchange stage (answer :: rest)).outcome = (t, .over result) := hover
        exact concludes_over goes hover _ _
      · rename_i t next hask
        exact concludes_ask goes hask (ih next _ _ t)

/-- The exchanges of a dialogue, as many as there are up to a limit. -/
def exchangesUpTo : ℕ → Stage → List Answer → Session κ → List (Exchange κ)
  | 0, _, _, _ => []
  | limit + 1, stage, answers, s =>
    if s.mustEnd stage then []
    else
      s.exchange stage answers ::
        match (s.exchange stage answers).outcome with
        | (_, .over _) => []
        | (t, .ask next) => exchangesUpTo limit next answers.tail t

theorem Talk.exchangesUpTo_eq {stage : Stage} {answers : List Answer} {s t : Session κ}
    {exchanges : List (Exchange κ)} {result : Except Failure Unit}
    (h : Talk stage answers s exchanges t result) :
    exchangesUpTo exchanges.length stage answers s = exchanges := by
  induction h with
  | ended ends => rfl
  | last goes hover => simp [exchangesUpTo, goes, hover]
  | ask goes hask _ ih => simp [exchangesUpTo, goes, hask, ih]

/-- The exchanges of a whole dialogue: there is one for each prompt. -/
def exchanges (answers : List Answer) (s : Session κ) : List (Exchange κ) :=
  exchangesUpTo (s.converse answers).queries.length .primary answers s

/-- A dialogue does what its loop does when no bound is set to it. -/
theorem talk_exchanges (answers : List Answer) (s : Session κ) :
    Talk .primary answers s (s.exchanges answers) (s.converse answers).session
        (s.converse answers).result ∧
      Lists (s.converse answers).queries (s.exchanges answers) := by
  obtain ⟨all, more, htalk, hqueries, hlists⟩ := concludes_converseFrom .primary {} [] answers s
  obtain rfl : (s.converse answers).queries = more := hqueries
  have hlength : (s.converse answers).queries.length = all.length := by
    simpa using congrArg List.length hlists
  have hall : s.exchanges answers = all := by
    rw [exchanges, hlength]
    exact htalk.exchangesUpTo_eq
  rw [hall]
  exact ⟨htalk, hlists⟩

end Session

end NestedShell

import Mathlib.Tactic.Common
import NestedShell.Context

/-! What the variables tell of a statement after it has run: `?` and `_` hold the value that its
command returned. Statements that run nothing return a status that is not recorded. -/
namespace NestedShell
variable {κ : Type}

/-- The variables tell a value: `?` is its status, `_` its text. -/
structure Variables.Tell (vars : Variables) (v : Value) : Prop where
  status : vars.get? lastStatus = some (Text.decimal v.toStatus.toInt)
  result : vars.get? lastResult = some v.render

/-- Of a statement that ends with a value the variables tell that value, and after any other end
they tell what they told when its command was done. The other variables stay as they were then. -/
structure Outcome.Recorded (o : Outcome κ) (left : Variables) : Prop where
  value : ∀ v, o.flow = .resume (some v) → o.vars.Tell v
  other : (∀ v, o.flow ≠ .resume (some v)) →
    o.vars.get? Variables.lastStatus = left.get? Variables.lastStatus ∧
      o.vars.get? Variables.lastResult = left.get? Variables.lastResult
  rest : ∀ name, name ≠ Variables.lastStatus → name ≠ Variables.lastResult →
    o.vars.get? name = left.get? name

/-- The status of a statement for which nothing runs. -/
def Resolution.idle? : Resolution κ → Option Int64
  | .refused => some 2
  | .comment => some 0
  | .invoke _ _ => none

theorem tell_record (v : Value) (vars : Variables) :
    (record (.resume (some v) : Flow κ) vars).Tell v := by
  have hne : Variables.lastStatus ≠ Variables.lastResult := by decide
  constructor
  · simp [record, hne]
  · simp [record]

theorem record_of_ne {flow : Flow κ} (h : ∀ v, flow ≠ .resume (some v)) (vars : Variables) :
    record flow vars = vars := by
  unfold record
  split
  · rename_i v
    exact absurd rfl (h v)
  · rfl

theorem get?_record {name : String} (hstatus : name ≠ Variables.lastStatus)
    (hresult : name ≠ Variables.lastResult) (flow : Flow κ) (vars : Variables) :
    (record flow vars).get? name = vars.get? name := by
  unfold record
  split
  · simp [hstatus, hresult]
  · rfl

namespace Context

/-- What a statement's command makes of the variables, before its value is recorded. -/
def varsLeft (ctx : Context κ) (words : List String) (vars : Variables) (screen : Transcript) :
    Variables :=
  match ctx.resolve words with
  | .invoke words command =>
    let handler := (command.map (·.handler)).getD ctx.fallback
    (handler ctx.commands.catalog ⟨words⟩ ⟨vars, screen, ctx.aliases⟩).1.vars
  | _ => vars

theorem recorded_invoke {ctx : Context κ} {words words' : List String}
    {command : Option (Command κ)} (h : ctx.resolve words = .invoke words' command)
    (vars : Variables) (screen : Transcript) :
    (ctx.call words vars screen).Recorded (ctx.varsLeft words vars screen) := by
  have hvars : (ctx.call words vars screen).vars =
      record (ctx.call words vars screen).flow (ctx.varsLeft words vars screen) := by
    simp [call, varsLeft, h, invoke]
  constructor
  · intro v hv
    rw [hvars, hv]
    exact tell_record v _
  · intro hne
    rw [hvars, record_of_ne hne]
    exact ⟨rfl, rfl⟩
  · intro name hstatus hresult
    rw [hvars, get?_record hstatus hresult]

/-- Where nothing runs, the variables stay as they are, whatever the status. -/
theorem recorded_idle_iff {ctx : Context κ} {words : List String} {n : Int64}
    (h : (ctx.resolve words).idle? = some n) (vars : Variables) (screen : Transcript) :
    (ctx.call words vars screen).Recorded (ctx.varsLeft words vars screen) ↔
      vars.Tell (.status n) := by
  have hcall : ctx.call words vars screen = ⟨ctx, vars, screen, .status n⟩ := by
    unfold call
    split <;> simp_all [Resolution.idle?]
  have hleft : ctx.varsLeft words vars screen = vars := by
    unfold varsLeft
    split <;> simp_all [Resolution.idle?]
  rw [hcall, hleft]
  constructor
  · exact fun hr => hr.value _ rfl
  · intro ht
    constructor
    · intro v hv
      obtain rfl : Value.status n = v := by simpa [Flow.status] using hv
      exact ht
    · exact fun hne => absurd rfl (hne (.status n))
    · exact fun _ _ _ => rfl

/-- A statement's value is recorded whenever a command runs, a fallback included, however it ends.
A refused statement and a comment have a status all the same, which is recorded only in so far as
the variables told it before. -/
theorem recorded_iff (ctx : Context κ) (words : List String) (vars : Variables)
    (screen : Transcript) :
    (ctx.call words vars screen).Recorded (ctx.varsLeft words vars screen) ↔
      ∀ n, (ctx.resolve words).idle? = some n → vars.Tell (.status n) := by
  cases hr : ctx.resolve words with
  | invoke words' command => simpa [Resolution.idle?] using recorded_invoke hr vars screen
  | refused =>
    have hidle : (ctx.resolve words).idle? = some 2 := by rw [hr]; rfl
    simpa [Resolution.idle?] using recorded_idle_iff hidle vars screen
  | comment =>
    have hidle : (ctx.resolve words).idle? = some 0 := by rw [hr]; rfl
    simpa [Resolution.idle?] using recorded_idle_iff hidle vars screen

/-- A reserved name and a comment leave the status of the statement before. -/
theorem not_recorded_reserved_comment :
    let ctx : Context Empty := { name := "main" }
    let vars := Variables.ofPairs [("?", "7"), ("_", "7")]
    ¬ (ctx.call ["_private"] vars {}).Recorded (ctx.varsLeft ["_private"] vars {}) ∧
      ¬ (ctx.call ["#", "note"] vars {}).Recorded (ctx.varsLeft ["#", "note"] vars {}) := by
  intro ctx vars
  constructor
  · rw [recorded_idle_iff (n := 2) (by decide)]
    rintro ⟨h, -⟩
    revert h
    decide
  · rw [recorded_idle_iff (n := 0) (by decide)]
    rintro ⟨h, -⟩
    revert h
    decide

end Context

end NestedShell

import NestedShell.Proofs.Session.Exchanges
import NestedShell.Standard.General

/-! What may be asked of a session, and the log of all that it does when it is asked. -/
namespace NestedShell
variable {κ : Type}

inductive Request (κ : Type) where
  | push (ctx : Context κ)
  | pop (value : Option Value)
  | dispatch (words : List String)
  | feed (text : String)
  /-- A dialogue with a reader that answers `eof` when there are no more answers. -/
  | interact (answers : List Answer)

namespace Request
variable [Blueprint κ]

def run : Request κ → Session κ → Session κ
  | push ctx, s => s.push ctx
  | pop value, s => (s.pop value).1
  | dispatch words, s => (s.dispatch words).1
  | feed text, s => (s.feed text).1
  | interact answers, s => (s.converse answers).session

def log : Request κ → Session κ → List (Deed κ)
  | push ctx, _ => [.enter ctx]
  | pop value, s => s.popLog value
  | dispatch words, s => s.dispatchLog words
  | feed text, s => s.feedLog text
  | interact answers, s => (s.exchanges answers).flatMap (·.log)

theorem perform_log (request : Request κ) (s : Session κ) :
    s.perform (request.log s) = request.run s := by
  cases request with
  | push ctx => rfl
  | pop value => exact Session.perform_popLog value s
  | dispatch words => exact Session.perform_dispatchLog words s
  | feed text => exact Session.perform_feedLog text s
  | interact answers => exact (Session.talk_exchanges answers s).1.perform

end Request

namespace Session
variable [Blueprint κ]

/-- The session after the requests, made in their order. -/
def after (requests : List (Request κ)) (s : Session κ) : Session κ :=
  requests.foldl (fun s request => request.run s) s

/-- All that is done for the requests. -/
def log : List (Request κ) → Session κ → List (Deed κ)
  | [], _ => []
  | request :: rest, s => request.log s ++ log rest (request.run s)

theorem perform_log (requests : List (Request κ)) (s : Session κ) :
    s.perform (s.log requests) = s.after requests := by
  induction requests generalizing s with
  | nil => rfl
  | cons request rest ih =>
    rw [log, perform_append, request.perform_log]
    exact ih (request.run s)

theorem log_append (requests more : List (Request κ)) (s : Session κ) :
    s.log (requests ++ more) = s.log requests ++ (s.after requests).log more := by
  induction requests generalizing s with
  | nil => rfl
  | cons request rest ih =>
    rw [List.cons_append, log, log, ih, List.append_assoc]
    rfl

theorem enter_mem_log {ctx : Context κ} {requests : List (Request κ)}
    (h : .push ctx ∈ requests) (s : Session κ) : .enter ctx ∈ s.log requests := by
  induction requests generalizing s with
  | nil => cases h
  | cons request rest ih =>
    rw [log, List.mem_append]
    rcases List.mem_cons.mp h with rfl | h
    · exact .inl List.mem_cons_self
    · exact .inr (ih h _)

end Session

/-- A kind of context that nests: one command opens another of its kind, and one leaves it. -/
inductive Nest where
  | inner

namespace Nest

def nest : Handler Nest := fun _ _ ws => (ws, .ok (.enter .inner))

def commands : Registry Nest :=
  (({} : Registry Nest).install "nest" "Start a nested context." nest).install "exit"
    Standard.exitUsage Standard.exit

def context (name : String) : Context Nest := { name, commands }

instance : Blueprint Nest where
  build
    | .inner => context "inner"

end Nest

end NestedShell

import Mathlib.Tactic.Common
import NestedShell.Session

/-! What a session does, deed by deed. The log of a text lists the deeds in their order, and to
perform them one after the other is to feed the text. -/
namespace NestedShell
variable {κ : Type}

/-- One deed of a session. The code of handlers runs in `run` alone, and that of the hooks that take
a value in `receive` alone. -/
inductive Deed (κ : Type) where
  /-- The lexer goes on, or is reset. -/
  | read (lexer : Lexer)
  /-- The session itself writes something. -/
  | write (screen : Transcript)
  /-- The innermost context runs a statement. What the flow asks for is still to be done. -/
  | run (words : List String)
  | enter (ctx : Context κ)
  /-- The innermost context is left with a value, and the level is lowered. -/
  | leave (value : Option Value)
  /-- The innermost context is handed the value that the one above it was left with. -/
  | receive (value : Option Value)

def Deed.perform : Deed κ → Session κ → Session κ
  | read lexer, s => { s with lexer }
  | write screen, s => { s with screen }
  | run words, s =>
    match s.contexts with
    | [] => s
    | ctx :: below =>
      let o := ctx.call words s.vars s.screen
      { s with vars := o.vars, screen := o.screen, contexts := o.context :: below }
  | enter ctx, s => s.push ctx
  | leave _, s =>
    match s.contexts with
    | [] => s
    | _ :: below => { s with vars := Session.lowered s.vars, contexts := below }
  | receive value, s =>
    match s.contexts with
    | [] => s
    | parent :: _ =>
      let (vars, screen) := parent.receive value s.vars s.screen
      { s with vars, screen }

namespace Session

/-- The session after the deeds, done in their order. -/
def perform (deeds : List (Deed κ)) (s : Session κ) : Session κ :=
  deeds.foldl (fun s deed => deed.perform s) s

@[simp] theorem perform_nil (s : Session κ) : s.perform [] = s := rfl

@[simp] theorem perform_cons (deed : Deed κ) (deeds : List (Deed κ)) (s : Session κ) :
    s.perform (deed :: deeds) = (deed.perform s).perform deeds := rfl

@[simp] theorem perform_append (deeds more : List (Deed κ)) (s : Session κ) :
    s.perform (deeds ++ more) = (s.perform deeds).perform more :=
  List.foldl_append

/-- The deeds with the session as each of them finds it. -/
def moments : List (Deed κ) → Session κ → List (Session κ × Deed κ)
  | [], _ => []
  | deed :: rest, s => (s, deed) :: moments rest (deed.perform s)

@[simp] theorem moments_nil (s : Session κ) : s.moments [] = [] := rfl

@[simp] theorem moments_cons (deed : Deed κ) (rest : List (Deed κ)) (s : Session κ) :
    s.moments (deed :: rest) = (s, deed) :: (deed.perform s).moments rest := rfl

@[simp] theorem moments_append (deeds more : List (Deed κ)) (s : Session κ) :
    s.moments (deeds ++ more) = s.moments deeds ++ (s.perform deeds).moments more := by
  induction deeds generalizing s with
  | nil => rfl
  | cons deed deeds ih => simp [ih]

theorem mem_of_mem_moments {s u : Session κ} {deed : Deed κ} {deeds : List (Deed κ)}
    (h : (u, deed) ∈ s.moments deeds) : deed ∈ deeds := by
  induction deeds generalizing s with
  | nil => cases h
  | cons first deeds ih =>
    rcases List.mem_cons.mp h with heq | h
    · cases heq
      exact List.mem_cons_self
    · exact List.mem_cons_of_mem _ (ih h)

/-- What a statement's command asks for, if there is a context to run it. -/
def flow? (words : List String) (s : Session κ) : Option (Flow κ) :=
  s.innermost?.map fun ctx => (ctx.call words s.vars s.screen).flow

theorem flow?_eq_none {words : List String} {s : Session κ} :
    s.flow? words = none ↔ s.contexts = [] := by
  simp [flow?, innermost?]

theorem reportLexError_eq (e : Lexer.LexError) (s : Session κ) :
    s.reportLexError e = { s with screen := (s.reportLexError e).screen } := by
  cases e <;> rfl

/-- A context was left, and there is another one below it. -/
theorem pop_eq_ok {value : Option Value} {s t : Session κ} (h : s.pop value = (t, .ok ())) :
    ∃ child, s.contexts = child :: t.contexts ∧ t.contexts ≠ [] := by
  unfold pop at h
  split at h
  · cases h
  · cases h
  · rename_i child parent below hcontexts
    cases h
    exact ⟨child, hcontexts, List.cons_ne_nil _ _⟩

theorem pop_eq_error {value : Option Value} {s t : Session κ} {halt : Halt}
    (h : s.pop value = (t, .error halt)) : halt = .quit ∧ t.contexts = [] := by
  unfold pop at h
  split at h
  · rename_i hnone
    cases h
    exact ⟨rfl, hnone⟩
  · cases h
    exact ⟨rfl, rfl⟩
  · cases h

/-- To leave a context that has another one below it is to hand the value to that one. -/
def popLog (value : Option Value) (s : Session κ) : List (Deed κ) :=
  match s.contexts with
  | [] => []
  | [_] => [.leave value]
  | _ :: _ :: _ => [.leave value, .receive value]

theorem perform_popLog (value : Option Value) (s : Session κ) :
    s.perform (s.popLog value) = (s.pop value).1 := by
  unfold popLog pop
  split <;> rename_i h <;> simp [h, Deed.perform]

theorem run_mem_popLog {words : List String} {value : Option Value} {s : Session κ} :
    Deed.run words ∉ s.popLog value := by
  unfold popLog
  split <;> simp

variable [Blueprint κ]

def followLog (flow : Flow κ) (s : Session κ) : List (Deed κ) :=
  match flow with
  | .quit value => s.popLog value
  | .enter child => [.enter (Blueprint.build child)]
  | _ => []

theorem perform_followLog (flow : Flow κ) (s : Session κ) :
    s.perform (s.followLog flow) = (s.follow flow).1 := by
  cases flow with
  | quit value => exact perform_popLog value s
  | _ => rfl

theorem run_mem_followLog {words : List String} {flow : Flow κ} {s : Session κ} :
    Deed.run words ∉ s.followLog flow := by
  cases flow with
  | quit value => exact run_mem_popLog
  | _ => simp [followLog]

def dispatchLog (words : List String) (s : Session κ) : List (Deed κ) :=
  match s.flow? words with
  | none => []
  | some flow => .run words :: ((Deed.run words).perform s).followLog flow

/-- A statement is run, and then its flow is followed. -/
theorem dispatch_of_flow {words : List String} {s : Session κ} {flow : Flow κ}
    (h : s.flow? words = some flow) :
    s.dispatch words = ((Deed.run words).perform s).follow flow := by
  obtain ⟨ctx, hctx, rfl⟩ := Option.map_eq_some_iff.mp h
  obtain ⟨below, hbelow⟩ := List.head?_eq_some_iff.mp hctx
  simp [dispatch, Deed.perform, hbelow]

theorem dispatch_of_flow_none {words : List String} {s : Session κ} (h : s.flow? words = none) :
    s.dispatch words = (s, .error .quit) := by
  simp [dispatch, flow?_eq_none.mp h]

theorem perform_dispatchLog (words : List String) (s : Session κ) :
    s.perform (s.dispatchLog words) = (s.dispatch words).1 := by
  unfold dispatchLog
  split
  · rename_i h
    rw [dispatch_of_flow_none h, perform_nil]
  · rename_i flow h
    rw [dispatch_of_flow h, perform_cons, perform_followLog]

def handleLog : List Lexer.Event → Session κ → List (Deed κ)
  | [], _ => []
  | .error e :: rest, s =>
    .write (s.reportLexError e).screen :: handleLog rest (s.reportLexError e)
  | .statement words :: rest, s =>
    s.dispatchLog words ++
      match s.dispatch words with
      | (t, .ok ()) => handleLog rest t
      | (_, .error _) => [.read {}]

def feedCharLog (c : Char) (s : Session κ) : List (Deed κ) :=
  let (events, lexer) := (s.lexer.feedChar s.vars.lookup c).takeEvents
  .read lexer :: handleLog events { s with lexer }

def feedCharsLog : List Char → Session κ → List (Deed κ)
  | [], _ => []
  | c :: rest, s =>
    s.feedCharLog c ++
      match s.feedChar c with
      | (t, .ok ()) => feedCharsLog rest t
      | _ => []

def feedLog (text : String) (s : Session κ) : List (Deed κ) := s.feedCharsLog text.toList

/-- The deeds of reading a text and their end: statements that bring no halt, one after the other,
with reading and writing in between; and one that does, if there is one, as the last. -/
inductive Feeds : Session κ → List (Deed κ) → Session κ → Except Halt Unit → Prop
  | done (s) : Feeds s [] s (.ok ())
  | read {s deeds t r} (lexer) (rest : Feeds { s with lexer } deeds t r) :
    Feeds s (.read lexer :: deeds) t r
  | write {s deeds t r} (screen) (rest : Feeds { s with screen } deeds t r) :
    Feeds s (.write screen :: deeds) t r
  | statement {s words t deeds u r} (run : s.dispatch words = (t, .ok ()))
    (rest : Feeds t deeds u r) : Feeds s (s.dispatchLog words ++ deeds) u r
  | halt {s words t h} (run : s.dispatch words = (t, .error h)) :
    Feeds s (s.dispatchLog words ++ [.read {}]) t.resetLexer (.error h)

theorem Feeds.append {s t u : Session κ} {deeds more : List (Deed κ)} {r : Except Halt Unit}
    (h : Feeds s deeds t (.ok ())) (hmore : Feeds t more u r) : Feeds s (deeds ++ more) u r := by
  generalize hok : (Except.ok () : Except Halt Unit) = first at h
  induction h with
  | done s => exact hmore
  | read lexer _ ih => exact .read lexer (ih hmore hok)
  | write screen _ ih => exact .write screen (ih hmore hok)
  | statement run _ ih =>
    rw [List.append_assoc]
    exact .statement run (ih hmore hok)
  | halt _ => cases hok

theorem Feeds.perform {s t : Session κ} {deeds : List (Deed κ)} {r : Except Halt Unit}
    (h : Feeds s deeds t r) : s.perform deeds = t := by
  induction h with
  | done s => rfl
  | read lexer _ ih => exact ih
  | write screen _ ih => exact ih
  | statement run _ ih => rw [perform_append, perform_dispatchLog, run, ih]
  | halt run =>
    rw [perform_append, perform_dispatchLog, run]
    rfl

theorem feeds_handle (events : List Lexer.Event) (s : Session κ) :
    Feeds s (s.handleLog events) (s.handle events).1 (s.handle events).2 := by
  induction events generalizing s with
  | nil => exact .done s
  | cons event rest ih =>
    cases event with
    | error e =>
      refine .write _ ?_
      rw [← reportLexError_eq, handle]
      exact ih _
    | statement words =>
      rcases hrun : s.dispatch words with ⟨t, halt | ⟨⟩⟩ <;> simp only [handleLog, handle, hrun]
      · exact .halt hrun
      · exact .statement hrun (ih t)

theorem feeds_feedChar (c : Char) (s : Session κ) :
    Feeds s (s.feedCharLog c) (s.feedChar c).1 (s.feedChar c).2 :=
  .read _ (feeds_handle _ _)

theorem feeds_feedChars (cs : List Char) (s : Session κ) :
    Feeds s (s.feedCharsLog cs) (s.feedChars cs).1 (s.feedChars cs).2 := by
  induction cs generalizing s with
  | nil => exact .done s
  | cons c cs ih =>
    have hfirst := feeds_feedChar c s
    rw [feedCharsLog, feedChars]
    rcases hc : s.feedChar c with ⟨t, halt | ⟨⟩⟩ <;> rw [hc] at hfirst
    · rw [List.append_nil]
      exact hfirst
    · exact hfirst.append (ih t)

theorem feeds_of_feed_error {text : String} {s t : Session κ} {halt : Halt}
    (h : s.feed text = (t, .error halt)) : Feeds s (s.feedLog text) t (.error halt) := by
  have hfeeds := feeds_feedChars text.toList s
  rw [feed] at h
  rcases hchars : s.feedChars text.toList with ⟨u, halt' | ⟨⟩⟩ <;> rw [hchars] at h hfeeds
  · cases h
    exact hfeeds
  · cases h

theorem feeds_of_feed_ok {text : String} {s t : Session κ} {progress : Progress}
    (h : s.feed text = (t, .ok progress)) :
    Feeds s (s.feedLog text) t (.ok ()) ∧ progress = t.progress := by
  have hfeeds := feeds_feedChars text.toList s
  rw [feed] at h
  rcases hchars : s.feedChars text.toList with ⟨u, halt | ⟨⟩⟩ <;> rw [hchars] at h hfeeds
  · cases h
  · cases h
    exact ⟨hfeeds, rfl⟩

theorem perform_feedLog (text : String) (s : Session κ) :
    s.perform (s.feedLog text) = (s.feed text).1 := by
  rcases hfed : s.feed text with ⟨t, halt | progress⟩
  · exact (feeds_of_feed_error hfed).perform
  · exact (feeds_of_feed_ok hfed).1.perform

end Session

end NestedShell

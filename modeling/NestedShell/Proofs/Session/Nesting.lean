import NestedShell.Proofs.Session.Level

/-! Contexts that are nested do not disturb those below them. A context hears of what goes on above
it once, when the one above it is left. -/
namespace NestedShell
variable {κ : Type}

/-- To call a context may change its aliases, and nothing else of it. -/
theorem Context.exists_context_call (ctx : Context κ) (words : List String) (vars : Variables)
    (screen : Transcript) :
    ∃ aliases, (ctx.call words vars screen).context = { ctx with aliases } := by
  unfold call
  split
  · exact ⟨ctx.aliases, rfl⟩
  · exact ⟨ctx.aliases, rfl⟩
  · exact ⟨_, rfl⟩

namespace Session

/-- More than `n` contexts are left by each of the deeds. -/
def Stays (n : ℕ) (deeds : List (Deed κ)) (s : Session κ) : Prop :=
  ∀ m ∈ s.moments deeds, n < (m.2.perform m.1).depth

instance (n : ℕ) (deeds : List (Deed κ)) (s : Session κ) : Decidable (Stays n deeds s) :=
  inferInstanceAs (Decidable (∀ m ∈ s.moments deeds, _))

/-- The session has `ctx` above `below`, with what aliases it may have by now, and there may be
others above `ctx`. -/
def Has (ctx : Context κ) (below : List (Context κ)) (s : Session κ) : Prop :=
  ∃ above aliases, s.contexts = above ++ { ctx with aliases } :: below

theorem has_push (ctx : Context κ) (s : Session κ) :
    Has ctx.seedCompletion s.contexts (s.push ctx) :=
  ⟨[], ctx.seedCompletion.aliases, rfl⟩

/-- Every deed is done to the innermost context alone. -/
theorem Has.perform_deed {ctx : Context κ} {below : List (Context κ)} {s : Session κ}
    (h : Has ctx below s) {deed : Deed κ} (hstays : below.length < (deed.perform s).depth) :
    Has ctx below (deed.perform s) := by
  obtain ⟨above, aliases, hcontexts⟩ := h
  cases deed with
  | read lexer => exact ⟨above, aliases, hcontexts⟩
  | write screen => exact ⟨above, aliases, hcontexts⟩
  | run words =>
    cases above with
    | nil =>
      obtain ⟨now, hnow⟩ :=
        Context.exists_context_call { ctx with aliases } words s.vars s.screen
      exact ⟨[], now, by simp [Deed.perform, hcontexts, hnow]⟩
    | cons first above =>
      exact ⟨(first.call words s.vars s.screen).context :: above, aliases,
        by simp [Deed.perform, hcontexts]⟩
  | enter child =>
    exact ⟨child.seedCompletion :: above, aliases, by simp [Deed.perform, push, hcontexts]⟩
  | leave value =>
    cases above with
    | nil =>
      have hdepth : ((Deed.leave value).perform s).depth = below.length := by
        simp [Deed.perform, hcontexts, depth]
      exact absurd hstays (by omega)
    | cons first above => exact ⟨above, aliases, by simp [Deed.perform, hcontexts]⟩
  | receive value =>
    exact ⟨above, aliases, by cases above <;> simp [Deed.perform, hcontexts]⟩

theorem Has.perform {ctx : Context κ} {below : List (Context κ)} {deeds : List (Deed κ)}
    {s : Session κ} (h : Has ctx below s) (hstays : Stays below.length deeds s) :
    Has ctx below (s.perform deeds) := by
  induction deeds generalizing s with
  | nil => exact h
  | cons deed deeds ih =>
    have hfirst := h.perform_deed (hstays _ List.mem_cons_self)
    exact ih hfirst fun m hm => hstays m (List.mem_cons_of_mem _ hm)

/-- When `ctx` itself is left, those below it are what remains. -/
theorem Has.contexts_leave {ctx : Context κ} {below : List (Context κ)} {s : Session κ}
    (h : Has ctx below s) (hdepth : s.depth = below.length + 1) (value : Option Value) :
    ((Deed.leave value).perform s).contexts = below := by
  obtain ⟨above, aliases, hcontexts⟩ := h
  have hnone : above = [] := by
    rw [depth, hcontexts, List.length_append, List.length_cons] at hdepth
    exact List.length_eq_zero_iff.mp (by omega)
  simp [Deed.perform, hcontexts, hnone]

/-- What it is to leave the innermost context. One that remains takes the value when the level has
been lowered: its hook is called on the variables and the screen, once and with the value as it is,
and nothing else happens; without a hook nothing happens at all. When no context remains, no hook is
called and the session halts. -/
structure HandsOver (value : Option Value) (s : Session κ) : Prop where
  nested : ∀ child parent below, s.contexts = child :: parent :: below →
    s.moments (s.popLog value) =
      [(s, .leave value),
        ({ s with vars := lowered s.vars, contexts := parent :: below }, .receive value)]
  hooked : ∀ child parent below hook, s.contexts = child :: parent :: below →
    parent.onReturn = some hook →
      let (vars, screen) := hook value (lowered s.vars) s.screen
      s.pop value = ({ s with vars, screen, contexts := parent :: below }, .ok ())
  unhooked : ∀ child parent below, s.contexts = child :: parent :: below →
    parent.onReturn = none →
      s.pop value = ({ s with vars := lowered s.vars, contexts := parent :: below }, .ok ())
  last : ∀ child, s.contexts = [child] → s.popLog value = [.leave value] ∧
    s.pop value = ({ s with vars := lowered s.vars, contexts := [] }, .error .quit)

theorem handsOver (value : Option Value) (s : Session κ) : HandsOver value s := by
  constructor
  · intro child parent below hcontexts
    simp [popLog, hcontexts, Deed.perform]
  · intro child parent below hook hcontexts hhook
    simp [pop, hcontexts, Context.receive, hhook]
  · intro child parent below hcontexts hhook
    simp [pop, hcontexts, Context.receive, hhook]
  · intro child hcontexts
    simp [popLog, pop, hcontexts]

theorem eq_of_mem_moments_popLog {value given : Option Value} {s u : Session κ}
    (h : (u, .leave value) ∈ s.moments (s.popLog given)) : u = s := by
  unfold popLog at h
  split at h
  · cases h
  · exact And.left (by simpa using h)
  · exact And.left (by simpa using h)

/-- A log in which contexts are left in two ways only: when a statement quits, right behind it and
with the value that it quits with; and without a statement that quits, with a value that is
`asked` for. -/
inductive Orderly (asked : Option Value → Prop) : Session κ → List (Deed κ) → Prop
  | done (s) : Orderly asked s []
  | read {s deeds} (lexer) (rest : Orderly asked { s with lexer } deeds) :
    Orderly asked s (.read lexer :: deeds)
  | write {s deeds} (screen) (rest : Orderly asked { s with screen } deeds) :
    Orderly asked s (.write screen :: deeds)
  | enter {s deeds} (ctx) (rest : Orderly asked (s.push ctx) deeds) :
    Orderly asked s (.enter ctx :: deeds)
  | run {s words deeds} (stays : ∀ value, s.flow? words ≠ some (.quit value))
    (rest : Orderly asked ((Deed.run words).perform s) deeds) :
    Orderly asked s (.run words :: deeds)
  | quit {s words value deeds} (quits : s.flow? words = some (.quit value))
    (rest : Orderly asked (((Deed.run words).perform s).pop value).1 deeds) :
    Orderly asked s (.run words :: (((Deed.run words).perform s).popLog value ++ deeds))
  | pop {s value deeds} (allowed : asked value) (rest : Orderly asked (s.pop value).1 deeds) :
    Orderly asked s (s.popLog value ++ deeds)

section
variable {asked : Option Value → Prop}

theorem Orderly.append {s : Session κ} {deeds more : List (Deed κ)} (h : Orderly asked s deeds)
    (hmore : Orderly asked (s.perform deeds) more) : Orderly asked s (deeds ++ more) := by
  induction h with
  | done s => exact hmore
  | read lexer _ ih => exact .read lexer (ih hmore)
  | write screen _ ih => exact .write screen (ih hmore)
  | enter ctx _ ih => exact .enter ctx (ih hmore)
  | run stays _ ih => exact .run stays (ih hmore)
  | quit quits _ ih =>
    rw [perform_cons, perform_append, perform_popLog] at hmore
    rw [List.cons_append, List.append_assoc]
    exact .quit quits (ih hmore)
  | pop allowed _ ih =>
    rw [perform_append, perform_popLog] at hmore
    rw [List.append_assoc]
    exact .pop allowed (ih hmore)

theorem Orderly.mono {also : Option Value → Prop} (himp : ∀ value, asked value → also value)
    {s : Session κ} {deeds : List (Deed κ)} (h : Orderly asked s deeds) : Orderly also s deeds := by
  induction h with
  | done s => exact .done s
  | read lexer _ ih => exact .read lexer ih
  | write screen _ ih => exact .write screen ih
  | enter ctx _ ih => exact .enter ctx ih
  | run stays _ ih => exact .run stays ih
  | quit quits _ ih => exact .quit quits ih
  | pop allowed _ ih => exact .pop (himp _ allowed) ih

theorem orderly_popLog {value : Option Value} (allowed : asked value) (s : Session κ) :
    Orderly asked s (s.popLog value) := by
  rw [← List.append_nil (s.popLog value)]
  exact .pop allowed (.done _)

variable [Blueprint κ]

theorem orderly_dispatchLog (words : List String) (s : Session κ) :
    Orderly asked s (s.dispatchLog words) := by
  unfold dispatchLog
  split
  · exact .done s
  · rename_i flow hflow
    cases flow with
    | quit value =>
      rw [followLog, ← List.append_nil (popLog _ _)]
      exact .quit hflow (.done _)
    | enter child => exact .run (by simp [hflow]) (.enter _ (.done _))
    | _ => exact .run (by simp [hflow]) (.done _)

theorem Feeds.orderly {s t : Session κ} {deeds : List (Deed κ)} {r : Except Halt Unit}
    (h : Feeds s deeds t r) : Orderly asked s deeds := by
  induction h with
  | done s => exact .done s
  | read lexer _ ih => exact .read lexer ih
  | write screen _ ih => exact .write screen ih
  | statement run _ ih =>
    refine (orderly_dispatchLog _ _).append ?_
    rwa [perform_dispatchLog, run]
  | halt _ => exact (orderly_dispatchLog _ _).append (.read {} (.done _))

theorem orderly_feedLog (text : String) (s : Session κ) : Orderly asked s (s.feedLog text) :=
  (feeds_feedChars text.toList s).orderly

theorem orderly_hearLog (text : String) (s : Session κ) : Orderly asked s (s.hearLog text) := by
  refine (orderly_feedLog _ s).append ?_
  split
  · exact .write _ (.done _)
  · exact .done _

/-- In a dialogue a context is left at the end of the input, with no value. -/
theorem orderly_takeLog (hnone : asked none) (stage : Stage) (answer : Answer) (s : Session κ) :
    Orderly asked s (s.takeLog stage answer) := by
  cases answer with
  | error message => cases stage <;> exact .done s
  | interrupted => cases stage <;> exact .read {} (.done _)
  | eof =>
    cases stage with
    | continuation => exact .read {} (.done _)
    | primary => exact .write _ (orderly_popLog hnone _)
  | line text =>
    cases stage with
    | continuation => exact orderly_hearLog text s
    | primary =>
      rw [takeLog]
      split
      · exact .done s
      · exact orderly_hearLog text s

theorem orderly_exchange (hnone : asked none) (stage : Stage) (answers : List Answer)
    (s : Session κ) : Orderly asked s (s.exchange stage answers).log := by
  refine .write _ ?_
  rw [exchange, ← showPrompt_eq]
  exact orderly_takeLog hnone _ _ _

theorem Talk.orderly (hnone : asked none) {stage : Stage} {answers : List Answer}
    {s t : Session κ} {exchanges : List (Exchange κ)} {result : Except Failure Unit}
    (h : Talk stage answers s exchanges t result) :
    Orderly asked s (exchanges.flatMap (·.log)) := by
  induction h with
  | ended ends => exact .done _
  | last goes hover =>
    rw [List.flatMap_cons]
    exact (orderly_exchange hnone _ _ _).append (.done _)
  | ask goes hask _ ih =>
    rw [List.flatMap_cons]
    refine (orderly_exchange hnone _ _ _).append ?_
    rwa [perform_exchange, hask]

end

variable [Blueprint κ]

theorem quit_of_last {words : List String} {s u : Session κ} {value : Option Value}
    (hleave : (u, .leave value) ∈ s.moments (s.dispatchLog words)) (hlast : u.depth = 1) :
    (s.dispatch words).2 = .error .quit := by
  unfold dispatchLog at hleave
  split at hleave
  · cases hleave
  · rename_i flow hflow
    rw [dispatch_of_flow hflow]
    cases flow with
    | quit given =>
      obtain ⟨child, hcontexts⟩ := List.length_eq_one_iff.mp hlast
      have hmoment := List.mem_of_ne_of_mem (by simp) hleave
      rw [← eq_of_mem_moments_popLog hmoment, follow, pop, hcontexts]
    | _ => simp [followLog] at hleave

/-- A statement that leaves the last context brings the text to an end. -/
theorem Feeds.quit_of_last {s t : Session κ} {deeds : List (Deed κ)} {r : Except Halt Unit}
    (h : Feeds s deeds t r) {u : Session κ} {value : Option Value}
    (hleave : (u, .leave value) ∈ s.moments deeds) (hlast : u.depth = 1) : r = .error .quit := by
  induction h with
  | done s => cases hleave
  | read lexer _ ih => exact ih (List.mem_of_ne_of_mem (by simp) hleave)
  | write screen _ ih => exact ih (List.mem_of_ne_of_mem (by simp) hleave)
  | statement run _ ih =>
    rw [moments_append, perform_dispatchLog, run] at hleave
    rcases List.mem_append.mp hleave with hleave | hleave
    · have hquit := Session.quit_of_last hleave hlast
      rw [run] at hquit
      cases hquit
    · exact ih hleave
  | halt run =>
    rw [moments_append, perform_dispatchLog, run] at hleave
    rcases List.mem_append.mp hleave with hleave | hleave
    · have hquit := Session.quit_of_last hleave hlast
      rwa [run] at hquit
    · simp at hleave

theorem feed_eq_quit_of_last {text : String} {s u : Session κ} {value : Option Value}
    (hleave : (u, .leave value) ∈ s.moments (s.feedLog text)) (hlast : u.depth = 1) :
    (s.feed text).2 = .error .quit := by
  rcases hfed : s.feed text with ⟨t, halt | progress⟩
  · obtain rfl : halt = .quit :=
      Except.error.inj ((feeds_of_feed_error hfed).quit_of_last hleave hlast)
    rfl
  · cases (feeds_of_feed_ok hfed).1.quit_of_last hleave hlast

end Session

/-- The values that a request has a context left with, other than those that statements quit
with. -/
def Request.LeavesWith (request : Request κ) (value : Option Value) : Prop :=
  match request with
  | .pop given => value = given
  | .interact _ => value = none
  | _ => False

namespace Session
variable [Blueprint κ]

theorem orderly_request (request : Request κ) (s : Session κ) :
    Orderly request.LeavesWith s (request.log s) := by
  cases request with
  | push ctx => exact .enter ctx (.done _)
  | pop value =>
    have hgiven : (Request.pop value : Request κ).LeavesWith value := rfl
    exact orderly_popLog hgiven s
  | dispatch words => exact orderly_dispatchLog words s
  | feed text => exact orderly_feedLog text s
  | interact answers =>
    have hnone : (Request.interact answers : Request κ).LeavesWith none := rfl
    exact (talk_exchanges answers s).1.orderly hnone

theorem orderly_log (requests : List (Request κ)) (s : Session κ) :
    Orderly (fun value => ∃ request ∈ requests, request.LeavesWith value) s (s.log requests) := by
  induction requests generalizing s with
  | nil => exact .done s
  | cons request rest ih =>
    refine Orderly.append ?_ ?_
    · exact (orderly_request request s).mono fun _ h => ⟨request, List.mem_cons_self, h⟩
    · rw [request.perform_log]
      exact (ih _).mono fun _ ⟨other, hother, h⟩ => ⟨other, List.mem_cons_of_mem _ hother, h⟩

/-- Whatever is asked of a session, a context that is opened leaves those below it as they are,
until it is left itself and then too. Contexts are left when a statement quits, with its value, and
when that is asked for; each time the context that remains is handed the value, with the level told
for it and no other variable changed. The last one is left to nobody, and a halt comes of it. -/
theorem nested_undisturbed (s : Session κ) (requests : List (Request κ)) :
    s.perform (s.log requests) = s.after requests ∧
    (∀ before child within rest, s.log requests = before ++ .enter child :: (within ++ rest) →
      Stays (s.perform before).depth within ((s.perform before).push child) →
        Has child.seedCompletion (s.perform before).contexts
          (s.perform (before ++ .enter child :: within))) ∧
    (∀ before child within value rest,
      s.log requests = before ++ .enter child :: (within ++ .leave value :: rest) →
      Stays (s.perform before).depth within ((s.perform before).push child) →
      (s.perform (before ++ .enter child :: within)).depth = (s.perform before).depth + 1 →
        (s.perform (before ++ .enter child :: (within ++ [.leave value]))).contexts =
          (s.perform before).contexts) ∧
    Orderly (fun value => ∃ request ∈ requests, request.LeavesWith value) s (s.log requests) ∧
    (∀ (t : Session κ) value, HandsOver value t) ∧
    (∀ vars name, (lowered vars).get? name =
      if name = Variables.level then some (Text.decimal (levelBelow (level? vars)))
      else vars.get? name) ∧
    ∀ (t u : Session κ) value, u.depth = 1 →
      (∀ words, (u, .leave value) ∈ t.moments (t.dispatchLog words) →
        (t.dispatch words).2 = .error .quit) ∧
      ∀ text, (u, .leave value) ∈ t.moments (t.feedLog text) → (t.feed text).2 = .error .quit := by
  have hhas : ∀ before child within,
      Stays (s.perform before).depth within ((s.perform before).push child) →
      Has child.seedCompletion (s.perform before).contexts
        (s.perform (before ++ .enter child :: within)) := by
    intro before child within hstays
    rw [perform_append, perform_cons]
    exact (has_push child (s.perform before)).perform hstays
  refine ⟨perform_log requests s, fun before child within _ _ => hhas before child within, ?_,
    orderly_log requests s, fun t value => handsOver value t,
    fun vars name => get?_lowered name vars, ?_⟩
  · intro before child within value rest _ hstays hdepth
    have hleft := (hhas before child within hstays).contexts_leave hdepth value
    simpa using hleft
  · intro t u value hlast
    exact ⟨fun words hleave => quit_of_last hleave hlast,
      fun text hleave => feed_eq_quit_of_last hleave hlast⟩

/-- Tells what it takes, and the level at which it takes it. -/
def tellReturn : ReturnHook := fun value vars screen =>
  let taken := (value.map Value.render).getD "nothing"
  (vars.set "TAKEN" taken, screen.print (taken ++ " at level " ++ vars.value Variables.level))

/-- One context, which tells what it takes, and no other yet. -/
def single : Session Nest :=
  ({} : Session Nest).push { Nest.context "main" with onReturn := some tellReturn }

/-- What is done in a context while it is open: it opens another, which is left again. -/
def nestAndLeave : List (Deed Nest) :=
  [.run ["nest"], .enter (Nest.context "inner"), .leave none, .receive none]

/-- The context below is as it was, and takes the value at its own level. -/
theorem nested_undisturbed_nestAndLeave :
    let inner := single.push (Nest.context "inner")
    let taken : Option Value := some (.status 5)
    Stays single.depth nestAndLeave inner ∧
      (single.perform
        (.enter (Nest.context "inner") :: (nestAndLeave ++ [.leave taken]))).contexts =
          single.contexts ∧
      (∃ child parent, inner.contexts = [child, parent] ∧ parent.onReturn = some tellReturn) ∧
      (inner.pop taken).2 = .ok () ∧ (inner.pop taken).1.screen = { out := "5 at level 1\n" } ∧
      (inner.pop taken).1.vars.get? "TAKEN" = some "5" := by
  intro inner taken
  have hlog : single.log [.push (Nest.context "inner"), .dispatch ["nest"], .pop none, .pop taken] =
      .enter (Nest.context "inner") :: (nestAndLeave ++ .leave taken :: [.receive taken]) := rfl
  have hstays : Stays single.depth nestAndLeave inner := by decide +kernel
  have hdepth : (single.perform (.enter (Nest.context "inner") :: nestAndLeave)).depth =
      single.depth + 1 := by decide +kernel
  have hundisturbed := nested_undisturbed single
    [.push (Nest.context "inner"), .dispatch ["nest"], .pop none, .pop taken]
  have hpop := (hundisturbed.2.2.2.2.1 inner taken).hooked _ _ [] tellReturn rfl rfl
  have hcontexts := hundisturbed.2.2.1 [] _ _ taken _ hlog hstays hdepth
  refine ⟨hstays, hcontexts, ⟨_, _, rfl, rfl⟩, ?_, ?_, ?_⟩
  · rw [hpop]
  · rw [hpop]
    decide +kernel
  · rw [hpop]
    decide +kernel

end Session

end NestedShell

import NestedShell.Proofs.Lexer.Turn

/-! What is true of a lexer between two characters, and what one more character may do: it takes
two steps at most, looks at most one variable up, and takes nothing away. -/
namespace NestedShell.Lexer

/-- The name begun, by the mode: none outside references, and between braces any. -/
def Mode.Names (name : String) : Mode → Prop
  | varName | varNameInDouble => isValidName name
  | varBraced | varBracedInDouble => True
  | _ => name = ""

/-- The queue holds statements that have words, and errors of expansion. -/
def Event.Proper : Event → Prop
  | .statement words => words ≠ []
  | .error e => ∃ name fault, e = .expansion name fault

/-- Two drafts, the later one of which has at most one more error and, behind it, at most one more
statement. -/
def Draft.Queues (d e : Draft) : Prop :=
  ∃ (failed : Option LexError) (ended : Option (List String)),
    e.events = (ended.map .statement).toList ++ (failed.map .error).toList ++ d.events ∧
      (∀ x ∈ failed, (Event.error x).Proper) ∧ ∀ words ∈ ended, (Event.statement words).Proper

/-- The words of a draft in order, from those of its queue to the last one ended. -/
def Draft.earlier (d : Draft) : List String :=
  d.events.reverse.flatMap (fun
    | .statement words => words
    | .error _ => []) ++ d.words.reverse

/-- Nothing read so far is lost: the word begun goes on or ends, and the others stay. -/
def Draft.Grows (d e : Draft) : Prop :=
  ∃ (more : String) (new : List String),
    e.earlier ++ [e.word] = d.earlier ++ (d.word ++ more) :: new

namespace Draft

@[simp] theorem name_add (s : String) (d : Draft) : (d.add s).name = d.name := rfl

@[simp] theorem name_endWord (d : Draft) : d.endWord.name = d.name := rfl

@[simp] theorem name_breakWord (d : Draft) : d.breakWord.name = d.name := by
  unfold breakWord
  split <;> rfl

@[simp] theorem name_endStatement (d : Draft) : d.endStatement.name = d.name := by
  rw [← name_breakWord d]
  unfold endStatement
  dsimp only
  split <;> rfl

@[simp] theorem name_substitute (vars : Lookup) (name : String) (d : Draft) :
    (d.substitute vars name).name = d.name := by
  unfold substitute
  split <;> rfl

@[simp] theorem name_endName (vars : Lookup) (d : Draft) : (d.endName vars).name = "" := by
  unfold endName
  split <;> simp

@[simp] theorem name_endBraced (vars : Lookup) (d : Draft) : (d.endBraced vars).name = "" := by
  unfold endBraced
  split <;> simp [queue]

end Draft

theorem isValidName_push {name : String} {c : Char} (h : name = "" ∨ isValidName name)
    (hc : isNameChar c) : isValidName (name.push c) := by
  have hne : (name.push c).isEmpty = false := String.isEmpty_eq_false_iff.mpr String.push_ne_empty
  have hall : name.toList.all isNameChar := by
    rcases h with rfl | h
    · rfl
    · simp only [isValidName, Bool.and_eq_true] at h
      exact h.2
  simp [isValidName, hne, hall, hc]

/-- A step keeps what is known of the name. -/
theorem Mode.names_step (vars : Lookup) (c : Char) (m : Mode) (d : Draft) (h : m.Names d.name) :
    (m.step vars c d).1.Names (m.step vars c d).2.name := by
  cases m <;> simp only [Mode.Names] at h <;> dsimp only [Mode.step] <;> repeat' split
  all_goals
    simp_all only [Mode.Names, Draft.name_add, Draft.name_endWord, Draft.name_breakWord,
      Draft.name_endStatement, Draft.name_endName, Draft.name_endBraced]
  all_goals exact isValidName_push (by simp_all) (by assumption)

theorem Mode.names_turn (vars : Lookup) (c : Char) (m : Mode) (d : Draft) (h : m.Names d.name) :
    (m.turn vars c d).1.Names (m.turn vars c d).2.name := by
  unfold Mode.turn
  split
  · rename_i he
    have hfirst := m.names_step vars c d h
    rw [Mode.step_of_endsName he] at hfirst
    exact m.home.names_step vars c _ hfirst
  · exact m.names_step vars c d h

namespace Draft

/-- The queue gets at most one error, and that one last. -/
def Fails (d e : Draft) : Prop :=
  ∃ failed : Option LexError, e.events = (failed.map .error).toList ++ d.events ∧
    ∀ x ∈ failed, (Event.error x).Proper

def Ends (d e : Draft) : Prop :=
  ∃ ended : Option (List String), e.events = (ended.map .statement).toList ++ d.events ∧
    ∀ words ∈ ended, (Event.statement words).Proper

variable {d e f : Draft}

theorem Fails.of_events_eq (h : e.events = d.events) : d.Fails e := ⟨none, by simp [h], by simp⟩

theorem Ends.of_events_eq (h : e.events = d.events) : d.Ends e := ⟨none, by simp [h], by simp⟩

theorem Queues.of_fails_of_ends (hf : d.Fails f) (he : f.Ends e) : d.Queues e := by
  obtain ⟨failed, hfailed, hproper⟩ := hf
  obtain ⟨ended, hended, hwords⟩ := he
  exact ⟨failed, ended, by rw [hended, hfailed, List.append_assoc], hproper, hwords⟩

theorem Queues.of_fails (h : d.Fails e) : d.Queues e := .of_fails_of_ends h (.of_events_eq rfl)

theorem Queues.of_ends (h : d.Ends e) : d.Queues e := .of_fails_of_ends (.of_events_eq rfl) h

theorem fails_substitute (vars : Lookup) (name : String) (d : Draft) :
    d.Fails (d.substitute vars name) := by
  unfold substitute
  split
  · exact .of_events_eq rfl
  · rename_i x _
    exact ⟨some (.expansion name (.source x)), rfl, by simp [Event.Proper]⟩

theorem fails_endName (vars : Lookup) (d : Draft) : d.Fails (d.endName vars) := by
  unfold endName
  split
  · exact .of_events_eq rfl
  · exact fails_substitute vars d.name { d with name := "" }

theorem fails_endBraced (vars : Lookup) (d : Draft) : d.Fails (d.endBraced vars) := by
  unfold endBraced
  split
  · exact fails_substitute vars d.name { d with name := "" }
  · exact ⟨some (.expansion d.name .badSubstitution), rfl, by simp [Event.Proper]⟩

@[simp] theorem events_breakWord (d : Draft) : d.breakWord.events = d.events := by
  unfold breakWord
  split <;> rfl

theorem ends_endStatement (d : Draft) : d.Ends d.endStatement := by
  unfold endStatement
  dsimp only
  split
  · exact .of_events_eq (events_breakWord d)
  · rename_i h
    refine ⟨some d.breakWord.words.reverse, by simp [queue], ?_⟩
    simpa [Event.Proper] using h

end Draft

/-- A step fails or ends a statement, and never both. -/
theorem Mode.step_fails_or_ends (vars : Lookup) (c : Char) (m : Mode) (d : Draft) :
    d.Fails (m.step vars c d).2 ∨ d.Ends (m.step vars c d).2 := by
  cases m <;> dsimp only [Mode.step] <;> repeat' split
  all_goals
    first
      | exact .inl (.of_events_eq rfl)
      | exact .inl (.of_events_eq (Draft.events_breakWord d))
      | exact .inl (Draft.fails_endName vars d)
      | exact .inl (Draft.fails_endBraced vars d)
      | exact .inr (Draft.ends_endStatement d)

/-- Where the text around a reference is read, nothing fails. -/
theorem Mode.home_step_ends (vars : Lookup) {c : Char} {m : Mode} (h : m.endsName c) (d : Draft) :
    d.Ends (m.home.step vars c d).2 := by
  have hhome : m.home = bare ∨ m.home = doubleQuote := by
    cases m <;> simp_all [Mode.endsName, Mode.home]
  rcases hhome with hm | hm <;> rw [hm] <;> dsimp only [Mode.step] <;> repeat' split
  all_goals
    first
      | exact .of_events_eq rfl
      | exact .of_events_eq (Draft.events_breakWord d)
      | exact Draft.ends_endStatement d

theorem Mode.turn_queues (vars : Lookup) (c : Char) (m : Mode) (d : Draft) :
    d.Queues (m.turn vars c d).2 := by
  unfold Mode.turn
  split
  · rename_i he
    exact .of_fails_of_ends (Draft.fails_endName vars d) (Mode.home_step_ends vars he _)
  · rcases m.step_fails_or_ends vars c d with h | h
    · exact .of_fails h
    · exact .of_ends h

namespace Draft
variable {d e f : Draft}

theorem Grows.refl (d : Draft) : d.Grows d := ⟨"", [], by simp⟩

theorem Grows.trans (h : d.Grows e) (h' : e.Grows f) : d.Grows f := by
  obtain ⟨more, new, h⟩ := h
  obtain ⟨more', new', h'⟩ := h'
  rcases List.eq_nil_or_concat new with rfl | ⟨new, last, rfl⟩
  · obtain ⟨hearlier, hword⟩ := List.append_inj' h rfl
    simp only [List.cons.injEq, and_true] at hword
    exact ⟨more ++ more', new', by rw [h', hearlier, hword, String.append_assoc]⟩
  · have hsplit : e.earlier ++ [e.word] = (d.earlier ++ (d.word ++ more) :: new) ++ [last] := by
      simpa using h
    obtain ⟨hearlier, -⟩ := List.append_inj' hsplit rfl
    exact ⟨more, new ++ (e.word ++ more') :: new', by rw [h', hearlier]; simp⟩

theorem grows_add (s : String) (d : Draft) : d.Grows (d.add s) := ⟨s, [], rfl⟩

theorem grows_queue_error (x : LexError) (d : Draft) : d.Grows (d.queue (.error x)) :=
  ⟨"", [], by simp [earlier, queue]⟩

theorem grows_endWord (d : Draft) : d.Grows d.endWord := ⟨"", [""], by simp [earlier, endWord]⟩

theorem grows_breakWord (d : Draft) : d.Grows d.breakWord := by
  unfold breakWord
  split
  · exact .refl d
  · exact grows_endWord d

theorem grows_endStatement (d : Draft) : d.Grows d.endStatement := by
  refine (grows_breakWord d).trans ?_
  unfold endStatement
  dsimp only
  split
  · exact .refl _
  · exact ⟨"", [], by simp [earlier, queue]⟩

theorem grows_substitute (vars : Lookup) (name : String) (d : Draft) :
    d.Grows (d.substitute vars name) := by
  unfold substitute
  split
  · exact grows_add _ d
  · exact grows_queue_error _ d

theorem grows_rename (name : String) (d : Draft) : d.Grows { d with name } := .refl d

theorem grows_endName (vars : Lookup) (d : Draft) : d.Grows (d.endName vars) := by
  refine (grows_rename "" d).trans ?_
  unfold endName
  split
  · exact grows_add _ _
  · exact grows_substitute vars d.name _

theorem grows_endBraced (vars : Lookup) (d : Draft) : d.Grows (d.endBraced vars) := by
  refine (grows_rename "" d).trans ?_
  unfold endBraced
  split
  · exact grows_substitute vars d.name _
  · exact grows_queue_error _ _

end Draft

theorem Mode.grows_step (vars : Lookup) (c : Char) (m : Mode) (d : Draft) :
    d.Grows (m.step vars c d).2 := by
  cases m <;> dsimp only [Mode.step] <;> repeat' split
  all_goals
    with_reducible first
      | exact .refl d
      | exact Draft.grows_add _ d
      | exact Draft.grows_rename _ d
      | exact Draft.grows_endWord d
      | exact Draft.grows_breakWord d
      | exact Draft.grows_endStatement d
      | exact Draft.grows_endName vars d
      | exact Draft.grows_endBraced vars d

theorem Mode.grows_turn (vars : Lookup) (c : Char) (m : Mode) (d : Draft) :
    d.Grows (m.turn vars c d).2 := by
  unfold Mode.turn
  split
  · exact (Draft.grows_endName vars d).trans (m.home.grows_step vars c _)
  · exact m.grows_step vars c d

/-- The variable that `c` makes the lexer look up. -/
def Mode.asks (c : Char) (d : Draft) : Mode → Option String
  | varName | varNameInDouble => if isNameChar c then none else some d.name
  | varBraced | varBracedInDouble => if c = '\x7d' ∧ isValidName d.name then some d.name else none
  | _ => none

theorem Mode.isValidName_of_mem_asks {c : Char} {m : Mode} {d : Draft} (h : m.Names d.name) :
    ∀ name ∈ m.asks c d, isValidName name := by
  intro name hn
  cases m <;> simp_all [Mode.asks, Mode.Names]
  all_goals grind

namespace Draft
variable {v w : Lookup} {d : Draft}

theorem substitute_congr {name : String} (h : v name = w name) (d : Draft) :
    d.substitute v name = d.substitute w name := by
  rw [substitute, substitute, h]

theorem endName_congr (h : d.name ≠ "" → v d.name = w d.name) : d.endName v = d.endName w := by
  unfold endName
  split
  · rfl
  · rename_i hne
    exact substitute_congr (h (by simpa using hne)) _

theorem endBraced_congr (h : isValidName d.name → v d.name = w d.name) :
    d.endBraced v = d.endBraced w := by
  unfold endBraced
  split
  · rename_i hvalid
    exact substitute_congr (h hvalid) _
  · rfl

end Draft

/-- A turn depends on the variables only by the one that is looked up. -/
theorem Mode.turn_congr {v w : Lookup} {c : Char} {m : Mode} {d : Draft} (h : m.Names d.name)
    (hvw : ∀ name ∈ m.asks c d, v name = w name) : m.turn v c d = m.turn w c d := by
  cases m with
  | varStart | varStartInDouble =>
    have hend : d.endName v = d.endName w := Draft.endName_congr fun hne => absurd h hne
    simp only [Mode.turn, Mode.step, Mode.home, hend]
  | varName | varNameInDouble =>
    by_cases hc : isNameChar c
    · simp [Mode.turn, Mode.endsName, Mode.step, hc]
    · have hend : d.endName v = d.endName w :=
        Draft.endName_congr fun _ => hvw d.name (by simp [Mode.asks, hc])
      simp only [Mode.turn, Mode.step, Mode.home, hend]
  | varBraced | varBracedInDouble =>
    by_cases hc : c = '\x7d'
    · have hend : d.endBraced v = d.endBraced w :=
        Draft.endBraced_congr fun hvalid => hvw d.name (by simp [Mode.asks, hc, hvalid])
      simp [Mode.turn, Mode.endsName, Mode.step, hend, hc]
    · simp [Mode.turn, Mode.endsName, Mode.step, hc]
  | _ => rfl

/-- A call on a lexer, with the source of variables as it is at that time. -/
inductive Call where
  | feedChar (vars : Lookup) (c : Char)
  | feed (vars : Lookup) (text : String)
  | nextEvent
  | takeEvents
  | split (vars : Lookup) (text : String)
  | reset

def Call.run : Call → Lexer → Lexer
  | feedChar vars c, l => l.feedChar vars c
  | feed vars text, l => (l.feed vars text).2
  | nextEvent, l => l.nextEvent.2
  | takeEvents, l => l.takeEvents.2
  | split vars text, l => (l.split vars text).2
  | reset, l => l.reset

/-- A new lexer after the calls, made in their order. -/
def after (calls : List Call) : Lexer := calls.foldl (fun l call => call.run l) {}

/-- The invariant between two characters. -/
structure Settled (l : Lexer) : Prop where
  stack : l.cursor.stack = []
  mode : l.mode.number < 12
  name : l.mode.Names l.draft.name
  events : ∀ e ∈ l.draft.events, e.Proper

/-- What one character may do to a lexer: the loop over it and what it pushes back ends within two
steps, in one way and without a miss, whatever source is asked; of the source no more matters than
the value of one variable, the name of which is valid; and the draft grows. -/
structure Advances (l : Lexer) (c : Char) : Prop where
  turns : ∃ n ≤ 2, ∀ vars k r g, Turns grammar c ⟨l.cursor, ⟨vars, l.draft⟩⟩ k r g ↔
    k = n ∧ r = none ∧ g = ⟨(l.feedChar vars c).cursor, ⟨vars, (l.feedChar vars c).draft⟩⟩
  asks : ∃ asked : Option String, (∀ name ∈ asked, isValidName name) ∧
    ∀ v w, (∀ name ∈ asked, v name = w name) → l.feedChar v c = l.feedChar w c
  queues : ∀ vars, l.draft.Queues (l.feedChar vars c).draft
  grows : ∀ vars, l.draft.Grows (l.feedChar vars c).draft

theorem Mode.number_lt (m : Mode) : m.number < 12 := by cases m <;> decide

theorem settled_inMode (m : Mode) (d : Draft) (hname : m.Names d.name)
    (hevents : ∀ e ∈ d.events, e.Proper) : Settled (inMode m d) :=
  ⟨rfl, m.number_lt, hname, hevents⟩

theorem settled_empty : Settled {} := settled_inMode .bare {} rfl (by simp)

theorem Settled.advances {l : Lexer} (h : Settled l) (c : Char) : Advances l c := by
  rw [← inMode_of_stack l h.stack]
  refine ⟨⟨if l.mode.endsName c then 2 else 1, by split <;> omega, ?_⟩,
    ⟨l.mode.asks c l.draft, Mode.isValidName_of_mem_asks h.name, ?_⟩, ?_, ?_⟩
  · intro vars k r g
    have hturns := turns_grammar vars c l.mode l.draft
    rw [feedChar_inMode]
    constructor
    · exact fun hk => hk.unique hturns
    · rintro ⟨rfl, rfl, rfl⟩
      exact hturns
  · intro v w hvw
    rw [feedChar_inMode, feedChar_inMode, Mode.turn_congr h.name hvw]
  · intro vars
    rw [feedChar_inMode]
    exact Mode.turn_queues vars c _ _
  · intro vars
    rw [feedChar_inMode]
    exact Mode.grows_turn vars c _ _

theorem Settled.feedChar {l : Lexer} (h : Settled l) (vars : Lookup) (c : Char) :
    Settled (l.feedChar vars c) := by
  obtain ⟨failed, ended, hevents, hfailed, hended⟩ := (h.advances c).queues vars
  have hl := inMode_of_stack l h.stack
  rw [← hl, feedChar_inMode] at hevents ⊢
  refine settled_inMode _ _ (Mode.names_turn vars c _ _ h.name) ?_
  intro e he
  rw [draft_inMode] at hevents
  rw [hevents] at he
  simp only [draft_inMode, List.mem_append, Option.mem_toList, Option.map_eq_some_iff] at he
  rcases he with (⟨words, hw, rfl⟩ | ⟨x, hx, rfl⟩) | he
  · exact hended words hw
  · exact hfailed x hx
  · exact h.events e he

theorem Settled.feedChars {l : Lexer} (h : Settled l) (vars : Lookup) (cs : List Char) :
    Settled (l.feedChars vars cs) := by
  induction cs generalizing l with
  | nil => exact h
  | cons c cs ih => exact ih (h.feedChar vars c)

/-- Events may be taken from the queue at any time. -/
theorem Settled.withEvents {l : Lexer} (h : Settled l) {events : List Event}
    (hsub : ∀ e ∈ events, e ∈ l.draft.events) :
    Settled { l with draft := { l.draft with events } } :=
  ⟨h.stack, h.mode, h.name, fun e he => h.events e (hsub e he)⟩

theorem Settled.takeEvents {l : Lexer} (h : Settled l) : Settled l.takeEvents.2 :=
  h.withEvents (by simp)

theorem Settled.nextEvent {l : Lexer} (h : Settled l) : Settled l.nextEvent.2 := by
  unfold Lexer.nextEvent
  split
  · exact h
  · rename_i e rest hrev
    refine h.withEvents ?_
    intro x hx
    rw [← List.mem_reverse, hrev]
    exact List.mem_cons_of_mem e (List.mem_reverse.mp hx)

theorem Settled.feed {l : Lexer} (h : Settled l) (vars : Lookup) (text : String) :
    Settled (l.feed vars text).2 :=
  (h.feedChars vars text.toList).takeEvents

theorem Settled.split (l : Lexer) (vars : Lookup) (text : String) :
    Settled (l.split vars text).2 := by
  unfold Lexer.split
  dsimp only
  split
  · exact settled_empty.feed vars _
  · exact settled_empty

theorem Settled.run {l : Lexer} (h : Settled l) (call : Call) : Settled (call.run l) := by
  cases call with
  | feedChar vars c => exact h.feedChar vars c
  | feed vars text => exact h.feed vars text
  | nextEvent => exact h.nextEvent
  | takeEvents => exact h.takeEvents
  | split vars text => exact .split l vars text
  | reset => exact settled_empty

theorem settled_after (calls : List Call) : Settled (after calls) := by
  have hrun : ∀ l, Settled l → Settled (calls.foldl (fun l call => call.run l) l) := by
    induction calls with
    | nil => exact fun l h => h
    | cons call calls ih => exact fun l h => ih _ (h.run call)
  exact hrun {} settled_empty

/-- After any calls, and in the middle of any text, a lexer is settled, and whatever character
comes next only advances it. A source that changes while a text is read is met by feeding the
characters of the text one by one. -/
theorem settled_and_advances (calls : List Call) (vars : Lookup) (cs : List Char) :
    Settled ((after calls).feedChars vars cs) ∧ ∀ c, Advances ((after calls).feedChars vars cs) c :=
  have h := (settled_after calls).feedChars vars cs
  ⟨h, h.advances⟩

end NestedShell.Lexer

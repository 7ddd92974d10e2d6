import NestedShell.Proofs.Lexer.Agreement
import NestedShell.Proofs.Lexer.Misread
import NestedShell.Proofs.Lexer.Requote

/-! What a draft holds from before, words that have ended and events that no one has taken, makes
no difference to the reading until the statement ends; and then the words are its first ones. -/
namespace NestedShell.Lexer

/-- The draft behind words that have ended before and events that were queued before, both with the
last ones first. -/
def Draft.framed (words : List String) (events : List Event) (d : Draft) : Draft :=
  { d with words := d.words ++ words, events := d.events ++ events }

/-- A terminator ends the statement outside quotes, also when it ends a name. -/
def Mode.Ends (c : Char) (m : Mode) : Prop :=
  (c = ';' ∨ c = '\n') ∧ (m = .bare ∨ m.home = .bare ∧ m.endsName c)

namespace Draft
variable (W : List String) (E : List Event) (d : Draft)

@[simp] theorem framed_breakWord : (d.framed W E).breakWord = d.breakWord.framed W E := by
  by_cases hword : d.word = "" <;> simp [breakWord, framed, endWord, hword]

@[simp] theorem framed_substitute (vars : Lookup) (name : String) :
    (d.framed W E).substitute vars name = (d.substitute vars name).framed W E := by
  unfold substitute
  split <;> rfl

@[simp] theorem framed_endName (vars : Lookup) :
    (d.framed W E).endName vars = (d.endName vars).framed W E := by
  by_cases hname : d.name = ""
  · simp [endName, framed, add, hname]
  · have hsubstitute := framed_substitute W E { d with name := "" } vars d.name
    simpa [endName, framed, hname] using hsubstitute

@[simp] theorem framed_endBraced (vars : Lookup) :
    (d.framed W E).endBraced vars = (d.endBraced vars).framed W E := by
  by_cases hname : isValidName d.name
  · have hsubstitute := framed_substitute W E { d with name := "" } vars d.name
    simpa [endBraced, framed, hname] using hsubstitute
  · simp [endBraced, framed, queue, hname]

/-- Words from before become the first ones of the statement. -/
theorem framed_endStatement (hW : W ≠ []) : (d.framed W E).endStatement =
    { name := d.name
      events := .statement (W.reverse ++ (d.words.reverse ++ Descent.broken d.word)) ::
        (d.events ++ E) } := by
  rw [endStatement_eq]
  simp [framed, Descent.statement, hW]

theorem framed_nil_endStatement :
    (d.framed [] E).endStatement = d.endStatement.framed [] E := by
  simp [endStatement_eq, framed]

end Draft

namespace Mode
variable (vars : Lookup) {c : Char} {m : Mode} {W : List String} (E : List Event) (d : Draft)

theorem step_framed (h : W = [] ∨ ¬(m = .bare ∧ (c = ';' ∨ c = '\n'))) :
    m.step vars c (d.framed W E) = ((m.step vars c d).1, (m.step vars c d).2.framed W E) := by
  by_cases hend : m = .bare ∧ (c = ';' ∨ c = '\n')
  · obtain rfl := h.resolve_right (not_not.mpr hend)
    obtain ⟨rfl, rfl | rfl⟩ := hend <;> exact Prod.ext rfl (Draft.framed_nil_endStatement E d)
  · cases m <;> dsimp only [step] <;> repeat' split
    all_goals
      first
        | rfl
        | simp_all

/-- Short of its end, a statement is read as it would be without what was read of it before. -/
theorem turn_framed (h : W = [] ∨ ¬ m.Ends c) :
    m.turn vars c (d.framed W E) = ((m.turn vars c d).1, (m.turn vars c d).2.framed W E) := by
  unfold turn
  by_cases hname : m.endsName c
  · rw [if_pos hname, if_pos hname, Draft.framed_endName]
    exact step_framed vars E _
      (h.imp_right fun hends hhome => hends ⟨hhome.2, .inr ⟨hhome.1, hname⟩⟩)
  · rw [if_neg hname, if_neg hname]
    exact step_framed vars E _ (h.imp_right fun hends hbare => hends ⟨hbare.2, .inl hbare.1⟩)

/-- Behind any words the statement ends with them as its first ones. -/
theorem turn_framed_of_ends (h : m.Ends c) :
    ∃ (name : String) (words : List String) (events : List Event), ∀ W E, W ≠ [] →
      m.turn vars c (d.framed W E) =
        (.bare, { name, events := .statement (W.reverse ++ words) :: (events ++ E) }) := by
  obtain ⟨hc, rfl | ⟨hhome, hname⟩⟩ := h
  · refine ⟨d.name, d.words.reverse ++ Descent.broken d.word, d.events, fun W E hW => ?_⟩
    rw [turn_terminator hc, Draft.framed_endStatement W E d hW]
  · let f := d.endName vars
    refine ⟨f.name, f.words.reverse ++ Descent.broken f.word, f.events, fun W E hW => ?_⟩
    have hbare : bare.step vars c (f.framed W E) = (.bare, (f.framed W E).endStatement) :=
      turn_terminator hc vars _
    rw [turn, if_pos hname, hhome, Draft.framed_endName, hbare, Draft.framed_endStatement W E f hW]

end Mode

/-- Events from before stay behind those that come about. -/
theorem feedChars_framed_nil (vars : Lookup) (E : List Event) (cs : List Char) (m : Mode)
    (d : Draft) : ∃ (m' : Mode) (e : Draft), (inMode m d).feedChars vars cs = inMode m' e ∧
      (inMode m (d.framed [] E)).feedChars vars cs = inMode m' (e.framed [] E) := by
  induction cs generalizing m d with
  | nil => exact ⟨m, d, rfl, rfl⟩
  | cons c cs ih =>
    obtain ⟨m', e, hread, hframed⟩ := ih (m.turn vars c d).1 (m.turn vars c d).2
    refine ⟨m', e, ?_, ?_⟩
    · rw [feedChars_cons, feedChar_inMode, hread]
    · rw [feedChars_cons, feedChar_inMode, Mode.turn_framed vars E d (.inl rfl), hframed]

/-- A text that does not end the statement is read alike behind any words. -/
theorem feedChars_framed (vars : Lookup) {W₀ : List String} (hW₀ : W₀ ≠ []) {cs : List Char}
    {m : Mode} {d : Draft}
    (hquiet : ∀ words,
      .statement words ∉ ((inMode m (d.framed W₀ [])).feedChars vars cs).draft.events) :
    ∃ (m' : Mode) (e : Draft),
      ∀ W E, (inMode m (d.framed W E)).feedChars vars cs = inMode m' (e.framed W E) := by
  induction cs generalizing m d with
  | nil => exact ⟨m, d, fun _ _ => rfl⟩
  | cons c cs ih =>
    rw [feedChars_cons, feedChar_inMode] at hquiet
    by_cases hends : m.Ends c
    · obtain ⟨name, words, events, hturn⟩ := Mode.turn_framed_of_ends vars d hends
      rw [hturn W₀ [] hW₀] at hquiet
      obtain ⟨m', e, hread, -, hevents, -⟩ := feedChars_grows vars cs .bare
        { name, events := .statement (W₀.reverse ++ words) :: (events ++ []) }
      rw [hread] at hquiet
      exact absurd (hevents.subset List.mem_cons_self) (hquiet _)
    · rw [Mode.turn_framed vars [] d (.inr hends)] at hquiet
      obtain ⟨m', e, hread⟩ := ih hquiet
      refine ⟨m', e, fun W E => ?_⟩
      rw [feedChars_cons, feedChar_inMode, Mode.turn_framed vars E d (.inr hends), hread]

/-- What a text adds to a statement that it goes on with up to a terminator: faults, and words. A
new lexer reads it behind a word without text. -/
structure Finishes (vars : Lookup) (text : String) (terminator : Separator)
    (faults : List LexError) (words : List String) : Prop where
  quiet : (({} : Lexer).feed vars ("''" ++ text)).1 = faults.map .error
  ends : ({} : Lexer).feed vars (("''" ++ text).push terminator.char) =
    (faults.map .error ++ [.statement ("" :: words)], {})

theorem feedChars_emptyWord (vars : Lookup) (cs : List Char) :
    ({} : Lexer).feedChars vars ('\'' :: '\'' :: cs) =
      (inMode .bare (Draft.framed [""] [] {})).feedChars vars cs := by
  have hopen : ({} : Lexer).feedChar vars '\'' = inMode .singleQuote {} :=
    feedChar_inMode vars '\'' .bare {}
  rw [feedChars_cons, hopen, feedChars_cons, feedChar_inMode]
  rfl

theorem eq_of_takeEvents {l : Lexer} {events : List Event} (h : l.takeEvents = (events, {})) :
    l = inMode .bare { events := events.reverse } := by
  obtain ⟨cursor, word, name, words, queue⟩ := l
  simp only [takeEvents, Prod.mk.injEq, Lexer.mk.injEq, Draft.mk.injEq] at h
  obtain ⟨rfl, rfl, rfl, rfl, rfl, -⟩ := h
  rw [List.reverse_reverse]
  rfl

/-- What a text adds to a statement it adds behind any words. -/
theorem Finishes.reads {vars : Lookup} {text : String} {terminator : Separator}
    {faults : List LexError} {words : List String}
    (h : Finishes vars text terminator faults words) :
    ∃ (m : Mode) (d : Draft), d.events = [] ∧
      (∀ W E, (inMode .bare (Draft.framed W E {})).feedChars vars text.toList =
        inMode m (d.framed W ((faults.map .error).reverse ++ E))) ∧
      ∀ W E, W ≠ [] → m.turn vars terminator.char (d.framed W E) =
        (.bare, { events := .statement (W.reverse ++ words) :: E }) := by
  have hquiet : ((inMode .bare (Draft.framed [""] [] {})).feedChars vars text.toList).draft.events =
      (faults.map .error).reverse := by
    have hevents := h.quiet
    rw [feed, takeEvents, String.toList_append] at hevents
    rw [← hevents, ← feedChars_emptyWord, List.reverse_reverse]
    rfl
  have hnone : ∀ words, .statement words ∉
      ((inMode .bare (Draft.framed [""] [] {})).feedChars vars text.toList).draft.events := by
    rw [hquiet]
    simp
  obtain ⟨m, e, hread⟩ := feedChars_framed vars (List.cons_ne_nil "" []) hnone
  -- The faults have been queued before the terminator is read, and are kept apart from the draft.
  have hfaults : ∀ W E, e.framed W E =
      Draft.framed W ((faults.map .error).reverse ++ E) { e with events := [] } := by
    intro W E
    rw [hread] at hquiet
    have hevents : e.events = (faults.map .error).reverse := by simpa [Draft.framed] using hquiet
    simp [Draft.framed, hevents]
  refine ⟨m, { e with events := [] }, rfl, fun W E => by rw [hread, hfaults], ?_⟩
  have hlast : (inMode m (e.framed [""] [])).feedChar vars terminator.char =
      inMode .bare { events := .statement ("" :: words) :: (faults.map .error).reverse } := by
    have hends := h.ends
    have hchars : (("''" ++ text).push terminator.char).toList =
        '\'' :: '\'' :: (text.toList ++ [terminator.char]) := by simp
    rw [feed, hchars, feedChars_emptyWord, feedChars_append, hread] at hends
    have hall := eq_of_takeEvents hends
    rwa [List.reverse_append] at hall
  rw [feedChar_inMode, hfaults, List.append_nil] at hlast
  obtain ⟨-, hdraft⟩ := inMode_injective hlast
  by_cases hends : m.Ends terminator.char
  · obtain ⟨name, more, events, hturn⟩ :=
      Mode.turn_framed_of_ends vars { e with events := [] } hends
    rw [hturn _ _ (by simp)] at hdraft
    simp only [List.reverse_singleton, List.singleton_append, Draft.mk.injEq, List.cons.injEq,
      Event.statement.injEq, true_and, List.append_left_eq_self] at hdraft
    obtain ⟨rfl, rfl, rfl⟩ := hdraft
    exact fun W E hW => hturn W E hW
  · rw [Mode.turn_framed vars _ _ (.inr hends)] at hdraft
    simpa [Draft.framed] using congrArg Draft.words hdraft

end NestedShell.Lexer

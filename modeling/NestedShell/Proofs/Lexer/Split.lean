import NestedShell.Proofs.Lexer.Memory
import NestedShell.Proofs.Lexer.Misread

/-! What a text is split into that stands for itself, and what that leaves in the lexer. The end of
the line that is implied closes a bare text and a reference without braces, and nothing else. -/
namespace NestedShell.Lexer

theorem statements_eq_ok_iff {events : List Event} {found : List (List String)} :
    statements events = .ok found ↔ events = found.map .statement := by
  constructor
  · exact eq_map_of_statements
  · rintro rfl
    exact statements_map_statement found

/-- Of several errors the first one counts, and the statements before it are dropped. -/
theorem statements_eq_error_iff {events : List Event} {e : LexError} :
    statements events = .error e ↔
      ∃ (before : List (List String)) (rest : List Event),
        events = before.map .statement ++ .error e :: rest := by
  induction events with
  | nil => simp [statements]
  | cons event events ih =>
    cases event with
    | error x =>
      constructor
      · intro h
        cases h
        exact ⟨[], events, rfl⟩
      · rintro ⟨before, rest, h⟩
        cases before with
        | nil =>
          cases h
          rfl
        | cons words before => cases h
    | statement words =>
      have hcons : statements (.statement words :: events) = .error e ↔
          statements events = .error e := by
        rw [statements]
        cases statements events <;> simp [Except.map]
      rw [hcons, ih]
      constructor
      · rintro ⟨before, rest, rfl⟩
        exact ⟨words :: before, rest, rfl⟩
      · rintro ⟨before, rest, h⟩
        cases before with
        | nil => cases h
        | cons first before =>
          obtain ⟨-, rfl⟩ := List.cons.inj h
          exact ⟨before, rest, rfl⟩

/-- The events of a lexer do not tell that the input has ended. -/
theorem Settled.statements_ne_unterminated {l : Lexer} (h : Settled l) :
    statements l.takeEvents.1 ≠ .error .unterminated := by
  intro hstatements
  obtain ⟨before, rest, hevents⟩ := statements_eq_error_iff.mp hstatements
  have hmem : Event.error .unterminated ∈ l.takeEvents.1 := by
    rw [hevents]
    exact List.mem_append_right _ List.mem_cons_self
  obtain ⟨name, fault, hexpansion⟩ := h.events _ (List.mem_reverse.mp hmem)
  cases hexpansion

/-- The modes in which the end of a line leaves nothing open: a name without braces ends with it. -/
def Mode.closed : List Mode := [.bare, .varStart, .varName]

/-- Behind a line feed nothing is begun, unless a quote, an escape or a brace was open before it: an
escaped line feed is part of a word. -/
theorem Settled.isComplete_newline_iff {l : Lexer} (h : Settled l) (vars : Lookup) :
    (l.feedChar vars '\n').isComplete ↔ l.mode ∈ Mode.closed := by
  have hended (d : Draft) : (inMode .bare d.endStatement).isComplete := by
    simp [isComplete, inMode, Cursor.isHome, endStatement_eq]
  obtain ⟨m, d, rfl⟩ : ∃ m d, l = inMode m d := ⟨l.mode, l.draft, (inMode_of_stack l h.stack).symm⟩
  rw [feedChar_inMode, mode_inMode]
  cases m with
  | bare => exact iff_of_true (hended d) (by decide)
  | varStart | varName => exact iff_of_true (hended (d.endName vars)) (by decide)
  | escape =>
    have hword : (d.add (.singleton (unescape '\n'))).word ≠ "" := by simp [Draft.add]
    exact iff_of_false (by simp [Mode.turn, Mode.endsName, Mode.step, isComplete, inMode, hword])
      (by decide)
  | _ => exact iff_of_false Bool.false_ne_true (by decide)

theorem isComplete_takeEvents (l : Lexer) : l.takeEvents.2.isComplete = l.isComplete := rfl

theorem mode_takeEvents (l : Lexer) : l.takeEvents.2.mode = l.mode := rfl

section
variable {vars : Lookup} {text : String}

theorem feedChars_line : ({} : Lexer).feedChars vars (text.push '\n').toList =
    (({} : Lexer).feedChars vars text.toList).feedChar vars '\n' := by
  rw [String.toList_push, feedChars_append, feedChars_cons, feedChars_nil]

theorem isComplete_line_iff : (({} : Lexer).feed vars (text.push '\n')).2.isComplete ↔
    (({} : Lexer).feed vars text).2.mode ∈ Mode.closed := by
  rw [feed, feed, isComplete_takeEvents, mode_takeEvents, feedChars_line]
  exact (settled_empty.feedChars vars text.toList).isComplete_newline_iff vars

/-- What has been read before makes no difference to a text that ends with nothing open, and what is
left of it is a new lexer. -/
theorem split_of_closed (h : (({} : Lexer).feed vars text).2.mode ∈ Mode.closed) (l : Lexer) :
    l.split vars text = (statements (({} : Lexer).feed vars (text.push '\n')).1, {}) := by
  have hcomplete := isComplete_line_iff.mpr h
  have hnew : (({} : Lexer).feed vars (text.push '\n')).2 = {} :=
    (Rests.takeEvents (settled_empty.feedChars vars _)).isComplete_iff.mp hcomplete
  simp only [split, reset, hcomplete, if_true]
  rw [hnew]

theorem split_of_open (h : (({} : Lexer).feed vars text).2.mode ∉ Mode.closed) (l : Lexer) :
    l.split vars text = (.error .unterminated, {}) := by
  have hopen := mt isComplete_line_iff.mp h
  simp only [split, reset, hopen, if_false, Bool.false_eq_true]

end

/-- Whatever was read before, a text is split as by a new lexer, and a new lexer is what is left. A
text that ends inside a quote, an escape or a brace is not terminated, whatever else is wrong with
it; of any other the first error counts, and where there is none the result is all the statements in
their order. -/
theorem split_of_any_past (vars : Lookup) (text : String) (l : Lexer) :
    let mode := (({} : Lexer).feed vars text).2.mode
    let events := (({} : Lexer).feed vars (text.push '\n')).1
    ((l.split vars text).1 = .error .unterminated ↔ mode ∉ Mode.closed) ∧
    (∀ e, (l.split vars text).1 = .error e ↔ mode ∉ Mode.closed ∧ e = .unterminated ∨
      mode ∈ Mode.closed ∧ ∃ (before : List (List String)) (rest : List Event),
        events = before.map .statement ++ .error e :: rest) ∧
    (∀ found, (l.split vars text).1 = .ok found ↔
      mode ∈ Mode.closed ∧ events = found.map .statement) ∧
    (l.split vars text).2 = {} := by
  intro mode events
  have hsettled := settled_empty.feedChars vars (text.push '\n').toList
  simp only [← statements_eq_error_iff, ← statements_eq_ok_iff]
  by_cases hmode : mode ∈ Mode.closed
  · rw [split_of_closed hmode]
    refine ⟨iff_of_false hsettled.statements_ne_unterminated (not_not.mpr hmode), ?_, ?_, rfl⟩
    · exact fun e => ⟨fun h => .inr ⟨hmode, h⟩, fun h => (h.resolve_left fun h => h.1 hmode).2⟩
    · exact fun found => (and_iff_right hmode).symm
  · rw [split_of_open hmode]
    refine ⟨iff_of_true rfl hmode, ?_, ?_, rfl⟩
    · intro e
      constructor
      · intro h
        cases h
        exact .inl ⟨hmode, rfl⟩
      · rintro (⟨-, rfl⟩ | ⟨h, -⟩)
        · rfl
        · exact absurd h hmode
    · exact fun found => iff_of_false nofun fun h => hmode h.1

/-- A quote that is left open counts more than the bad name before it. -/
example : ((inMode .varBraced { name := "x" }).split .busy "ls; $\x7b-\x7d 'a").1 =
    .error .unterminated := by
  decide +kernel

end NestedShell.Lexer

import NestedShell.Proofs.Lexer.Frame
import NestedShell.Proofs.Session.Reach

/-! What becomes of a text that is typed: its faults are reported as they come about, and a
statement is run once it has been read as a whole. -/
namespace NestedShell
open Lexer (Draft Mode inMode LexError Separator)
variable {κ : Type}

namespace Session

def reportAll (faults : List LexError) (s : Session κ) : Session κ :=
  faults.foldl (fun s e => s.reportLexError e) s

@[simp] theorem reportAll_nil (s : Session κ) : s.reportAll [] = s := rfl

theorem reportAll_append (faults more : List LexError) (s : Session κ) :
    s.reportAll (faults ++ more) = (s.reportAll faults).reportAll more :=
  List.foldl_append

@[simp] theorem vars_reportAll (faults : List LexError) (s : Session κ) :
    (s.reportAll faults).vars = s.vars := by
  induction faults generalizing s with
  | nil => rfl
  | cons e faults ih => cases e <;> exact ih _

@[simp] theorem lexer_reportAll (faults : List LexError) (s : Session κ) :
    (s.reportAll faults).lexer = s.lexer := by
  induction faults generalizing s with
  | nil => rfl
  | cons e faults ih => cases e <;> exact ih _

theorem reportAll_withLexer (faults : List LexError) (lexer : Lexer) (s : Session κ) :
    reportAll faults { s with lexer } = { s.reportAll faults with lexer } := by
  induction faults generalizing s with
  | nil => rfl
  | cons e faults ih =>
    have hrest := ih (s.reportLexError e)
    cases e <;> exact hrest

theorem resetLexer_of_lexer {s : Session κ} (h : s.lexer = {}) : s.resetLexer = s := by
  rw [resetLexer, Lexer.reset, ← h]

theorem progress_of_lexer {s : Session κ} (h : s.lexer = {}) : s.progress = .complete := by
  rw [progress, h]
  rfl

variable [Blueprint κ]

theorem handle_faults (faults : List LexError) (s : Session κ) :
    s.handle (faults.map .error) = (s.reportAll faults, .ok ()) := by
  induction faults generalizing s with
  | nil => rfl
  | cons e faults ih => exact ih (s.reportLexError e)

theorem feedChar_inMode {s : Session κ} {m : Mode} {d : Draft} (hs : s.lexer = inMode m d)
    (c : Char) : s.feedChar c =
      handle (m.turn s.vars.lookup c d).2.events.reverse { s with
        lexer := inMode (m.turn s.vars.lookup c d).1
          { (m.turn s.vars.lookup c d).2 with events := [] } } := by
  rw [feedChar, hs, Lexer.feedChar_inMode]
  rfl

/-- A text that brings about faults and no statement is read to its end. -/
theorem feedChars_of_faults {s : Session κ} {cs : List Char} {m m' : Mode} {d e : Draft}
    {faults : List LexError} (hs : s.lexer = inMode m d) (hd : d.events = []) (he : e.events = [])
    (hread : (inMode m d).feedChars s.vars.lookup cs =
      inMode m' (e.framed [] (faults.map .error).reverse)) :
    s.feedChars cs = ({ s.reportAll faults with lexer := inMode m' e }, .ok ()) := by
  induction cs generalizing s m d faults with
  | nil =>
    obtain ⟨rfl, rfl⟩ := Lexer.inMode_injective hread
    obtain rfl : faults = [] := by simpa [Draft.framed, he] using hd
    have hsame : s.lexer = inMode m e := by simpa [Draft.framed] using hs
    rw [← hsame]
    rfl
  | cons c cs ih =>
    rw [Lexer.feedChars_cons, Lexer.feedChar_inMode] at hread
    obtain ⟨m₁, d₁, hturn⟩ : ∃ m₁ d₁, m.turn s.vars.lookup c d = (m₁, d₁) := ⟨_, _, rfl⟩
    rw [hturn] at hread
    -- The faults are those of the first character and those of the text behind it.
    obtain ⟨m₂, d₂, hrest, hall⟩ := Lexer.feedChars_framed_nil s.vars.lookup d₁.events cs m₁
      { d₁ with events := [] }
    have hsame : d₁ = Draft.framed [] d₁.events { d₁ with events := [] } := by
      simp [Draft.framed]
    rw [hsame, hall] at hread
    obtain ⟨rfl, hdraft⟩ := Lexer.inMode_injective hread
    have hevents : faults.map .error = d₁.events.reverse ++ d₂.events.reverse := by
      have hqueue := congrArg (fun d : Draft => d.events.reverse) hdraft
      simpa [Draft.framed, he] using hqueue.symm
    obtain ⟨first, later, rfl, hfirst, hlater⟩ := List.map_eq_append_iff.mp hevents
    have hd₂ : d₂ = e.framed [] (later.map .error).reverse := by
      calc d₂ = { d₂.framed [] d₁.events with events := d₂.events } := by simp [Draft.framed]
        _ = e.framed [] (later.map .error).reverse := by
          rw [hdraft, hlater]
          simp [Draft.framed, he]
    have hstep : s.feedChar c =
        (reportAll first { s with lexer := inMode m₁ { d₁ with events := [] } }, .ok ()) := by
      rw [feedChar_inMode hs, hturn, ← hfirst, handle_faults]
    obtain ⟨t, ht⟩ : ∃ t, t = reportAll first { s with
        lexer := inMode m₁ { d₁ with events := [] } } := ⟨_, rfl⟩
    have hlexer : t.lexer = inMode m₁ { d₁ with events := [] } := by rw [ht, lexer_reportAll]
    have hbehind : (inMode m₁ { d₁ with events := [] }).feedChars t.vars.lookup cs =
        inMode m₂ (e.framed [] (later.map .error).reverse) := by
      rw [ht, vars_reportAll, hrest, hd₂]
    rw [feedChars, hstep, ← ht]
    refine (ih hlexer rfl hbehind).trans ?_
    rw [ht, ← reportAll_append, reportAll_withLexer]

/-- Of a text that brings about no event nothing is done but to read it. -/
theorem feedChars_of_quiet {s : Session κ} (hs : s.lexer.Rests) {cs : List Char}
    (hquiet : (s.lexer.feedChars s.vars.lookup cs).draft.events = []) :
    s.feedChars cs = ({ s with lexer := s.lexer.feedChars s.vars.lookup cs }, .ok ()) := by
  obtain ⟨m, d, hlexer⟩ : ∃ m d, s.lexer = inMode m d :=
    ⟨_, _, (Lexer.inMode_of_stack s.lexer hs.settled.stack).symm⟩
  obtain ⟨m', e, hread, -⟩ := Lexer.feedChars_grows s.vars.lookup cs m d
  rw [hlexer, hread] at hquiet ⊢
  have hnone : (inMode m d).feedChars s.vars.lookup cs =
      inMode m' (e.framed [] (([] : List LexError).map .error).reverse) := by
    simpa [Draft.framed] using hread
  have hd : d.events = [] := by simpa [hlexer] using hs.events
  simpa using feedChars_of_faults hlexer hd hquiet hnone

/-- What running a statement comes to when the text ends with it. -/
def concluded (outcome : Session κ × Except Halt Unit) : Session κ × Except Halt Progress :=
  (outcome.1, outcome.2.map fun _ => .complete)

omit [Blueprint κ] in
theorem concluded_eq_ok {outcome : Session κ × Except Halt Unit} :
    (concluded outcome).2 = .ok .complete ↔ outcome.2 = .ok () := by
  obtain ⟨s, halt | ⟨⟩⟩ := outcome <;> simp [concluded, Except.map]

omit [Blueprint κ] in
theorem concluded_eq_error {outcome : Session κ × Except Halt Unit} {halt : Halt} :
    (concluded outcome).2 = .error halt ↔ outcome.2 = .error halt := by
  obtain ⟨s, _ | ⟨⟩⟩ := outcome <;> simp [concluded, Except.map]

/-- A statement is run, between the faults of its text and what comes next, when its last character
has been read. -/
theorem feed_statement {s : Session κ} {text : String} {c : Char} {m m' : Mode} {d e : Draft}
    {faults : List LexError} {words : List String} (hs : s.lexer = inMode m d) (hd : d.events = [])
    (he : e.events = [])
    (hread : (inMode m d).feedChars s.vars.lookup text.toList =
      inMode m' (e.framed [] (faults.map .error).reverse))
    (hturn : m'.turn s.vars.lookup c e = (.bare, { events := [.statement words] })) :
    s.feed (text.push c) =
      concluded (dispatch words { s.reportAll faults with lexer := {} }) := by
  have hchar : feedChar c { s.reportAll faults with lexer := inMode m' e } =
      handle [.statement words] { s.reportAll faults with lexer := {} } := by
    rw [← vars_reportAll faults s] at hturn
    rw [feedChar_inMode rfl, hturn]
    rfl
  have hlexer := lexer_dispatch words { s.reportAll faults with lexer := {} }
  rw [feed, String.toList_push, feedChars_append, feedChars_of_faults hs hd he hread]
  simp only [feedChars, hchar, handle, concluded]
  rcases hrun : dispatch words { s.reportAll faults with lexer := {} } with ⟨t, halt | ⟨⟩⟩ <;>
    rw [hrun] at hlexer
  · exact Prod.ext (resetLexer_of_lexer (s := t) hlexer) rfl
  · exact Prod.ext rfl (congrArg Except.ok (progress_of_lexer (s := t) hlexer))

end Session

namespace Lexer

theorem getLast?_quote (word : String) : (quote word).toList.getLast? ≠ some '\n' := by
  unfold quote
  split
  · rename_i hplain
    simp only [Bool.and_eq_true, List.all_eq_true] at hplain
    intro hlast
    have hfeed := hplain.2 '\n' (List.mem_of_getLast? hlast)
    revert hfeed
    decide
  · rw [String.toList_ofList, List.getLast?_append]
    simp

theorem getLast?_join (words : List String) : (join words).toList.getLast? ≠ some '\n' := by
  induction words with
  | nil => simp [join]
  | cons word rest ih =>
    cases rest with
    | nil => simpa [join] using getLast?_quote word
    | cons next rest =>
      have hjoin : (join (word :: next :: rest)).toList =
          (quote word).toList ++ ' ' :: (join (next :: rest)).toList := by
        simp [join, String.intercalate_cons_cons]
      rw [hjoin, List.getLast?_append, List.getLast?_cons]
      cases hlast : (join (next :: rest)).toList.getLast? with
      | none => simp
      | some c =>
        rw [hlast] at ih
        simpa using ih

/-- Words that have been written out bring no event about before a character ends the statement. -/
theorem events_feedChars_join (vars : Lookup) {words : List String} (hne : words ≠ [])
    {before behind : List Char} (hjoin : (join words).toList = before ++ behind) :
    (({} : Lexer).feedChars vars before).draft.events = [] := by
  obtain ⟨word, rest, rfl⟩ := List.exists_cons_of_ne_nil hne
  obtain ⟨e, hread, hbreak⟩ := feedChars_join vars word rest {}
  have he : e.events = [] := by
    rw [← Draft.events_breakWord, hbreak]
    rfl
  obtain ⟨m, d, hbefore, -⟩ := feedChars_grows vars before .bare {}
  obtain ⟨m', d', hbehind, -, hsuffix, -⟩ := feedChars_grows vars behind m d
  rw [hjoin, feedChars_append, hbefore, hbehind] at hread
  obtain ⟨-, rfl⟩ := inMode_injective hread
  have hd : d.events = [] := List.suffix_nil.mp (he ▸ hsuffix)
  calc (({} : Lexer).feedChars vars before).draft.events
      = ((inMode .bare {}).feedChars vars before).draft.events := rfl
    _ = [] := by rw [hbefore, draft_inMode, hd]

end Lexer

namespace Session
variable [Blueprint κ]

/-- To type a statement as it is written out is to run it. -/
theorem runLine_join {s : Session κ} (hs : s.lexer = {}) {words : List String} (hne : words ≠ []) :
    s.runLine (Lexer.join words) = concluded (s.dispatch words) := by
  obtain ⟨word, rest, rfl⟩ := List.exists_cons_of_ne_nil hne
  obtain ⟨e, hread, hbreak⟩ := Lexer.feedChars_join s.vars.lookup word rest {}
  have he : e.events = [] := by
    rw [← Draft.events_breakWord, hbreak]
    rfl
  have hturn : Mode.bare.turn s.vars.lookup '\n' e =
      (.bare, { events := [.statement (word :: rest)] }) := by
    have hend := Lexer.feedChars_join_separator s.vars.lookup (word :: rest) hne .lineFeed []
    rw [Lexer.feedChars_append, hread, Lexer.feedChars_cons, Lexer.feedChar_inMode] at hend
    obtain ⟨hmode, hdraft⟩ := Lexer.inMode_injective hend
    exact Prod.ext hmode hdraft
  rw [runLine, if_neg (Lexer.getLast?_join _)]
  have hnone : (inMode .bare {}).feedChars s.vars.lookup (Lexer.join (word :: rest)).toList =
      inMode .bare (e.framed [] (([] : List LexError).map .error).reverse) := by
    simpa [Draft.framed] using hread
  rw [feed_statement hs rfl he hnone hturn, reportAll_nil, ← hs]

/-- A statement that has been written out may be typed in place of being run, in every session that
waits for nothing: it leaves the session as the statement does, with nothing in the lexer, and halts
it if the statement does. Up to the end of the line nothing is run or reported. -/
theorem runLine_join_eq_dispatch {s : Session κ} (hs : s.Reachable) (hcomplete : s.lexer.isComplete)
    {words : List String} (hne : words ≠ []) :
    let typed := s.runLine (Lexer.join words)
    let run := s.dispatch words
    typed.1 = run.1 ∧ typed.1.lexer = {} ∧ (run.2 = .ok () ↔ typed.2 = .ok .complete) ∧
      (∀ halt, run.2 = .error halt ↔ typed.2 = .error halt) ∧
      ∀ before behind, (Lexer.join words).toList = before ++ behind → s.feedChars before =
        ({ s with lexer := s.lexer.feedChars s.vars.lookup before }, .ok ()) := by
  intro typed run
  have hlexer : s.lexer = {} := hs.rests.isComplete_iff.mp hcomplete
  have htyped : typed = concluded run := runLine_join hlexer hne
  refine ⟨by rw [htyped, concluded], ?_, ?_, fun halt => ?_, fun before behind hjoin => ?_⟩
  · rw [htyped, concluded, lexer_dispatch, hlexer]
  · rw [htyped, concluded_eq_ok]
  · rw [htyped, concluded_eq_error]
  · refine feedChars_of_quiet hs.rests ?_
    rw [hlexer]
    exact Lexer.events_feedChars_join s.vars.lookup hne hjoin

/-- The last context is left with a value full of what the lexer would take for its own. -/
theorem runLine_join_eq_dispatch_exit :
    let words := ["exit", "it's; $X\n; \""]
    single.Reachable ∧ single.lexer.isComplete ∧ words ≠ [] ∧
      (single.runLine (Lexer.join words)).1 = (single.dispatch words).1 ∧
      (single.runLine (Lexer.join words)).2 = .error .quit := by
  intro words
  have hreachable : single.Reachable := .new rfl
  have hne : words ≠ [] := by simp [words]
  have htyped := runLine_join_eq_dispatch hreachable (by decide) hne
  have hquit : (single.dispatch words).2 = .error .quit := by decide +kernel
  exact ⟨hreachable, by decide, hne, htyped.1, (htyped.2.2.2.1 .quit).mp hquit⟩

end Session

end NestedShell

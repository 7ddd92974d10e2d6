import Mathlib.Algebra.Order.BigOperators.Group.List
import Mathlib.Algebra.Order.Group.Nat
import NestedShell.Proofs.Lexer.Reference
import NestedShell.Proofs.Lexer.Requote
import NestedShell.Proofs.Ordered

/-! What a lexer remembers between two texts. One that is complete remembers nothing; of any other,
a text can be read on which the events are not those of a new lexer. -/
namespace NestedShell.Lexer

/-- A lexer from which all events have been taken. -/
structure Rests (l : Lexer) : Prop where
  settled : Settled l
  events : l.draft.events = []

theorem rests_empty : Rests {} := ⟨settled_empty, rfl⟩

theorem Rests.takeEvents {l : Lexer} (h : Settled l) : Rests l.takeEvents.2 := ⟨h.takeEvents, rfl⟩

/-- A lexer that waits for nothing and has nothing to give is like a new one. -/
theorem Rests.isComplete_iff {l : Lexer} (h : l.Rests) : l.isComplete ↔ l = {} := by
  refine ⟨fun hcomplete => ?_, fun hl => by rw [hl]; rfl⟩
  rw [isComplete, Bool.and_eq_true, Bool.and_eq_true] at hcomplete
  obtain ⟨⟨hmode, hword⟩, hwords⟩ := hcomplete
  have hmode : l.mode = .bare := of_decide_eq_true hmode
  have hname : l.draft.name = "" := by
    have hnames := h.settled.name
    rwa [hmode] at hnames
  rw [← inMode_of_stack l h.settled.stack, hmode]
  obtain ⟨cursor, word, name, words, events⟩ := l
  obtain rfl := String.isEmpty_iff.mp hword
  obtain rfl := List.isEmpty_iff.mp hwords
  obtain rfl : name = "" := hname
  obtain rfl : events = [] := h.events
  rfl

theorem nextEvent_eq_none {l : Lexer} (h : l.nextEvent.1 = none) : l.draft.events = [] := by
  unfold nextEvent at h
  split at h
  · rename_i hevents
    exact List.reverse_eq_nil_iff.mp hevents
  · simp at h

variable {vars : Lookup} {m : Mode} {d : Draft}

/-- A statement is begun, which the end of a line brings out. -/
def Draft.Begun (d : Draft) : Prop := d.words ++ Descent.broken d.word ≠ []

theorem Draft.begun_add {text : String} (h : text ≠ "") (d : Draft) : (d.add text).Begun := by
  simp [Begun, add, Descent.broken, h]

theorem Draft.begun_endWord (d : Draft) : d.endWord.Begun := by simp [Begun, endWord]

theorem queued_newline : queued vars .bare d ['\n'] =
    (Descent.statement (d.words.reverse ++ Descent.broken d.word)).reverse ++ d.events := by
  rw [queued_cons, Mode.turn_terminator (.inr rfl), queued_nil, endStatement_eq]

theorem queued_newline_ne_nil (h : d.Begun) : queued vars .bare d ['\n'] ≠ [] := by
  have hwords : d.words.reverse ++ Descent.broken d.word ≠ [] := by simpa [Draft.Begun] using h
  simp [queued_newline, Descent.statement, hwords]

namespace Mode

/-- A text that closes what the mode is inside of, and brings out what has been read. To a new
lexer it says nothing: there it is blank, or opens a quote that it does not close. -/
def closing : Mode → List Char
  | bare | varStart | varName => ['\n']
  | escape => ['\n', '\n']
  | singleQuote => ['\'', '\n']
  | doubleQuote | varStartInDouble | varNameInDouble => ['"', '\n']
  | quoteInDouble => ['\'', '"', '\n']
  | escapeInDouble => ['x', '"', '\n']
  | varBraced | varBracedInDouble => [' ', '\x7d']

theorem queued_closing_new (vars : Lookup) (m : Mode) : queued vars .bare {} m.closing = [] := by
  cases m <;> simp only [closing, queued_cons, queued_nil] <;> rfl

end Mode

/-- A blank spoils a name between braces. -/
theorem Surroundings.queued_blank_brace (k : Surroundings) :
    queued vars k.braced d [' ', '\x7d'] ≠ [] := by
  have hinvalid : ¬isValidName (d.name.push ' ') := by
    simp [isValidName, show isNameChar ' ' = false by decide]
  rw [queued_cons, k.turn_braced vars d (by decide), queued_cons, k.turn_closingBrace, queued_nil]
  simp [Draft.endBraced, hinvalid, Draft.queue]

/-- In every mode but one, what closes it brings an event about. -/
theorem Mode.queued_closing_ne_nil (hname : m.Names d.name) (hm : m ≠ varName)
    (hbegun : m = bare → d.Begun) : queued vars m d m.closing ≠ [] := by
  cases m with
  | bare => exact queued_newline_ne_nil (hbegun rfl)
  | varName => contradiction
  | escape =>
    rw [closing, queued_cons]
    exact queued_newline_ne_nil (Draft.begun_add (by decide) d)
  | singleQuote | doubleQuote | varStartInDouble | varNameInDouble =>
    rw [closing, queued_cons]
    exact queued_newline_ne_nil (Draft.begun_endWord _)
  | quoteInDouble | escapeInDouble =>
    rw [closing, queued_cons, queued_cons]
    exact queued_newline_ne_nil (Draft.begun_endWord _)
  | varStart =>
    have hend : d.endName vars = { d with name := "" }.add "$" :=
      if_pos (String.isEmpty_iff.mpr hname)
    rw [closing, queued_cons, show varStart.turn vars '\n' d =
      bare.turn vars '\n' (d.endName vars) from rfl, ← queued_cons, hend]
    exact queued_newline_ne_nil (Draft.begun_add (by decide) _)
  | varBraced => exact Surroundings.queued_blank_brace .bare
  | varBracedInDouble => exact Surroundings.queued_blank_brace .doubleQuoted

theorem exists_longer (texts : List String) : ∃ n, ∀ text ∈ texts, text.length < n :=
  ⟨(texts.map String.length).sum + 1, fun _ h =>
    Nat.lt_succ_of_le (List.le_sum_of_mem (List.mem_map_of_mem h))⟩

/-- A word of name characters, as long as wanted. -/
def longWord (n : ℕ) : String := .ofList (List.replicate n 'x')

@[simp] theorem length_longWord (n : ℕ) : (longWord n).length = n := by simp [longWord]

theorem eq_of_mem_longWord {n : ℕ} {c : Char} (h : c ∈ (longWord n).toList) : c = 'x' :=
  List.eq_of_mem_replicate (by simpa only [longWord, String.toList_ofList] using h)

theorem queued_longWord_new {n : ℕ} (hn : 0 < n) :
    queued vars .bare {} ((longWord n).toList ++ ['\n']) = [.statement [longWord n]] := by
  have hplain : ∀ c ∈ (longWord n).toList, isPlain c :=
    fun c hc => eq_of_mem_longWord hc ▸ by decide
  have hne : longWord n ≠ "" := fun h => hn.ne' (by rw [← length_longWord n, h]; rfl)
  have hread := feedChars_plain vars _ hplain {}
  rw [queued, feedChars_append, hread, ← queued, queued_newline]
  simp [Descent.statement, Descent.broken, Draft.add, hne]

/-- A name is begun, and with the word behind it it is not set: then only what stood before the name
comes out. -/
theorem queued_longWord_name {n : ℕ} (hd : d.name ≠ "") (hevents : d.events = [])
    (hunset : vars (d.name ++ longWord n) = .ok none) :
    queued vars .varName d ((longWord n).toList ++ ['\n']) =
      Descent.statement (d.words.reverse ++ Descent.broken d.word) := by
  have hchars : ∀ c ∈ (longWord n).toList, isNameChar c :=
    fun c hc => eq_of_mem_longWord hc ▸ by decide
  obtain ⟨e, he⟩ : ∃ e, e = { d with name := d.name ++ longWord n } := ⟨_, rfl⟩
  have hread : (inMode .varName d).feedChars vars (longWord n).toList = inMode .varName e := by
    have hname := Surroundings.bare.feedChars_name vars (d := d) hchars
    rwa [String.ofList_toList, ← he] at hname
  have hend : e.endName vars = { d with name := "" } := by
    simp [Draft.endName, Draft.substitute, he, hd, hunset]
  have hturn : Mode.varName.turn vars '\n' e = Mode.bare.turn vars '\n' (e.endName vars) :=
    Surroundings.bare.turn_name_of_end vars e (by decide)
  rw [queued, feedChars_append, hread, ← queued, queued_cons, hturn, hend, ← queued_cons,
    queued_newline]
  simp only [hevents, List.append_nil, Descent.statement]
  split <;> rfl

theorem Descent.eq_of_statement {words words' : List String}
    (h : Descent.statement words = [.statement words']) : words = words' := by
  unfold Descent.statement at h
  split at h
  · simp at h
  · simpa using h

/-- A name that is begun is no new lexer's: there is a word that a new one reads as it stands, and
that only makes the name a longer one that is not set either. -/
theorem exists_queued_ne_of_varName (vars : Variables) (hname : d.name ≠ "")
    (hevents : d.events = []) :
    ∃ cs, queued vars.lookup .varName d cs ≠ queued vars.lookup .bare {} cs := by
  -- Longer than all names, so that no variable has the value by which the lexer would pass for a
  -- new one, and longer than all words, so that it is not among those that were there before.
  obtain ⟨n, hlonger⟩ := exists_longer (d.word :: d.words ++ vars.table.names)
  have hunset : vars.get? (d.name ++ longWord n) = none := by
    rw [Option.eq_none_iff_forall_ne_some]
    intro value hvalue
    have hset : d.name ++ longWord n ∈ vars.table.names := Ordered.mem_names_of_get? hvalue
    have hshort := hlonger _ (List.mem_append_right _ hset)
    rw [String.length_append, length_longWord] at hshort
    omega
  have hnew : longWord n ∉ d.words.reverse ++ Descent.broken d.word := by
    intro hmem
    have hold : longWord n ∈ d.word :: d.words := by
      unfold Descent.broken at hmem
      split at hmem <;> simp_all [or_comm]
    have hshort := hlonger _ (List.mem_append_left _ hold)
    rw [length_longWord] at hshort
    omega
  refine ⟨(longWord n).toList ++ ['\n'], fun heq => hnew ?_⟩
  have hpos : 0 < n := Nat.zero_lt_of_lt (hlonger d.word (by simp))
  rw [queued_longWord_new hpos,
    queued_longWord_name hname hevents (congrArg Except.ok hunset)] at heq
  simp [Descent.eq_of_statement heq]

/-- Of a lexer that is not complete some text brings out other events than of a new one. -/
theorem exists_queued_ne (vars : Variables) (hname : m.Names d.name) (hevents : d.events = [])
    (hbegun : m = .bare → d.Begun) :
    ∃ cs, queued vars.lookup m d cs ≠ queued vars.lookup .bare {} cs := by
  by_cases hm : m = .varName
  · subst hm
    refine exists_queued_ne_of_varName vars ?_ hevents
    rintro hempty
    simp [Mode.Names, hempty, isValidName] at hname
  · refine ⟨m.closing, ?_⟩
    rw [Mode.queued_closing_new]
    exact Mode.queued_closing_ne_nil hname hm hbegun

theorem begun_of_not_isComplete {l : Lexer} (hmode : l.mode = .bare) (hopen : ¬l.isComplete) :
    l.draft.Begun := by
  have hhome : l.cursor.isHome := decide_eq_true hmode
  intro hnothing
  obtain ⟨hwords, hword⟩ := List.append_eq_nil_iff.mp hnothing
  have hword : l.draft.word = "" := by
    by_contra hne
    simp [Descent.broken, hne] at hword
  exact hopen (by simp [isComplete, hhome, hwords, hword])

theorem Rests.exists_text_ne {l : Lexer} (h : l.Rests) (vars : Variables) (hopen : ¬l.isComplete) :
    ∃ text, (l.feed vars.lookup text).1 ≠ (({} : Lexer).feed vars.lookup text).1 := by
  obtain ⟨cs, hcs⟩ := exists_queued_ne vars h.settled.name h.events
    fun hmode => begun_of_not_isComplete hmode hopen
  refine ⟨.ofList cs, fun heq => hcs ?_⟩
  have hevents := List.reverse_injective heq
  rwa [String.toList_ofList, ← inMode_of_stack l h.settled.stack] at hevents

/-- After any calls, with the source as it was at each of them, a lexer from which all events have
been taken is complete if and only if it is like a new one, and if and only if no text can tell it
from a new one: not by the events and the mode behind the text, and not by the events alone. -/
theorem isComplete_iff_forgets (calls : List Call) (vars : Variables)
    (hdrained : (after calls).nextEvent.1 = none) :
    let l := after calls
    (l.isComplete ↔ l = {}) ∧
      (l.isComplete ↔ ∀ text, (l.feed vars.lookup text).1 = (({} : Lexer).feed vars.lookup text).1 ∧
        (l.feed vars.lookup text).2.mode = (({} : Lexer).feed vars.lookup text).2.mode) ∧
      (l.isComplete ↔
        ∀ text, (l.feed vars.lookup text).1 = (({} : Lexer).feed vars.lookup text).1) := by
  intro l
  have hrests : l.Rests := ⟨settled_after calls, nextEvent_eq_none hdrained⟩
  have hnew (hcomplete : l.isComplete) : l = {} := hrests.isComplete_iff.mp hcomplete
  have hopen (hsame : ∀ text,
      (l.feed vars.lookup text).1 = (({} : Lexer).feed vars.lookup text).1) : l.isComplete := by
    by_contra hopen
    obtain ⟨text, hne⟩ := hrests.exists_text_ne vars hopen
    exact hne (hsame text)
  refine ⟨hrests.isComplete_iff, ⟨fun hcomplete text => ?_, fun hsame => hopen fun text =>
    (hsame text).1⟩, ⟨fun hcomplete text => ?_, hopen⟩⟩
  · rw [hnew hcomplete]
    exact ⟨rfl, rfl⟩
  · rw [hnew hcomplete]

/-- Short words behind the reference that is begun here are read as by a new lexer, and still there
is a text that is not. -/
theorem isComplete_iff_forgets_reference :
    let vars := Variables.ofPairs [("Ax", "x"), ("Ay", "y")]
    let calls := [.split .busy "it's", .feed vars.lookup "ls; $", .feedChar vars.lookup 'A',
      .nextEvent]
    (after calls).nextEvent.1 = none ∧ (after calls).isComplete = false ∧
      (∀ text ∈ ["x\n", "y\n"],
        ((after calls).feed vars.lookup text).1 = (({} : Lexer).feed vars.lookup text).1) ∧
      ∃ text, ((after calls).feed vars.lookup text).1 ≠ (({} : Lexer).feed vars.lookup text).1 := by
  intro vars calls
  have hdrained : (after calls).nextEvent.1 = none := by decide +kernel
  have hopen : (after calls).isComplete = false := by decide +kernel
  have hforgets := (isComplete_iff_forgets calls vars hdrained).2.2
  have htold : ∃ text,
      ((after calls).feed vars.lookup text).1 ≠ (({} : Lexer).feed vars.lookup text).1 := by
    by_contra hsame
    push Not at hsame
    simp [hforgets.mpr hsame] at hopen
  exact ⟨hdrained, hopen, by decide +kernel, htold⟩

end NestedShell.Lexer

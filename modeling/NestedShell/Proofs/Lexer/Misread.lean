import Mathlib.Data.List.TakeWhile
import NestedShell.Proofs.Lexer.Invariant
import NestedShell.Proofs.Lexer.Verbatim

/-! Texts that do not stand for themselves outside quotes. When no variable is set, more of such a
text is read than becomes part of a word, and nothing that comes later makes up for that. -/
namespace NestedShell

/-- A source in which no variable is set. -/
def Lookup.unset : Lookup := fun _ => .ok none

namespace Lexer

namespace Draft

@[simp] theorem earlier_queue_error (x : LexError) (d : Draft) :
    (d.queue (.error x)).earlier = d.earlier := by
  simp [earlier, queue]

@[simp] theorem earlier_endWord (d : Draft) : d.endWord.earlier = d.earlier ++ [d.word] := by
  simp [earlier, endWord]

theorem earlier_breakWord (d : Draft) :
    d.breakWord.earlier = if d.word.isEmpty then d.earlier else d.earlier ++ [d.word] := by
  unfold breakWord
  split
  · rfl
  · exact earlier_endWord d

theorem earlier_endStatement (d : Draft) : d.endStatement.earlier = d.breakWord.earlier := by
  unfold endStatement
  dsimp only
  split
  · rfl
  · simp [earlier, queue]

theorem word_breakWord (d : Draft) : d.breakWord.word = "" := by
  unfold breakWord
  split
  · rename_i h
    exact String.isEmpty_iff.mp h
  · rfl

theorem word_endStatement (d : Draft) : d.endStatement.word = "" := by
  unfold endStatement
  dsimp only
  split <;> exact d.word_breakWord

theorem Grows.earlier {d e : Draft} (h : d.Grows e) : d.earlier <+: e.earlier := by
  obtain ⟨more, new, h⟩ := h
  have hbegins : d.earlier <+: e.earlier ++ [e.word] := ⟨_, h.symm⟩
  refine List.prefix_of_prefix_length_le hbegins (List.prefix_append _ _) ?_
  have hlength := congrArg List.length h
  simp only [List.length_append, List.length_cons, List.length_nil] at hlength
  omega

theorem Queues.events {d e : Draft} (h : d.Queues e) : d.events <:+ e.events := by
  obtain ⟨failed, ended, h, -, -⟩ := h
  exact ⟨_, h.symm⟩

theorem length_endName_unset (d : Draft) :
    (d.endName Lookup.unset).word.length ≤ d.word.length + 1 := by
  have hdollar : "$".length = 1 := rfl
  unfold endName
  split
  · simp [add, hdollar]
  · simp [substitute, Lookup.unset, add]

theorem earlier_endName_unset (d : Draft) : (d.endName Lookup.unset).earlier = d.earlier := by
  unfold endName
  split <;> rfl

theorem length_endBraced_unset (d : Draft) :
    (d.endBraced Lookup.unset).word.length = d.word.length := by
  unfold endBraced
  split <;> simp [substitute, Lookup.unset, add, queue]

theorem earlier_endBraced_unset (d : Draft) : (d.endBraced Lookup.unset).earlier = d.earlier := by
  unfold endBraced
  split
  · rfl
  · exact earlier_queue_error _ { d with name := "" }

end Draft

/-- The most that a reference adds to the word when no variable is set. -/
def Mode.due : Mode → ℕ
  | varStart | varName | varBraced | varStartInDouble | varNameInDouble | varBracedInDouble => 1
  | _ => 0

theorem Mode.due_of_endsName {c : Char} {m : Mode} (h : m.endsName c) :
    m.due = 1 ∧ m.home.due = 0 := by
  cases m <;> simp_all [due, home, endsName]

/-- Since the words `earlier` have ended, `k` characters have been read, and fewer have become part
of the next word. -/
def Lags (earlier : List String) (k : ℕ) (m : Mode) (d : Draft) : Prop :=
  (d.earlier = earlier ∧ d.word.length + m.due < k) ∨
    ∃ word, earlier ++ [word] <+: d.earlier ∧ word.length < k

section
variable {earlier : List String} {k : ℕ} {m : Mode} {d e : Draft} {c : Char}

theorem Lags.of_breakWord (hearlier : d.earlier = earlier) (hword : d.word.length < k)
    (hbreak : e.earlier = d.breakWord.earlier) (hempty : e.word = "") (hm : m.due = 0) :
    Lags earlier k m e := by
  rw [Draft.earlier_breakWord] at hbreak
  split at hbreak
  · refine .inl ⟨hbreak.trans hearlier, ?_⟩
    rw [hempty, hm, String.length_empty]
    omega
  · exact .inr ⟨d.word, by simp [hbreak, hearlier], hword⟩

theorem Lags.endName (h : Lags earlier k m d) (hc : m.endsName c) :
    Lags earlier k m.home (d.endName Lookup.unset) := by
  obtain ⟨hdue, hhome⟩ := Mode.due_of_endsName hc
  rcases h with ⟨hearlier, hword⟩ | ⟨word, hword, hlength⟩
  · have hle := d.length_endName_unset
    refine .inl ⟨d.earlier_endName_unset.trans hearlier, ?_⟩
    omega
  · exact .inr ⟨word, by rwa [d.earlier_endName_unset], hlength⟩

theorem Lags.of_add (hearlier : d.earlier = earlier) (hword : d.word.length < k) (hm : m.due = 0) :
    Lags earlier (k + 1) m (d.add (.singleton c)) := by
  refine .inl ⟨hearlier, ?_⟩
  simp only [Draft.add, String.length_append, String.length_singleton, hm]
  omega

theorem Lags.of_rename (hearlier : d.earlier = earlier) (hword : d.word.length + m.due < k)
    (name : String) : Lags earlier k m { d with name } :=
  .inl ⟨hearlier, hword⟩

theorem Lags.of_endWord (hearlier : d.earlier = earlier) (hword : d.word.length < k) :
    Lags earlier k m d.endWord :=
  .inr ⟨d.word, by simp [hearlier], hword⟩

theorem Lags.of_endBraced (hearlier : d.earlier = earlier) (hword : d.word.length < k)
    (hm : m.due = 0) : Lags earlier k m (d.endBraced Lookup.unset) := by
  refine .inl ⟨d.earlier_endBraced_unset.trans hearlier, ?_⟩
  rwa [d.length_endBraced_unset, hm]

/-- A character adds one to the word at most, and a reference that begins costs one more. -/
theorem Lags.step (h : Lags earlier k m d) (hc : m.endsName c = false) :
    Lags earlier (k + 1) (m.step Lookup.unset c d).1 (m.step Lookup.unset c d).2 := by
  rcases h with ⟨hearlier, hword⟩ | ⟨word, hword, hlength⟩
  -- The word is still begun: each kind of step keeps it behind, or ends it too short.
  · cases m <;> dsimp only [Mode.step] <;> repeat' split
    all_goals simp only [Mode.due] at hword
    all_goals
      with_reducible first
        | exact .of_add hearlier (by omega) (by simp only [Mode.due])
        | exact .of_rename hearlier (by simp only [Mode.due]; omega) _
        | exact .of_endWord hearlier (by omega)
        | exact .of_breakWord hearlier (by omega) rfl d.word_breakWord (by simp only [Mode.due])
        | exact .of_breakWord hearlier (by omega) d.earlier_endStatement d.word_endStatement
            (by simp only [Mode.due])
        | exact .of_endBraced hearlier (by omega) (by simp only [Mode.due])
        | simp_all [Mode.endsName]
  -- The word has ended, and the steps that follow add other words.
  · refine .inr ⟨word, hword.trans (Mode.grows_step _ c m d).earlier, ?_⟩
    omega

theorem Lags.turn (h : Lags earlier k m d) (c : Char) :
    Lags earlier (k + 1) (m.turn Lookup.unset c d).1 (m.turn Lookup.unset c d).2 := by
  unfold Mode.turn
  split
  · rename_i hc
    exact (h.endName hc).step (Mode.endsName_home c m)
  · rename_i hc
    exact h.step (by simpa using hc)

theorem Lags.feedChars (h : Lags earlier k m d) (cs : List Char) :
    ∃ m' e, (inMode m d).feedChars Lookup.unset cs = inMode m' e ∧
      Lags earlier (k + cs.length) m' e := by
  induction cs generalizing k m d with
  | nil => exact ⟨m, d, rfl, h⟩
  | cons c cs ih =>
    obtain ⟨m', e, hread, he⟩ := ih (h.turn c)
    refine ⟨m', e, ?_, ?_⟩
    · rw [feedChars_cons, feedChar_inMode, hread]
    · rwa [List.length_cons, Nat.add_comm cs.length, ← Nat.add_assoc]

/-- A mark is no part of the word. -/
theorem lags_step_mark {c : Char} (hc : c ∈ marks) (d : Draft) :
    Lags d.earlier (d.word.length + 1) (Mode.bare.step Lookup.unset c d).1
      (Mode.bare.step Lookup.unset c d).2 := by
  have hlt : d.word.length < d.word.length + 1 := Nat.lt_succ_self _
  simp only [marks, List.mem_cons, List.not_mem_nil, or_false] at hc
  rcases hc with rfl | rfl | rfl | rfl | rfl | rfl | rfl
  · exact .of_breakWord rfl hlt rfl d.word_breakWord rfl
  · exact .of_breakWord rfl hlt rfl d.word_breakWord rfl
  · exact .of_breakWord rfl hlt d.earlier_endStatement d.word_endStatement rfl
  · exact .of_breakWord rfl hlt d.earlier_endStatement d.word_endStatement rfl
  · exact .inl ⟨rfl, hlt⟩
  · exact .inl ⟨rfl, hlt⟩
  · exact .inl ⟨rfl, hlt⟩

/-- A dollar sign that begins a reference is no part of the word. -/
theorem lags_of_refers {last c : Char} (h : refers last c) (d : Draft) :
    ∃ m e, (unquoted last d).feedChar Lookup.unset c = inMode m e ∧
      Lags d.earlier ((spelled last d).word.length + 1) m e := by
  obtain ⟨rfl, hc⟩ : last = '$' ∧ (isNameChar c ∨ c = '\x7b') := by simpa [refers] using h
  have hlt : d.word.length + 1 < (spelled '$' d).word.length + 1 := by
    have hdollar : "$".length = 1 := rfl
    simp [spelled, Draft.add, hdollar]
  rw [unquoted, if_pos rfl, feedChar_inMode]
  refine ⟨_, _, rfl, ?_⟩
  rcases hc with hc | rfl
  · simp only [Mode.turn, Mode.endsName, Mode.step, hc]
    exact .inl ⟨rfl, hlt⟩
  · exact .inl ⟨rfl, hlt⟩

@[simp] theorem earlier_spelled (last : Char) (d : Draft) :
    (spelled last d).earlier = d.earlier := by
  unfold spelled
  split <;> rfl

@[simp] theorem earlier_spell (last c : Char) (d : Draft) :
    (spell last c d).earlier = d.earlier := by
  unfold spell
  split
  · exact earlier_spelled last d
  · exact earlier_spelled last d

theorem lags_feedChars_cons {l : Lexer} (h : l.feedChar Lookup.unset c = inMode m d)
    (hlags : Lags earlier (k + 1) m d) (cs : List Char) :
    ∃ m' e, l.feedChars Lookup.unset (c :: cs) = inMode m' e ∧
      Lags earlier (k + (c :: cs).length) m' e := by
  obtain ⟨m', e, hread, he⟩ := hlags.feedChars cs
  refine ⟨m', e, ?_, ?_⟩
  · rw [feedChars_cons, h, hread]
  · rwa [List.length_cons, Nat.add_comm cs.length, ← Nat.add_assoc]

/-- From the first character on that is not taken for itself, the word lags. -/
theorem lags_of_not_verbatim {last : Char} {cs : List Char}
    (h : ¬ ((∀ c ∈ cs, c ∉ marks) ∧ (last :: cs).IsChain (fun a c => refers a c = false)))
    (hname : d.name = "") :
    ∃ m e, (unquoted last d).feedChars Lookup.unset cs = inMode m e ∧
      Lags d.earlier ((spelled last d).word.length + cs.length) m e := by
  induction cs generalizing last d with
  | nil => exact absurd ⟨by simp, .singleton last⟩ h
  | cons c cs ih =>
    by_cases hrefers : refers last c = true
    · obtain ⟨m, e, hread, hlags⟩ := lags_of_refers hrefers d
      exact lags_feedChars_cons hread hlags cs
    rw [Bool.not_eq_true] at hrefers
    by_cases hc : c ∈ marks
    · have hlags := lags_step_mark hc (spelled last d)
      rw [earlier_spelled] at hlags
      exact lags_feedChars_cons (feedChar_unquoted _ hrefers d hname) hlags cs
    have hcs : ¬ ((∀ c ∈ cs, c ∉ marks) ∧
        (c :: cs).IsChain (fun a c => refers a c = false)) := by
      rintro ⟨hunmarked, hchain⟩
      refine h ⟨?_, List.isChain_cons_cons.mpr ⟨hrefers, hchain⟩⟩
      simpa [hc] using hunmarked
    obtain ⟨m, e, hread, hlags⟩ := ih hcs ((name_spell last c d).trans hname)
    refine ⟨m, e, ?_, ?_⟩
    · rw [feedChars_cons, feedChar_verbatim _ hc hrefers d hname, hread]
    · have hlength :
          (spelled c (spell last c d)).word.length = (spelled last d).word.length + 1 := by
        rw [spelled_spell]
        simp [Draft.add]
      rwa [earlier_spell, hlength, Nat.add_assoc, Nat.add_comm 1, ← List.length_cons] at hlags

/-- The length of the name that a definition begins with: all that comes before the first `=`. -/
def nameLength (word : String) : ℕ := (word.toList.takeWhile (· ≠ '=')).length

theorem nameLength_le (word : String) : nameLength word ≤ word.length := by
  rw [← String.length_toList]
  exact (List.takeWhile_sublist _).length_le

theorem nameLength_append_equals (word : String) : nameLength (word ++ "=") ≤ word.length := by
  have hequals : "=".toList = ['='] := rfl
  have hle := nameLength_le word
  unfold nameLength at hle ⊢
  rw [String.toList_append, hequals, List.takeWhile_append]
  split
  · simpa using String.length_toList.le
  · exact hle

theorem nameLength_append {word : String} (h : '=' ∈ word.toList) (more : String) :
    nameLength (word ++ more) = nameLength word := by
  unfold nameLength
  rw [String.toList_append, List.takeWhile_append, if_neg]
  intro hlength
  have hall := (List.takeWhile_prefix _).eq_of_length hlength
  rw [← hall] at h
  simpa using List.mem_takeWhile_imp h

/-- The word behind the words `earlier` begins with a name of less than `k` characters, whatever
it is going on with. -/
def Misnames (earlier : List String) (k : ℕ) (d : Draft) : Prop :=
  (d.earlier = earlier ∧ '=' ∈ d.word.toList ∧ nameLength d.word < k) ∨
    ∃ word, earlier ++ [word] <+: d.earlier ∧ nameLength word < k

theorem Misnames.grows (h : Misnames earlier k d) (hgrows : d.Grows e) : Misnames earlier k e := by
  rcases h with ⟨rfl, hequals, hname⟩ | ⟨word, hword, hname⟩
  · obtain ⟨more, new, h⟩ := hgrows
    have hsame : nameLength (d.word ++ more) < k := by rwa [nameLength_append hequals]
    rcases List.eq_nil_or_concat new with rfl | ⟨new, last, rfl⟩
    · obtain ⟨hearlier, hword⟩ := List.append_inj' h rfl
      rw [List.cons.injEq] at hword
      exact .inl ⟨hearlier, by simp [hword.1, hequals], by rwa [hword.1]⟩
    · have hsplit : e.earlier ++ [e.word] =
          (d.earlier ++ (d.word ++ more) :: new) ++ [last] := by
        simpa using h
      obtain ⟨hearlier, -⟩ := List.append_inj' hsplit rfl
      exact .inr ⟨d.word ++ more, by simp [hearlier], hsame⟩
  · exact .inr ⟨word, hword.trans hgrows.earlier, hname⟩

/-- An error has come about, or will as soon as the braces are closed around a name that holds an
`=`. -/
def Stuck (m : Mode) (d : Draft) : Prop :=
  (∃ x, .error x ∈ d.events) ∨
    ((m = .varBraced ∨ m = .varBracedInDouble) ∧ '=' ∈ d.name.toList)

theorem isValidName_of_equals {name : String} (h : '=' ∈ name.toList) :
    isValidName name = false := by
  have hchar : isNameChar '=' = false := by decide
  have hall : name.toList.all isNameChar = false := List.all_eq_false.mpr ⟨'=', h, by simp [hchar]⟩
  simp [isValidName, hall]

theorem Stuck.turn (h : Stuck m d) (vars : Lookup) (c : Char) :
    Stuck (m.turn vars c d).1 (m.turn vars c d).2 := by
  rcases h with ⟨x, hx⟩ | ⟨hm, hname⟩
  · exact .inl ⟨x, (m.turn_queues vars c d).events.subset hx⟩
  · have hvalid := isValidName_of_equals hname
    by_cases hc : c = '\x7d'
    · refine .inl ⟨.expansion d.name .badSubstitution, ?_⟩
      rcases hm with rfl | rfl <;>
        simp [Mode.turn, Mode.endsName, Mode.step, hc, Draft.endBraced, hvalid, Draft.queue]
    · refine .inr ⟨?_, ?_⟩ <;> rcases hm with rfl | rfl <;>
        simp [Mode.turn, Mode.endsName, Mode.step, hc, hname]

theorem Misnames.of_add (hearlier : d.earlier = earlier) (hword : d.word.length < k) :
    Misnames earlier k (d.add "=") := by
  have hequals : "=".toList = ['='] := rfl
  have hname : nameLength (d.word ++ "=") < k := (nameLength_append_equals d.word).trans_lt hword
  exact .inl ⟨hearlier, by simp [Draft.add, hequals], hname⟩

/-- The `=` behind a text that lags ends too short a name, unless it becomes part of a name in
braces. -/
theorem Lags.equals (h : Lags earlier k m d) :
    Stuck (m.turn Lookup.unset '=' d).1 (m.turn Lookup.unset '=' d).2 ∨
      Misnames earlier k (m.turn Lookup.unset '=' d).2 := by
  have hequals : isNameChar '=' = false := by decide
  rcases h with ⟨hearlier, hword⟩ | ⟨word, hword, hlength⟩
  · have hend := d.length_endName_unset
    cases m with
    | varBraced | varBracedInDouble =>
      exact .inl (.inr (by simp [Mode.turn, Mode.endsName, Mode.step]))
    | varStart | varName | varStartInDouble | varNameInDouble =>
      simp only [Mode.due] at hword
      refine .inr ?_
      simp only [Mode.turn, Mode.endsName, Mode.home, Mode.step, hequals]
      exact .of_add (d.earlier_endName_unset.trans hearlier) (by omega)
    | _ => exact .inr (.of_add hearlier hword)
  · have hbegins := hword.trans (m.grows_turn Lookup.unset '=' d).earlier
    exact .inr (.inr ⟨word, hbegins, (nameLength_le word).trans_lt hlength⟩)

/-- A text that does not stand for itself is not the name that is read before the `=` behind it,
when no variable is set. -/
theorem misnames_of_not_verbatim {text : String} (h : ¬ Verbatim text) (hname : d.name = "")
    (hword : d.word = "") :
    ∃ m e, (inMode .bare d).feedChars Lookup.unset (text ++ "=").toList = inMode m e ∧
      (Stuck m e ∨ Misnames d.earlier text.length e) := by
  have hchain : ¬ ((∀ c ∈ text.toList, c ∉ marks) ∧
      (' ' :: text.toList).IsChain (fun a c => refers a c = false)) := by
    rintro ⟨hunmarked, hchain⟩
    exact h ⟨hunmarked, hchain.tail⟩
  obtain ⟨m, e, hread, hlags⟩ := lags_of_not_verbatim hchain hname
  have hlength : (spelled ' ' d).word.length + text.toList.length = text.length := by
    simp [spelled, hword, String.length_toList]
  rw [hlength] at hlags
  refine ⟨_, _, ?_, hlags.equals⟩
  calc (inMode .bare d).feedChars Lookup.unset (text ++ "=").toList
      = (unquoted ' ' d).feedChars Lookup.unset (text.toList ++ ['=']) := by
        rw [String.toList_append]
        rfl
    _ = (inMode m e).feedChar Lookup.unset '=' := by
        rw [feedChars_append, hread, feedChars_cons, feedChars_nil]
    _ = inMode _ _ := feedChar_inMode Lookup.unset '=' m e

/-- What is begun goes on or ends, what is queued stays, and where an error is due it comes. -/
theorem feedChars_grows (vars : Lookup) (cs : List Char) (m : Mode) (d : Draft) :
    ∃ m' e, (inMode m d).feedChars vars cs = inMode m' e ∧ d.Grows e ∧ d.events <:+ e.events ∧
      (Stuck m d → Stuck m' e) := by
  induction cs generalizing m d with
  | nil => exact ⟨m, d, rfl, .refl d, List.suffix_rfl, id⟩
  | cons c cs ih =>
    obtain ⟨m', e, hread, hgrows, hevents, hstuck⟩ := ih (m.turn vars c d).1 (m.turn vars c d).2
    refine ⟨m', e, ?_, (m.grows_turn vars c d).trans hgrows,
      (m.turn_queues vars c d).events.trans hevents, fun h => hstuck (h.turn vars c)⟩
    rw [feedChars_cons, feedChar_inMode, hread]

end

theorem inMode_injective {m m' : Mode} {d d' : Draft} (h : inMode m d = inMode m' d') :
    m = m' ∧ d = d' :=
  ⟨congrArg Lexer.mode h, congrArg Lexer.draft h⟩

/-- A lexer with nothing begun and no errors. -/
structure Yields (m : Mode) (d : Draft) (statements : List (List String)) : Prop where
  mode : m = .bare
  word : d.word = ""
  words : d.words = []
  events : d.events.reverse = statements.map .statement

theorem eq_map_of_statements {events : List Event} {statements : List (List String)}
    (h : Lexer.statements events = .ok statements) : events = statements.map .statement := by
  induction events generalizing statements with
  | nil =>
    cases h
    rfl
  | cons event events ih =>
    cases event with
    | error x => cases h
    | statement words =>
      rw [Lexer.statements] at h
      cases hrest : Lexer.statements events with
      | error x =>
        rw [hrest] at h
        cases h
      | ok rest =>
        rw [hrest] at h
        cases h
        rw [ih hrest, List.map_cons]

theorem yields_of_isComplete {m : Mode} {d : Draft} (h : (inMode m d).isComplete)
    {statements : List (List String)}
    (hevents : Lexer.statements d.events.reverse = .ok statements) :
    Yields m d statements := by
  simp only [isComplete, inMode, Cursor.isHome, Bool.and_eq_true, String.isEmpty_iff,
    List.isEmpty_iff] at h
  obtain ⟨⟨hmode, hword⟩, hwords⟩ := h
  exact ⟨of_decide_eq_true hmode, hword, hwords, eq_map_of_statements hevents⟩

section
variable {m : Mode} {d : Draft} {statements : List (List String)}

theorem earlier_of_events (h : d.events.reverse = statements.map .statement) :
    d.earlier = statements.flatten ++ d.words.reverse := by
  rw [Draft.earlier, h, List.flatMap_map, List.flatMap_id']

theorem Yields.not_stuck (h : Yields m d statements) : ¬ Stuck m d := by
  rintro (⟨x, hx⟩ | ⟨hm, -⟩)
  · rw [← List.mem_reverse, h.events] at hx
    simp at hx
  · rw [h.mode] at hm
    simp at hm

/-- Where nothing is begun, the word with too short a name is there. -/
theorem Yields.exists_of_misnames (h : Yields m d statements) {earlier : List String} {k : ℕ}
    (hname : Misnames earlier k d) :
    ∃ word, earlier ++ [word] <+: statements.flatten ∧ nameLength word < k := by
  rcases hname with ⟨-, hequals, -⟩ | ⟨word, hword, hlength⟩
  · rw [h.word] at hequals
    cases hequals
  · rw [earlier_of_events h.events, h.words, List.reverse_nil, List.append_nil] at hword
    exact ⟨word, hword, hlength⟩

/-- A statement that has been queued is still there in its place. -/
theorem Yields.head (h : Yields m d statements) {words : List String}
    {before after : List (List String)} (hsplit : statements = before ++ after)
    (hevents : .statement words :: (before.map .statement).reverse <:+ d.events) :
    ∃ rest, after = words :: rest := by
  rw [← List.reverse_prefix, h.events, hsplit, List.reverse_cons, List.reverse_reverse,
    List.map_append, List.prefix_append_right_inj] at hevents
  cases after with
  | nil => simp at hevents
  | cons first rest =>
    obtain ⟨hwords, -⟩ := List.cons_prefix_cons.mp hevents
    exact ⟨rest, by rw [Event.statement.inj hwords]⟩

end

end Lexer

end NestedShell

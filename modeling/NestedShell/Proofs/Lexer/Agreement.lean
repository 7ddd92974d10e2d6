import NestedShell.Proofs.Lexer.Descent

/-! The table-driven lexer queues what the reading by descent says, construct by construct. -/
namespace NestedShell.Lexer
open Descent

/-- What a lexer has queued at the end of a text. -/
def queued (vars : Lookup) (m : Mode) (d : Draft) (cs : List Char) : List Event :=
  ((inMode m d).feedChars vars cs).draft.events

@[simp] theorem queued_nil (vars : Lookup) (m : Mode) (d : Draft) :
    queued vars m d [] = d.events := rfl

theorem queued_cons (vars : Lookup) (m : Mode) (d : Draft) (c : Char) (cs : List Char) :
    queued vars m d (c :: cs) = queued vars (m.turn vars c d).1 (m.turn vars c d).2 cs := by
  rw [queued, feedChars_cons, feedChar_inMode, queued]

/-- A source that answers every question. -/
def answering (value : String → Option String) : Lookup := fun name => .ok (value name)

/-- The draft after a part has been read. -/
def Draft.gain (p : Part) (d : Draft) : Draft :=
  { d with word := d.word ++ p.text, events := p.errors.reverse ++ d.events }

@[simp] theorem Draft.events_gain (p : Part) (d : Draft) :
    (d.gain p).events = p.errors.reverse ++ d.events := rfl

@[simp] theorem Draft.events_endWord (d : Draft) : d.endWord.events = d.events := rfl

/-- What is queued at the end when `d` is the draft behind the part. -/
def Descent.Part.queued (p : Part) (vars : Lookup) (m : Mode) (d : Draft) : List Event :=
  match p.rest with
  | none => d.events
  | some rest => Lexer.queued vars m d rest

/-- The two kinds of text that references and escapes stand in. -/
inductive Surroundings where
  | bare
  | doubleQuoted

namespace Surroundings

def home : Surroundings → Mode
  | bare => .bare
  | doubleQuoted => .doubleQuote

def start : Surroundings → Mode
  | bare => .varStart
  | doubleQuoted => .varStartInDouble

def name : Surroundings → Mode
  | bare => .varName
  | doubleQuoted => .varNameInDouble

def braced : Surroundings → Mode
  | bare => .varBraced
  | doubleQuoted => .varBracedInDouble

def escape : Surroundings → Mode
  | bare => .escape
  | doubleQuoted => .escapeInDouble

variable (k : Surroundings) (vars : Lookup) (d : Draft)

theorem turn_backslash : k.home.turn vars '\\' d = (k.escape, d) := by cases k <;> rfl

theorem turn_escape (c : Char) :
    k.escape.turn vars c d = (k.home, d.add (.singleton (unescape c))) := by cases k <;> rfl

theorem turn_dollar : k.home.turn vars '$' d = (k.start, { d with name := "" }) := by
  cases k <;> rfl

theorem turn_brace : k.start.turn vars '\x7b' d = (k.braced, d) := by cases k <;> rfl

theorem turn_closingBrace : k.braced.turn vars '\x7d' d = (k.home, d.endBraced vars) := by
  cases k <;> rfl

variable {c : Char}

theorem turn_braced (hc : c ≠ '\x7d') :
    k.braced.turn vars c d = (k.braced, { d with name := d.name.push c }) := by
  cases k <;> simp [braced, Mode.turn, Mode.endsName, Mode.step, hc]

theorem turn_start (hc : isNameChar c) :
    k.start.turn vars c d = (k.name, { d with name := d.name.push c }) := by
  cases k <;> simp [start, name, Mode.turn, Mode.endsName, Mode.step, hc]

theorem turn_name (hc : isNameChar c) :
    k.name.turn vars c d = (k.name, { d with name := d.name.push c }) := by
  cases k <;> simp [name, Mode.turn, Mode.endsName, Mode.step, hc]

theorem turn_start_of_end (hc : ¬isNameChar c) (hb : c ≠ '\x7b') :
    k.start.turn vars c d = k.home.turn vars c (d.endName vars) := by
  cases k <;> simp [start, home, Mode.turn, Mode.endsName, Mode.home, hc, hb]

theorem turn_name_of_end (hc : ¬isNameChar c) :
    k.name.turn vars c d = k.home.turn vars c (d.endName vars) := by
  cases k <;> simp [name, home, Mode.turn, Mode.endsName, Mode.home, hc]

end Surroundings

/-- In a mode that only one character leaves, everything up to it is gathered. -/
theorem queued_upTo (vars : Lookup) (q : Char) (m : Mode) (gather : String → Draft → Draft)
    (hturn : ∀ c d, c ≠ q → m.turn vars c d = (m, gather (.singleton c) d))
    (hempty : ∀ d, gather "" d = d)
    (happend : ∀ s t d, gather t (gather s d) = gather (s ++ t) d)
    (hevents : ∀ s d, (gather s d).events = d.events) (cs : List Char) (d : Draft) :
    queued vars m d cs = match upTo q cs with
      | none => d.events
      | some (body, rest) => queued vars m (gather (.ofList body) d) (q :: rest) := by
  induction cs generalizing d with
  | nil => rfl
  | cons c cs ih =>
    by_cases hc : c = q
    · simp [upTo, hc, hempty]
    · rw [queued_cons, hturn c d hc, ih]
      simp only [upTo, if_neg hc]
      cases upTo q cs with
      | none => simp [hevents]
      | some cut => simp [happend, String.ofList_cons]

/-- In a mode that only a single quote leaves, the literal text up to it is gathered. -/
theorem queued_literal (vars : Lookup) (m : Mode)
    (hturn : ∀ c d, c ≠ '\'' → m.turn vars c d = (m, d.add (.singleton c))) (cs : List Char)
    (d : Draft) :
    queued vars m d cs = match (literal cs).rest with
      | none => d.events
      | some rest => queued vars m (d.gain (literal cs)) ('\'' :: rest) := by
  rw [queued_upTo vars '\'' m Draft.add hturn Draft.add_empty Draft.add_add (fun _ _ => rfl)]
  unfold literal
  cases upTo '\'' cs <;> rfl

theorem queued_singleQuote (vars : Lookup) (d : Draft) (cs : List Char) :
    queued vars .singleQuote d cs =
      (literal cs).queued vars .bare (d.gain (literal cs)).endWord := by
  have hturn : ∀ c d, c ≠ '\'' →
      Mode.singleQuote.turn vars c d = (.singleQuote, d.add (.singleton c)) := by
    intro c d hc
    simp [Mode.turn, Mode.endsName, Mode.step, hc]
  rw [queued_literal vars .singleQuote hturn, Part.queued]
  cases (literal cs).rest with
  | none => simp
  | some rest => exact queued_cons vars .singleQuote _ '\'' rest

theorem queued_quoteInDouble (vars : Lookup) (value : String → Option String) (d : Draft)
    (cs : List Char) :
    queued vars .doubleQuote d ('\'' :: cs) =
      (quotedItem value '\'' cs).queued vars .doubleQuote (d.gain (quotedItem value '\'' cs)) := by
  have hturn : ∀ c d, c ≠ '\'' →
      Mode.quoteInDouble.turn vars c d = (.quoteInDouble, d.add (.singleton c)) := by
    intro c d hc
    simp [Mode.turn, Mode.endsName, Mode.step, hc]
  have hopen : queued vars .doubleQuote d ('\'' :: cs) =
      queued vars .quoteInDouble (d.add "'") cs := by
    rw [queued_cons]
    rfl
  rw [hopen, queued_literal vars .quoteInDouble hturn, quotedItem, if_pos rfl, Part.queued]
  cases (literal cs).rest with
  | none => simp [Draft.add]
  | some rest =>
    simp [queued_cons, Mode.turn, Mode.endsName, Mode.step, Draft.gain, Draft.add,
      String.append_assoc]

/-- All name characters that follow belong to the name. -/
theorem queued_name (k : Surroundings) (vars : Lookup) (d : Draft) (cs : List Char) :
    queued vars k.name d cs =
      queued vars k.name { d with name := d.name ++ .ofList (cs.takeWhile isNameChar) }
        (cs.dropWhile isNameChar) := by
  induction cs generalizing d with
  | nil => simp
  | cons c cs ih =>
    by_cases hc : isNameChar c
    · rw [queued_cons, k.turn_name vars d hc, ih]
      simp [hc, String.ofList_cons, String.append_assoc, ← String.append_singleton]
    · simp [hc]

variable (value : String → Option String)

theorem substitute_answering (name : String) (d : Draft) :
    d.substitute (answering value) name = d.add ((value name).getD "") := rfl

/-- At the end of the text the name is not looked up, which makes no difference to the events. -/
theorem queued_endName (k : Surroundings) (d : Draft) (cs : List Char)
    (hcs : ∀ c, cs.head? = some c → ¬isNameChar c) :
    queued (answering value) k.name d cs =
      queued (answering value) k.home (d.endName (answering value)) cs := by
  cases cs with
  | nil =>
    simp only [queued_nil, Draft.endName, substitute_answering]
    split <;> rfl
  | cons c cs =>
    rw [queued_cons, queued_cons, k.turn_name_of_end _ d (hcs c rfl)]

theorem queued_braced (k : Surroundings) {d : Draft} (hd : d.name = "") (cs : List Char) :
    queued (answering value) k.braced d cs =
      (reference value ('\x7b' :: cs)).queued (answering value) k.home
        (d.gain (reference value ('\x7b' :: cs))) := by
  have hturn : ∀ c d, c ≠ '\x7d' → k.braced.turn (answering value) c d =
      (k.braced, { d with name := d.name ++ .singleton c }) := by
    intro c d hc
    rw [k.turn_braced _ d hc, ← String.append_singleton]
  rw [queued_upTo (answering value) '\x7d' k.braced
    (fun text d => { d with name := d.name ++ text }) hturn (by simp)
    (by simp [String.append_assoc]) (fun _ _ => rfl), reference]
  cases upTo '\x7d' cs with
  | none => rfl
  | some cut =>
    obtain ⟨body, rest⟩ := cut
    simp only [queued_cons, k.turn_closingBrace, Draft.endBraced, hd, String.empty_append,
      substitute_answering]
    split <;> simp [Part.queued, Draft.gain, Draft.add, Draft.queue, hd]

theorem queued_reference (k : Surroundings) {d : Draft} (hd : d.name = "") (cs : List Char) :
    queued (answering value) k.start d cs =
      (reference value cs).queued (answering value) k.home (d.gain (reference value cs)) := by
  match cs with
  | [] => rfl
  | c :: cs =>
    by_cases hb : c = '\x7b'
    · subst hb
      rw [queued_cons, k.turn_brace, queued_braced value k hd]
    rw [reference_of_ne_brace value hb]
    by_cases hc : isNameChar c
    · have hend : ∀ e, (cs.dropWhile isNameChar).head? = some e → ¬isNameChar e := by
        intro e he
        have hnot := List.head?_dropWhile_not isNameChar cs
        rw [he] at hnot
        simpa using hnot
      rw [queued_cons, k.turn_start _ d hc, queued_name, queued_endName value k _ _ hend, if_pos hc]
      simp [Part.queued, Draft.gain, Draft.endName, substitute_answering, Draft.add, hd,
        String.ofList_cons, ← String.append_singleton]
    · rw [queued_cons, k.turn_start_of_end _ d hc hb, ← queued_cons, if_neg hc]
      simp [Part.queued, Draft.gain, Draft.endName, Draft.add, hd]

theorem unescape_eq_lookup (e : Char) : unescape e = (escapes.lookup e).getD e := by
  unfold unescape escapes
  split
  case h_5 hr hn ht hb =>
    simp only [List.lookup_cons, beq_false_of_ne hr, beq_false_of_ne hn, beq_false_of_ne ht,
      beq_false_of_ne hb, List.lookup_nil, Option.getD_none]
  all_goals rfl

/-- Outside the characters that `k` itself gives a meaning, both kinds of text agree. -/
theorem queued_item (k : Surroundings) {c : Char} {d : Draft} (hd : d.name = "")
    (hplain : c ≠ '\\' → c ≠ '$' →
      k.home.turn (answering value) c d = (k.home, d.add (.singleton c))) (cs : List Char) :
    queued (answering value) k.home d (c :: cs) =
      (item value c cs).queued (answering value) k.home (d.gain (item value c cs)) := by
  unfold item
  by_cases hescape : c = '\\'
  · subst hescape
    rw [queued_cons, k.turn_backslash, if_pos rfl]
    cases cs with
    | nil => rfl
    | cons e rest =>
      rw [queued_cons, k.turn_escape, unescape_eq_lookup]
      rfl
  · rw [if_neg hescape, queued_cons]
    by_cases hdollar : c = '$'
    · subst hdollar
      rw [k.turn_dollar, if_pos rfl, ← hd]
      exact queued_reference value k hd cs
    · rw [hplain hescape hdollar, if_neg hdollar]
      rfl

theorem queued_quotedItem {c : Char} {d : Draft} (hc : c ≠ '"') (hd : d.name = "")
    (cs : List Char) :
    queued (answering value) .doubleQuote d (c :: cs) =
      (quotedItem value c cs).queued (answering value) .doubleQuote
        (d.gain (quotedItem value c cs)) := by
  by_cases hquote : c = '\''
  · subst hquote
    exact queued_quoteInDouble (answering value) value d cs
  · rw [quotedItem, if_neg hquote]
    refine queued_item value .doubleQuoted hd (fun hescape hdollar => ?_) cs
    simp [Surroundings.home, Mode.turn, Mode.endsName, Mode.step, hc, hquote, hescape, hdollar]

theorem gain_before (p q : Part) (d : Draft) : d.gain (p.before q) = (d.gain p).gain q := by
  simp [Draft.gain, Part.before, String.append_assoc]

theorem queued_doubleQuoted {d : Draft} (hd : d.name = "") (cs : List Char) :
    queued (answering value) .doubleQuote d cs =
      (doubleQuoted value cs).queued (answering value) .bare
        (d.gain (doubleQuoted value cs)).endWord := by
  induction cs using doubleQuoted.induct value generalizing d with
  | case1 => simp [doubleQuoted, Part.queued, Draft.gain, Draft.endWord]
  | case2 cs =>
    rw [queued_cons, doubleQuoted, if_pos rfl]
    simp [Mode.turn, Mode.endsName, Mode.step, Part.queued, Draft.gain]
  | case3 c cs hc hrest =>
    rw [queued_quotedItem value hc hd, doubleQuoted_of_none value hc hrest, Part.queued,
      Part.queued, hrest]
    rfl
  | case4 c cs hc rest hrest ih =>
    rw [queued_quotedItem value hc hd, doubleQuoted_of_some value hc hrest, gain_before,
      Part.queued, hrest]
    exact ih (d := d.gain (quotedItem value c cs)) hd

/-- A part in single or double quotes ends the word, any other part goes on with it. -/
theorem queued_part {c : Char} {d : Draft} (hd : d.name = "") (hblank : ¬(c = ' ' ∨ c = '\t'))
    (hend : ¬(c = ';' ∨ c = '\n')) (cs : List Char) :
    queued (answering value) .bare d (c :: cs) =
      (part value c cs).queued (answering value) .bare
        (if c = '\'' ∨ c = '"' then (d.gain (part value c cs)).endWord
          else d.gain (part value c cs)) := by
  unfold part
  by_cases hsingle : c = '\''
  · subst hsingle
    exact queued_singleQuote (answering value) d cs
  by_cases hdouble : c = '"'
  · subst hdouble
    exact queued_doubleQuoted value hd cs
  rw [if_neg hsingle, if_neg hdouble, if_neg (by simp [hsingle, hdouble])]
  refine queued_item value .bare hd (fun hescape hdollar => ?_) cs
  simp [Surroundings.home, Mode.turn, Mode.endsName, Mode.step, *]

section
variable (d : Draft)

theorem breakWord_eq : d.breakWord =
    { d with word := "", words := (broken d.word).reverse ++ d.words } := by
  obtain ⟨word, name, words, events⟩ := d
  by_cases h : word = "" <;> simp [Draft.breakWord, Draft.endWord, broken, h]

theorem endStatement_eq : d.endStatement =
    { name := d.name
      events := (statement (d.words.reverse ++ broken d.word)).reverse ++ d.events } := by
  simp only [Draft.endStatement, breakWord_eq, statement]
  by_cases h : d.words = [] ∧ broken d.word = []
  · simp [h]
  · have hwords : ¬(broken d.word = [] ∧ d.words = []) := fun hw => h hw.symm
    simp [h, hwords, Draft.queue]

end

theorem queued_bare {d : Draft} (hd : d.name = "") (cs : List Char) :
    queued (answering value) .bare d cs =
      (events value d.word d.words.reverse cs).reverse ++ d.events := by
  obtain ⟨word, hword⟩ : ∃ word, d.word = word := ⟨_, rfl⟩
  obtain ⟨words, hwords⟩ : ∃ words, d.words.reverse = words := ⟨_, rfl⟩
  rw [hword, hwords]
  induction word, words, cs using events.induct value generalizing d with
  | case1 => simp [events]
  | case2 word words c cs hblank ih =>
    rw [queued_cons, Mode.turn_blank hblank, events, if_pos hblank, breakWord_eq, hword]
    exact ih (d := { d with word := "", words := (broken word).reverse ++ d.words }) hd rfl
      (by simp [hwords])
  | case3 word words c cs hblank hend ih =>
    rw [queued_cons, Mode.turn_terminator hend, events, if_neg hblank, if_pos hend,
      endStatement_eq, hword, hwords, List.reverse_append, List.append_assoc]
    exact ih (d := { name := d.name
                     events := (statement (words ++ broken word)).reverse ++ d.events }) hd rfl rfl
  | case4 word words c cs hblank hend ihword ihpart =>
    rw [queued_part value hd hblank hend, events_of_part value hblank hend, Part.queued]
    by_cases hquote : c = '\'' ∨ c = '"'
    · simp only [if_pos hquote]
      cases hrest : (part value c cs).rest with
      | none => simp
      | some rest =>
        have hnext := ihword rest hrest (d := (d.gain (part value c cs)).endWord) hd rfl
          (by simp [Draft.gain, Draft.endWord, hword, hwords])
        simp only [hnext, Draft.events_endWord, Draft.events_gain, List.reverse_append,
          List.append_assoc]
    · simp only [if_neg hquote]
      cases hrest : (part value c cs).rest with
      | none => simp
      | some rest =>
        have hnext := ihpart rest hrest (d := d.gain (part value c cs)) hd
          (by simp [Draft.gain, hword]) hwords
        simp only [hnext, Draft.events_gain, List.reverse_append, List.append_assoc]

/-- A new lexer over a source that always answers queues what the reading by descent says. -/
theorem feed_eq_events (text : String) :
    (({} : Lexer).feed (answering value) text).1 = events value "" [] text.toList := by
  have hqueued := queued_bare value (d := {}) rfl text.toList
  calc (({} : Lexer).feed (answering value) text).1
      = (queued (answering value) .bare {} text.toList).reverse := rfl
    _ = events value "" [] text.toList := by rw [hqueued]; simp

end NestedShell.Lexer

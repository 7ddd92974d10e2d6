import Mathlib.Data.List.Forall2
import NestedShell.Proofs.Lexer.Turn

/-! The values of variables are opaque to a lexer: of a value it only matters whether there is any
text in it, since a word without text is not a word unless it is quoted. -/
namespace NestedShell

/-- Two sources that refuse the same names, for the same reasons, and have text for the same
names. -/
structure Lookup.SameShape (v w : Lookup) : Prop where
  error : ∀ name e, v name = .error e ↔ w name = .error e
  text : ∀ name, (∃ s, v name = .ok (some s) ∧ s ≠ "") ↔ ∃ s, w name = .ok (some s) ∧ s ≠ ""

/-- What the sources add to a word is empty for both or for neither. -/
theorem Lookup.SameShape.value_eq_empty_iff {v w : Lookup} (h : v.SameShape w) {name : String}
    {x y : Option String} (hv : v name = .ok x) (hw : w name = .ok y) :
    x.getD "" = "" ↔ y.getD "" = "" := by
  have htext := h.text name
  simp only [hv, hw, Except.ok.injEq] at htext
  have hiff : ∀ z : Option String, (∃ s, z = some s ∧ s ≠ "") ↔ z.getD "" ≠ "" := by
    intro z
    cases z <;> simp
  rw [hiff, hiff] at htext
  exact not_iff_not.mp htext

namespace Lexer

/-- The same error, or statements of the same number of words. -/
inductive Event.Alike : Event → Event → Prop
  | statement {words others : List String} (length : words.length = others.length) :
      Alike (.statement words) (.statement others)
  | error (e : LexError) : Alike (.error e) (.error e)

/-- Drafts that differ in what the words hold, but not in where words begin and end. -/
structure Draft.Alike (d e : Draft) : Prop where
  word : d.word = "" ↔ e.word = ""
  name : d.name = e.name
  words : d.words.length = e.words.length
  events : List.Forall₂ Event.Alike d.events e.events

namespace Draft.Alike
variable {d e : Draft}

theorem add {s t : String} (h : d.Alike e) (hst : s = "" ↔ t = "") : (d.add s).Alike (e.add t) :=
  { h with word := by simp [Draft.add, String.append_eq_empty_iff, h.word, hst] }

theorem queue {x y : Event} (h : d.Alike e) (hxy : x.Alike y) : (d.queue x).Alike (e.queue y) :=
  { h with events := .cons hxy h.events }

theorem rename (h : d.Alike e) (name : String) :
    Draft.Alike { d with name } { e with name } :=
  { h with name := rfl }

theorem endWord (h : d.Alike e) : d.endWord.Alike e.endWord :=
  { h with word := Iff.rfl, words := by simp [Draft.endWord, h.words] }

theorem breakWord (h : d.Alike e) : d.breakWord.Alike e.breakWord := by
  by_cases hd : d.word = ""
  · have he := h.word.mp hd
    simpa [Draft.breakWord, hd, he] using h
  · have he : e.word ≠ "" := fun hw => hd (h.word.mpr hw)
    simpa [Draft.breakWord, hd, he] using h.endWord

theorem endStatement (h : d.Alike e) : d.endStatement.Alike e.endStatement := by
  have hb := h.breakWord
  have hnil : d.breakWord.words = [] ↔ e.breakWord.words = [] := by
    rw [← List.length_eq_zero_iff, ← List.length_eq_zero_iff, hb.words]
  by_cases hd : d.breakWord.words = []
  · simpa [Draft.endStatement, hd, hnil.mp hd] using hb
  · have he : e.breakWord.words ≠ [] := fun hw => hd (hnil.mpr hw)
    have hx : Event.Alike (.statement d.breakWord.words.reverse)
        (.statement e.breakWord.words.reverse) := .statement (by simp [hb.words])
    have hq := hb.queue hx
    simp only [Draft.endStatement, List.isEmpty_iff, hd, he, if_false]
    exact { hq with words := rfl }

theorem substitute {v w : Lookup} (hvw : v.SameShape w) (h : d.Alike e) (name : String) :
    (d.substitute v name).Alike (e.substitute w name) := by
  cases hv : v name with
  | error x =>
    have hw := (hvw.error name x).mp hv
    simpa [Draft.substitute, hv, hw] using h.queue (.error _)
  | ok x =>
    cases hw : w name with
    | error y => exact absurd (hv.symm.trans ((hvw.error name y).mpr hw)) (by simp)
    | ok y =>
      simpa [Draft.substitute, hv, hw] using h.add (hvw.value_eq_empty_iff hv hw)

theorem endName {v w : Lookup} (hvw : v.SameShape w) (h : d.Alike e) :
    (d.endName v).Alike (e.endName w) := by
  have hr := h.rename ""
  simp only [Draft.endName, ← h.name]
  split
  · exact hr.add Iff.rfl
  · exact hr.substitute hvw d.name

theorem endBraced {v w : Lookup} (hvw : v.SameShape w) (h : d.Alike e) :
    (d.endBraced v).Alike (e.endBraced w) := by
  have hr := h.rename ""
  simp only [Draft.endBraced, ← h.name]
  split
  · exact hr.substitute hvw d.name
  · exact hr.queue (.error _)

end Draft.Alike

/-- One character leads to the same mode over either source, and keeps the drafts alike. -/
theorem Mode.step_alike {v w : Lookup} (hvw : v.SameShape w) (c : Char) (m : Mode) {d e : Draft}
    (h : d.Alike e) :
    (m.step v c d).1 = (m.step w c e).1 ∧ (m.step v c d).2.Alike (m.step w c e).2 := by
  have hadd : ∀ s, (d.add s).Alike (e.add s) := fun s => h.add Iff.rfl
  have hpush : Draft.Alike { d with name := d.name.push c } { e with name := e.name.push c } := by
    rw [h.name]
    exact h.rename _
  cases m <;> dsimp only [Mode.step] <;> repeat' split
  all_goals
    first
      | exact ⟨rfl, h⟩
      | exact ⟨rfl, hadd _⟩
      | exact ⟨rfl, hpush⟩
      | exact ⟨rfl, h.rename ""⟩
      | exact ⟨rfl, h.endWord⟩
      | exact ⟨rfl, h.breakWord⟩
      | exact ⟨rfl, h.endStatement⟩
      | exact ⟨rfl, h.endName hvw⟩
      | exact ⟨rfl, h.endBraced hvw⟩

theorem Mode.turn_alike {v w : Lookup} (hvw : v.SameShape w) (c : Char) (m : Mode) {d e : Draft}
    (h : d.Alike e) :
    (m.turn v c d).1 = (m.turn w c e).1 ∧ (m.turn v c d).2.Alike (m.turn w c e).2 := by
  unfold Mode.turn
  split
  · exact m.home.step_alike hvw c (h.endName hvw)
  · exact m.step_alike hvw c h

/-- Two lexers in the same mode with alike drafts stay so over any text. -/
theorem feedChars_alike {v w : Lookup} (hvw : v.SameShape w) (cs : List Char) (m : Mode)
    {d e : Draft} (h : d.Alike e) :
    ∃ (m' : Mode) (d' e' : Draft), (inMode m d).feedChars v cs = inMode m' d' ∧
      (inMode m e).feedChars w cs = inMode m' e' ∧ d'.Alike e' := by
  induction cs generalizing m d e with
  | nil => exact ⟨m, d, e, rfl, rfl, h⟩
  | cons c cs ih =>
    obtain ⟨hm, hd⟩ := m.turn_alike hvw c h
    obtain ⟨m', d', e', hv, hw, h'⟩ := ih (m.turn v c d).1 hd
    refine ⟨m', d', e', ?_, ?_, h'⟩
    · rw [feedChars_cons, feedChar_inMode, hv]
    · rw [feedChars_cons, feedChar_inMode, ← hm, hw]

/-- Values cannot change how a text is read. Over two sources of the same shape, after each
character of it, the lexers stand in the same mode, with the same name begun and nothing pushed
back, both or neither of them wait for more, and their queues hold the same errors and statements
of as many words in the same places. -/
theorem feedChars_of_sameShape {v w : Lookup} (hvw : v.SameShape w) (text : String) (n : ℕ) :
    let l := ({} : Lexer).feedChars v (text.toList.take n)
    let k := ({} : Lexer).feedChars w (text.toList.take n)
    l.mode = k.mode ∧ l.cursor.stack = [] ∧ k.cursor.stack = [] ∧ l.draft.name = k.draft.name ∧
      l.isComplete = k.isComplete ∧ List.Forall₂ Event.Alike l.takeEvents.1 k.takeEvents.1 := by
  have hstart : Draft.Alike {} {} := ⟨Iff.rfl, rfl, rfl, .nil⟩
  obtain ⟨m, d, e, hv, hw, h⟩ := feedChars_alike hvw (text.toList.take n) .bare hstart
  have hword : d.word.isEmpty = e.word.isEmpty :=
    Bool.eq_iff_iff.mpr (by rw [String.isEmpty_iff, String.isEmpty_iff, h.word])
  have hwords : d.words.isEmpty = e.words.isEmpty := Bool.eq_iff_iff.mpr (by
    rw [List.isEmpty_iff_length_eq_zero, List.isEmpty_iff_length_eq_zero, h.words])
  change (({} : Lexer).feedChars v (text.toList.take n)) = _ at hv
  change (({} : Lexer).feedChars w (text.toList.take n)) = _ at hw
  simp only [hv, hw]
  refine ⟨rfl, rfl, rfl, h.name, ?_, ?_⟩
  · simp [isComplete, inMode, hword, hwords]
  · exact List.forall₂_reverse_iff.mpr h.events

/-- A value that looks like a command line is read as a plain one would be, beside a variable that
is refused and one that has no text. -/
theorem feedChars_of_sameShape_quotes :
    let v : Lookup := fun name =>
      if name = "A" then .ok (some "';\n\"$B") else if name = "B" then .ok none else .error .busy
    let w : Lookup := fun name =>
      if name = "A" then .ok (some "x") else if name = "B" then .ok (some "") else .error .busy
    let text := "echo $A\"${A}$B\"$B ${C}$D;\n"
    v.SameShape w ∧
      let l := ({} : Lexer).feedChars v (text.toList.take 25)
      let k := ({} : Lexer).feedChars w (text.toList.take 25)
      l.mode = k.mode ∧ l.cursor.stack = [] ∧ k.cursor.stack = [] ∧ l.draft.name = k.draft.name ∧
        l.isComplete = k.isComplete ∧ List.Forall₂ Event.Alike l.takeEvents.1 k.takeEvents.1 := by
  intro v w text
  have hvw : v.SameShape w := by
    constructor
    · intro name e
      simp only [v, w]
      split_ifs <;> simp
    · intro name
      simp only [v, w]
      split_ifs <;> simp
  exact ⟨hvw, feedChars_of_sameShape hvw text 25⟩

end Lexer
end NestedShell

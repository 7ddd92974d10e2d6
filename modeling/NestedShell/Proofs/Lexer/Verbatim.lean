import Mathlib.Data.List.Chain
import NestedShell.Proofs.Lexer.Turn

/-! Texts that stand for themselves outside quotes, whatever the variables are. -/
namespace NestedShell.Lexer

/-- The characters that are never part of a word when they stand outside quotes. -/
def marks : List Char := [' ', '\t', '\n', ';', '\\', '\'', '"']

/-- Whether `a` and `c`, one behind the other, begin a reference. -/
def refers (a c : Char) : Bool := a == '$' && (isNameChar c || c == '\x7b')

/-- A text that is read as it is written when it stands outside quotes and is not followed by a
name. -/
structure Verbatim (text : String) : Prop where
  unmarked : ∀ c ∈ text.toList, c ∉ marks
  unreferring : text.toList.IsChain (fun a c => refers a c = false)

theorem verbatim_iff (text : String) : Verbatim text ↔ (∀ c ∈ text.toList, c ∉ marks) ∧
    text.toList.IsChain (fun a c => refers a c = false) :=
  ⟨fun h => ⟨h.unmarked, h.unreferring⟩, fun h => ⟨h.1, h.2⟩⟩

instance (text : String) : Decidable (Verbatim text) :=
  have : Decidable (∀ c ∈ text.toList, c ∉ marks) := List.decidableBAll _ _
  decidable_of_iff' _ (verbatim_iff text)

/-- A lexer outside quotes and references that has read `last`. A dollar sign waits for what comes
next. -/
def unquoted (last : Char) (d : Draft) : Lexer := inMode (if last = '$' then .varStart else .bare) d

/-- What the draft is when nothing comes of a dollar sign. -/
def spelled (last : Char) (d : Draft) : Draft := if last = '$' then d.add "$" else d

@[simp] theorem name_spelled (last : Char) (d : Draft) : (spelled last d).name = d.name := by
  unfold spelled
  split <;> rfl

/-- The draft after `c`. -/
def spell (last c : Char) (d : Draft) : Draft :=
  if c = '$' then spelled last d else (spelled last d).add (.singleton c)

@[simp] theorem name_spell (last c : Char) (d : Draft) : (spell last c d).name = d.name := by
  unfold spell
  split
  · exact name_spelled last d
  · exact name_spelled last d

theorem spelled_spell (last c : Char) (d : Draft) :
    spelled c (spell last c d) = (spelled last d).add (.singleton c) := by
  unfold spell
  by_cases hc : c = '$'
  · subst hc
    rfl
  · simp [hc, spelled]

/-- What comes of a dollar sign is settled before a character that does not go on with it. -/
theorem feedChar_unquoted (vars : Lookup) {last c : Char} (h : refers last c = false) (d : Draft)
    (hname : d.name = "") :
    (unquoted last d).feedChar vars c =
      inMode (Mode.bare.step vars c (spelled last d)).1
        (Mode.bare.step vars c (spelled last d)).2 := by
  rw [unquoted, feedChar_inMode]
  by_cases hlast : last = '$'
  · obtain ⟨hc, hbrace⟩ : isNameChar c = false ∧ c ≠ '\x7b' := by simpa [refers, hlast] using h
    have hend : d.endName vars = spelled last d := by
      simp [Draft.endName, spelled, hname, hlast, Draft.add]
    simp [hlast, Mode.turn, Mode.endsName, Mode.home, hc, hbrace, hend]
  · simp [hlast, Mode.turn, Mode.endsName, spelled]

theorem feedChar_verbatim (vars : Lookup) {last c : Char} (hc : c ∉ marks)
    (h : refers last c = false) (d : Draft) (hname : d.name = "") :
    (unquoted last d).feedChar vars c = unquoted c (spell last c d) := by
  have hmarks : c ≠ ' ' ∧ c ≠ '\t' ∧ c ≠ '\n' ∧ c ≠ ';' ∧ c ≠ '\\' ∧ c ≠ '\'' ∧ c ≠ '"' := by
    simpa [marks] using hc
  rw [feedChar_unquoted vars h d hname]
  by_cases hdollar : c = '$'
  · subst hdollar
    have hsame : { spelled last d with name := "" } = spelled last d := by
      rw [← hname, ← name_spelled last d]
    simp [Mode.step, unquoted, spell, hsame]
  · simp [Mode.step, unquoted, spell, hdollar, hmarks]

theorem feedChars_verbatim (vars : Lookup) {last : Char} {cs : List Char}
    (hcs : ∀ c ∈ cs, c ∉ marks) (h : (last :: cs).IsChain (fun a c => refers a c = false))
    (d : Draft) (hname : d.name = "") :
    ∃ last' e, e.name = "" ∧ (unquoted last d).feedChars vars cs = unquoted last' e ∧
      spelled last' e = (spelled last d).add (String.ofList cs) := by
  induction cs generalizing last d with
  | nil => exact ⟨last, d, hname, rfl, by simp⟩
  | cons c cs ih =>
    obtain ⟨hlast, hrest⟩ := List.isChain_cons_cons.mp h
    have hstep := feedChar_verbatim vars (hcs c (by simp)) hlast d hname
    obtain ⟨last', e, hename, hread, hspelled⟩ :=
      ih (fun c hc => hcs c (by simp [hc])) hrest (spell last c d) (by simp [hname])
    refine ⟨last', e, hename, ?_, ?_⟩
    · rw [feedChars_cons, hstep, hread]
    · rw [hspelled, spelled_spell, Draft.add_add, String.ofList_cons]

theorem refers_equals (a : Char) : refers a '=' = false := by
  have hname : isNameChar '=' = false := by decide
  simp [refers, hname]

theorem isChain_blank_cons {cs : List Char} (h : cs.IsChain (fun a c => refers a c = false)) :
    (' ' :: cs).IsChain (fun a c => refers a c = false) := by
  cases cs with
  | nil => exact .singleton ' '
  | cons c cs => exact List.isChain_cons_cons.mpr ⟨rfl, h⟩

/-- An `=` begins no reference and ends none, so a verbatim text stays verbatim before one. -/
theorem feedChars_verbatim_equals (vars : Lookup) {text : String} (h : Verbatim text) (d : Draft)
    (hname : d.name = "") :
    (inMode .bare d).feedChars vars (text ++ "=").toList = inMode .bare (d.add (text ++ "=")) := by
  obtain ⟨last, e, hename, hread, hspelled⟩ :=
    feedChars_verbatim vars h.unmarked (isChain_blank_cons h.unreferring) d hname
  have hequals := feedChar_verbatim vars (c := '=') (by decide) (refers_equals last) e hename
  calc (inMode .bare d).feedChars vars (text ++ "=").toList
      = (unquoted ' ' d).feedChars vars (text.toList ++ ['=']) := by
        rw [String.toList_append]
        rfl
    _ = unquoted '=' (spell last '=' e) := by
        rw [feedChars_append, hread, feedChars_cons, hequals, feedChars_nil]
    _ = inMode .bare ((spelled last e).add "=") := rfl
    _ = inMode .bare (d.add (text ++ "=")) := by
        rw [hspelled, String.ofList_toList, Draft.add_add]
        rfl

end NestedShell.Lexer

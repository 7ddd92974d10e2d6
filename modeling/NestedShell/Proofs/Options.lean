import Mathlib.Tactic.Common
import NestedShell.Options

/-! How the words of a command are read that takes no options and as many words as it needs. -/
namespace NestedShell.Options

/-- The word has no meaning to the reading but as a positional. -/
def IsOrdinary (word : String) : Prop := isHelp word = false ∧ word.toList.head? ≠ some '-'

instance (word : String) : Decidable (IsOrdinary word) := inferInstanceAs (Decidable (_ ∧ _))

/-- Positionals that must be given, each with one word. -/
def Fixed (left : List Positional) : Prop := ∀ p ∈ left, p.arity = .required

instance (left : List Positional) : Decidable (Fixed left) := List.decidableBAll _ left

section
variable {sig : Signature} {isAsked ended : Bool} {left more : List Positional} {p : Positional}
  {word : String} {rest words : List String} {r : Reading}

/-- A word with a meaning of its own is taken without a place for it, or ends the reading. -/
theorem readFrom_of_not_ordinary (hsig : sig.switches = []) (hword : ¬ IsOrdinary word) :
    readFrom sig isAsked false left r (word :: rest) = readFrom sig true false left r rest ∨
      readFrom sig isAsked false left r (word :: rest) = readFrom sig isAsked true left r rest ∨
      ∃ e, readFrom sig isAsked false left r (word :: rest) = .error (.error e) := by
  rw [readFrom]
  by_cases hhelp : isHelp word
  · exact .inl (by simp [hhelp])
  have hdash : word.toList.head? = some '-' := by
    by_contra hdash
    exact hword ⟨by simpa using hhelp, hdash⟩
  by_cases hdashes : word = "--"
  · subst hdashes
    exact .inr (.inl (by simp [hhelp]))
  · refine .inr (.inr ?_)
    cases isAsked <;> simp [hhelp, hdash, hdashes, Signature.switch?, hsig]

theorem readFrom_word (hword : ended ∨ IsOrdinary word) (hp : p.arity = .required) :
    readFrom sig isAsked ended (p :: more) r (word :: rest) =
      readFrom sig isAsked ended more { r with positionals := word :: r.positionals } rest := by
  rw [readFrom]
  rcases hword with rfl | ⟨hhelp, hdash⟩
  · simp [hp]
  · simp [hhelp, hdash, hp]

theorem readFrom_ordinary (hleft : Fixed left) (hwords : ∀ word ∈ words, IsOrdinary word)
    (hlength : words.length = left.length) :
    readFrom sig false ended left r words =
      .ok { r with positionals := r.positionals.reverse ++ words } := by
  induction words generalizing left r with
  | nil =>
    obtain rfl := List.length_eq_zero_iff.mp hlength.symm
    simp [readFrom]
  | cons word rest ih =>
    obtain ⟨p, more, rfl⟩ := List.exists_cons_of_length_eq_add_one hlength.symm
    rw [readFrom_word (.inr (hwords word (by simp))) (hleft p (by simp)),
      ih (fun q hq => hleft q (by simp [hq])) (fun w hw => hwords w (by simp [hw]))
        (by simpa using hlength)]
    simp

theorem readFrom_extra (hword : ended ∨ IsOrdinary word) :
    readFrom sig isAsked ended [] r (word :: rest) = .error (.error (.unrecognized word)) := by
  rw [readFrom]
  rcases hword with rfl | ⟨hhelp, hdash⟩
  · simp
  · simp [hhelp, hdash]

/-- Where a word is missing, or help has been asked for, there is nothing to be read. -/
theorem readFrom_ne_ok (hsig : sig.switches = []) (hleft : Fixed left)
    (h : words.length < left.length ∨ isAsked) (result : Reading) :
    readFrom sig isAsked ended left r words ≠ .ok result := by
  induction words generalizing isAsked ended left r with
  | nil =>
    rw [readFrom]
    cases isAsked with
    | true => simp
    | false =>
      obtain ⟨p, more, rfl⟩ := List.exists_cons_of_length_pos (by simpa using h)
      simp [hleft p (by simp)]
  | cons word rest ih =>
    by_cases hword : ended ∨ IsOrdinary word
    · cases left with
      | nil =>
        rw [readFrom_extra hword]
        exact nofun
      | cons p more =>
        rw [readFrom_word hword (hleft p (by simp))]
        exact ih (fun q hq => hleft q (by simp [hq])) (h.imp_left (by simp))
    · obtain ⟨hended, hordinary⟩ := not_or.mp hword
      obtain rfl : ended = false := by simpa using hended
      have hshort : rest.length < left.length ∨ isAsked := h.imp_left (by simp; omega)
      rcases readFrom_of_not_ordinary hsig hordinary with heq | heq | ⟨e, heq⟩ <;> rw [heq]
      · exact ih hleft (.inr rfl)
      · exact ih hleft hshort
      · exact nofun

theorem readFrom_ne_ok_of_not_ordinary (hsig : sig.switches = []) (hleft : Fixed left)
    (hlength : words.length = left.length) (hword : ¬ ∀ word ∈ words, IsOrdinary word)
    (result : Reading) : readFrom sig false false left r words ≠ .ok result := by
  induction words generalizing left r with
  | nil => exact absurd nofun hword
  | cons word rest ih =>
    obtain ⟨p, more, rfl⟩ := List.exists_cons_of_length_eq_add_one hlength.symm
    by_cases hfirst : IsOrdinary word
    · rw [readFrom_word (.inr hfirst) (hleft p (by simp))]
      refine ih (fun q hq => hleft q (by simp [hq])) (by simpa using hlength) fun hrest => ?_
      exact hword (by simpa [hfirst] using hrest)
    · rcases readFrom_of_not_ordinary hsig hfirst with heq | heq | ⟨e, heq⟩ <;> rw [heq]
      · exact readFrom_ne_ok hsig hleft (.inr rfl) result
      · exact readFrom_ne_ok hsig hleft (.inl (by simp at hlength; simp; omega)) result
      · exact nofun

/-- As many words as there are places for are taken as they are, unless one of them has another
meaning; then nothing is read. -/
theorem read_eq_ok_iff (hsig : sig.switches = []) (hfixed : Fixed sig.positionals)
    (hlength : words.length = sig.positionals.length) (result : Reading) :
    sig.read words = .ok result ↔
      (∀ word ∈ words, IsOrdinary word) ∧ result = { positionals := words } := by
  by_cases hwords : ∀ word ∈ words, IsOrdinary word
  · rw [Signature.read, readFrom_ordinary hfixed hwords hlength, and_iff_right hwords]
    simp [eq_comm]
  · refine iff_of_false ?_ fun h => hwords h.1
    exact readFrom_ne_ok_of_not_ordinary hsig hfixed hlength hwords result

end

end NestedShell.Options

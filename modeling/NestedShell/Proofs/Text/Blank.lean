import Mathlib.Data.List.DropRight
import Mathlib.Tactic.Common
import NestedShell.Text.Blank

/-! The words of a text, which blanks part from each other. -/
namespace NestedShell.Text
variable {head word blanks cs : List Char}

/-- The runs of characters that are not blank. -/
def words (cs : List Char) : List (List Char) := (cs.splitOnP isBlank).filter (!·.isEmpty)

/-- A text behind which a word begins: it is empty or ends with a blank. -/
def Parted (head : List Char) : Prop := ∀ c ∈ head.getLast?, isBlank c

@[simp] theorem words_nil : words [] = [] := rfl

theorem words_append_blank {c : Char} (hc : isBlank c) (cs ds : List Char) :
    words (cs ++ c :: ds) = words cs ++ words ds := by
  rw [words, List.splitOnP_append_cons cs ds hc, List.filter_append, words, words]

theorem words_of_blank (h : ∀ c ∈ cs, isBlank c) : words cs = [] := by
  induction cs with
  | nil => rfl
  | cons c cs ih =>
    have hrest := ih fun d hd => h d (List.mem_cons_of_mem c hd)
    simpa [hrest] using words_append_blank (h c List.mem_cons_self) [] cs

theorem words_append_blanks (h : ∀ c ∈ blanks, isBlank c) (cs : List Char) :
    words (cs ++ blanks) = words cs := by
  cases blanks with
  | nil => rw [List.append_nil]
  | cons c blanks =>
    rw [words_append_blank (h c List.mem_cons_self),
      words_of_blank fun d hd => h d (List.mem_cons_of_mem c hd), List.append_nil]

/-- A word behind a text that it may follow is the last of the words. -/
theorem words_append_word (hhead : Parted head) (hne : word ≠ [])
    (hword : ∀ c ∈ word, isBlank c = false) : words (head ++ word) = words head ++ [word] := by
  have hsingle : words word = [word] := by
    simp [words, List.splitOnP_eq_singleton hword, hne]
  rcases List.eq_nil_or_concat head with rfl | ⟨front, c, rfl⟩
  · simp [hsingle]
  · rw [List.concat_eq_append] at hhead ⊢
    have hc : isBlank c := hhead c (by simp)
    rw [List.append_assoc, List.singleton_append, words_append_blank hc, hsingle,
      words_append_blanks (by simpa using hc)]

theorem parted_iff : Parted head ↔ ∀ hne : head ≠ [], isBlank (head.getLast hne) := by
  constructor
  · intro hhead hne
    exact hhead _ (List.getLast?_eq_some_getLast hne)
  · intro hlast c hc
    obtain ⟨hne, rfl⟩ := List.mem_getLast?_eq_getLast hc
    exact hlast hne

/-- Without the run at its end that is not blank, a text is one that a word may follow. -/
theorem parted_rdropWhile (cs : List Char) : Parted (cs.rdropWhile (!isBlank ·)) := by
  rw [parted_iff]
  intro hne
  simpa using List.rdropWhile_last_not (!isBlank ·) cs hne

theorem words_rdropWhile (cs : List Char) : words (cs.rdropWhile isBlank) = words cs := by
  have hblanks : ∀ c ∈ cs.rtakeWhile isBlank, isBlank c := by
    intro c hc
    exact List.mem_rtakeWhile_imp hc
  rw [← words_append_blanks hblanks, List.rdropWhile_append_rtakeWhile]

/-- A text with no blank at its end has a last word, the run that is not blank there. -/
theorem words_of_getLast (hne : cs ≠ []) (hlast : ¬isBlank (cs.getLast hne)) :
    cs.rtakeWhile (!isBlank ·) ≠ [] ∧
      words cs = words (cs.rdropWhile (!isBlank ·)) ++ [cs.rtakeWhile (!isBlank ·)] := by
  have hword : cs.rtakeWhile (!isBlank ·) ≠ [] := by
    rw [Ne, List.rtakeWhile_eq_nil_iff]
    exact fun hall => hall hne (by simpa using hlast)
  refine ⟨hword, ?_⟩
  rw [← words_append_word (parted_rdropWhile cs) hword
    fun c hc => by simpa using List.mem_rtakeWhile_imp hc, List.rdropWhile_append_rtakeWhile]

theorem words_eq_nil_iff : words cs = [] ↔ ∀ c ∈ cs, isBlank c := by
  refine ⟨fun hwords => ?_, words_of_blank⟩
  rw [← List.rdropWhile_eq_nil_iff]
  by_contra hne
  have hconcat := (words_of_getLast hne (List.rdropWhile_last_not isBlank cs hne)).2
  rw [words_rdropWhile, hwords] at hconcat
  simp at hconcat

theorem exists_around_trim (cs : List Char) : ∃ left right, cs = left ++ trim cs ++ right ∧
    (∀ c ∈ left, isBlank c) ∧ ∀ c ∈ right, isBlank c := by
  refine ⟨cs.takeWhile isBlank, (cs.dropWhile isBlank).rtakeWhile isBlank, ?_,
    fun c hc => List.mem_takeWhile_imp hc, fun c hc => List.mem_rtakeWhile_imp hc⟩
  have htrim : trim cs = (cs.dropWhile isBlank).rdropWhile isBlank := rfl
  rw [htrim, List.append_assoc, List.rdropWhile_append_rtakeWhile,
    List.takeWhile_append_dropWhile]

/-- A text without blanks is what is left of it when there are blanks around it. -/
theorem trim_around {left right : List Char} (hleft : ∀ c ∈ left, isBlank c)
    (hright : ∀ c ∈ right, isBlank c) (hword : ∀ c ∈ word, isBlank c = false) :
    trim (left ++ word ++ right) = word := by
  have hback : (word ++ right).rdropWhile isBlank = word := by
    rw [List.rdropWhile, List.reverse_append, List.dropWhile_append_of_pos (by simpa using hright),
      List.dropWhile_eq_self_iff.mpr fun hl => by simp [hword], List.reverse_reverse]
  have htrim : trim (left ++ word ++ right) =
      ((word ++ right).dropWhile isBlank).rdropWhile isBlank := by
    rw [List.append_assoc, trim, List.dropWhile_append_of_pos hleft]
    rfl
  rw [htrim]
  cases word with
  | nil => rw [List.nil_append, List.dropWhile_eq_nil_iff.mpr hright, List.rdropWhile_nil]
  | cons c cs =>
    rw [List.cons_append, List.dropWhile_cons_of_neg (by simp [hword]), ← List.cons_append, hback]

theorem lastWord?_eq_ite (cs : List Char) : lastWord? cs =
    if (cs.rdropWhile isBlank).rtakeWhile (!isBlank ·) = [] then none
    else some ((cs.rdropWhile isBlank).rtakeWhile (!isBlank ·)) := by
  unfold lastWord? List.rtakeWhile List.rdropWhile
  rw [List.reverse_reverse]
  split <;> simp_all

/-- The last word is found from the end: over the blanks there, and then to the next blank. -/
theorem lastWord?_eq (cs : List Char) : lastWord? cs = (words cs).getLast? := by
  rw [lastWord?_eq_ite, ← words_rdropWhile]
  by_cases hne : cs.rdropWhile isBlank = []
  · simp [hne]
  · obtain ⟨hword, hwords⟩ := words_of_getLast hne (List.rdropWhile_last_not isBlank cs hne)
    rw [hwords, List.getLast?_concat, if_neg hword]

end NestedShell.Text

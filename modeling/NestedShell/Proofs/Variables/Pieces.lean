import Mathlib.Data.List.TakeWhile
import Mathlib.Tactic.Common
import NestedShell.Variables

/-! Texts as they are read for references to variables, piece by piece: characters that stand for
themselves, dollar signs that begin nothing, and references, by a name alone or in braces. -/
namespace NestedShell

/-- The pieces of a text. A name alone is as long as it can be, and behind a brace that is never
closed there is no other piece. -/
inductive Pieces : List Char → Prop
  | done : Pieces []
  | char {c cs} (hc : c ≠ '$') (rest : Pieces cs) : Pieces (c :: cs)
  | dollar {cs} (hcs : ∀ c ∈ cs.head?, isNameChar c = false ∧ c ≠ '\x7b') (rest : Pieces cs) :
    Pieces ('$' :: cs)
  | named {name cs} (hne : name ≠ []) (hname : ∀ c ∈ name, isNameChar c)
    (hcs : ∀ c ∈ cs.head?, isNameChar c = false) (rest : Pieces cs) : Pieces ('$' :: (name ++ cs))
  | braced {body cs} (hbody : '\x7d' ∉ body) (rest : Pieces cs) :
    Pieces ('$' :: '\x7b' :: (body ++ '\x7d' :: cs))
  | unclosed {body} (hbody : '\x7d' ∉ body) : Pieces ('$' :: '\x7b' :: body)

/-- Every text is one of pieces. -/
theorem pieces (cs : List Char) : Pieces cs := by
  induction hlength : cs.length using Nat.strongRecOn generalizing cs with
  | ind n ih =>
    subst hlength
    cases cs with
    | nil => exact .done
    | cons c cs =>
      have hshorter : ∀ rest : List Char, rest.length ≤ cs.length → Pieces rest :=
        fun rest hle => ih rest.length (Nat.lt_succ_of_le hle) rest rfl
      by_cases hc : c = '$'
      · subst hc
        by_cases hbrace : cs.head? = some '\x7b'
        · obtain ⟨body, rfl⟩ := List.head?_eq_some_iff.mp hbrace
          by_cases hclosed : '\x7d' ∈ body
          · obtain ⟨body, rest, rfl, hbody⟩ := List.eq_append_cons_of_mem hclosed
            exact .braced hbody (hshorter rest (by simp; omega))
          · exact .unclosed hclosed
        by_cases hname : cs.takeWhile isNameChar = []
        · refine .dollar (fun e he => ⟨?_, fun hb => hbrace (hb ▸ he)⟩) (hshorter cs le_rfl)
          obtain ⟨rest, rfl⟩ := List.head?_eq_some_iff.mp he
          simpa using hname
        · have hend := List.head?_dropWhile_not isNameChar cs
          have hle := (cs.dropWhile_sublist isNameChar).length_le
          rw [← cs.takeWhile_append_dropWhile (p := isNameChar)]
          refine .named hname (fun e he => List.mem_takeWhile_imp he) (fun e he => ?_)
            (hshorter _ hle)
          rwa [he] at hend
      · exact .char hc (hshorter cs le_rfl)

theorem takeWhile_isNameChar {name cs : List Char} (hname : ∀ c ∈ name, isNameChar c)
    (hcs : ∀ c ∈ cs.head?, isNameChar c = false) : (name ++ cs).takeWhile isNameChar = name := by
  rw [List.takeWhile_append_of_pos hname]
  cases cs with
  | nil => simp
  | cons c cs => simp [hcs c rfl]

/-- A text is cut before the first `q`. -/
theorem takeWhile_ne {q : Char} {body : List Char} (hbody : q ∉ body) (cs : List Char) :
    (body ++ q :: cs).takeWhile (· ≠ q) = body := by
  rw [List.takeWhile_append_of_pos (by grind)]
  simp

theorem dropWhile_ne {q : Char} {body : List Char} (hbody : q ∉ body) (cs : List Char) :
    (body ++ q :: cs).dropWhile (· ≠ q) = q :: cs := by
  rw [List.dropWhile_append_of_pos (by grind)]
  simp

theorem dropWhile_ne_eq_nil {q : Char} {cs : List Char} (h : q ∉ cs) :
    cs.dropWhile (· ≠ q) = [] := by
  rw [List.dropWhile_eq_nil_iff]
  intro c hc
  simpa using ne_of_mem_of_not_mem hc h

section
variable (value : String → String)

/-- Characters that a reference has taken leave nothing behind. -/
theorem expandFrom_append (closes : Bool) (taken rest : List Char) :
    expandFrom value closes taken.length (taken ++ rest) = expandFrom value closes 0 rest := by
  induction taken with
  | nil => rfl
  | cons c taken ih => exact ih

theorem expandFrom_char (closes : Bool) {c : Char} (hc : c ≠ '$') (cs : List Char) :
    expandFrom value closes 0 (c :: cs) = c :: expandFrom value closes 0 cs := by
  simp [expandFrom, hc]

theorem expandFrom_dollar (closes : Bool) {cs : List Char}
    (hcs : ∀ c ∈ cs.head?, isNameChar c = false ∧ c ≠ '\x7b') :
    expandFrom value closes 0 ('$' :: cs) = '$' :: expandFrom value closes 0 cs := by
  cases cs with
  | nil => simp [expandFrom, reference?]
  | cons c cs =>
    obtain ⟨hc, hbrace⟩ := hcs c rfl
    simp [expandFrom, reference?, hc, hbrace]

theorem expandFrom_named (closes : Bool) {name cs : List Char} (hne : name ≠ [])
    (hname : ∀ c ∈ name, isNameChar c) (hcs : ∀ c ∈ cs.head?, isNameChar c = false) :
    expandFrom value closes 0 ('$' :: (name ++ cs)) =
      (value (String.ofList name)).toList ++ expandFrom value closes 0 cs := by
  have href : reference? closes (name ++ cs) = some (name, name.length) := by
    unfold reference?
    rw [takeWhile_isNameChar hname hcs]
    cases name with
    | nil => contradiction
    | cons c name => rfl
  simp only [expandFrom, if_true, href, expandFrom_append]

theorem expandFrom_braced {body : List Char} (hbody : '\x7d' ∉ body) (cs : List Char) :
    expandFrom value true 0 ('$' :: '\x7b' :: (body ++ '\x7d' :: cs)) =
      (value (String.ofList body)).toList ++ expandFrom value true 0 cs := by
  have hopen : isNameChar '\x7b' = false := by decide
  have hclosed := takeWhile_ne hbody cs
  have href : reference? true ('\x7b' :: (body ++ '\x7d' :: cs)) =
      some (body, body.length + 2) := by
    simp only [reference?, List.takeWhile_cons, hopen, hclosed]
    simp
  have htaken := expandFrom_append value true ('\x7b' :: (body ++ ['\x7d'])) cs
  simp only [List.cons_append, List.append_assoc, List.nil_append, List.length_cons,
    List.length_append, List.length_nil] at htaken
  simp only [expandFrom, if_true, href]
  exact congrArg _ htaken

end

/-- A text without dollar signs stands for itself. -/
theorem expandFrom_of_no_dollar (value : String → String) (closes : Bool) {cs : List Char}
    (h : '$' ∉ cs) : expandFrom value closes 0 cs = cs := by
  induction cs with
  | nil => rfl
  | cons c cs ih =>
    simp only [List.mem_cons, not_or] at h
    rw [expandFrom_char value closes (Ne.symm h.1), ih h.2]

/-- Each dollar sign with a brace behind it begins a reference: the brace is closed, around a valid
name. -/
def WellBraced (cs : List Char) : Prop :=
  ∀ after, '$' :: '\x7b' :: after <:+ cs →
    ∃ name rest, after = name ++ '\x7d' :: rest ∧ isValidName (String.ofList name)

theorem wellBraced_nil : WellBraced [] := by
  intro after hafter
  simp at hafter

theorem wellBraced_cons_iff {c : Char} {cs : List Char} (h : c ≠ '$' ∨ cs.head? ≠ some '\x7b') :
    WellBraced (c :: cs) ↔ WellBraced cs := by
  constructor
  · exact fun hcs after hafter => hcs after (hafter.trans (List.suffix_cons c cs))
  · intro hcs after hafter
    rcases List.suffix_cons_iff.mp hafter with heq | hafter
    · obtain ⟨rfl, rfl⟩ := List.cons.inj heq
      simp at h
    · exact hcs after hafter

theorem wellBraced_append_iff {before : List Char} (h : '$' ∉ before) (cs : List Char) :
    WellBraced (before ++ cs) ↔ WellBraced cs := by
  induction before with
  | nil => rfl
  | cons c before ih =>
    simp only [List.mem_cons, not_or] at h
    rw [List.cons_append, wellBraced_cons_iff (.inl (Ne.symm h.1)), ih h.2]

theorem not_mem_of_isValidName {name : String} (h : isValidName name) {c : Char}
    (hc : isNameChar c = false) : c ∉ name.toList := by
  intro hmem
  simp only [isValidName, Bool.and_eq_true, List.all_eq_true] at h
  rw [h.2 c hmem] at hc
  cases hc

theorem wellBraced_named_iff {name cs : List Char} (hne : name ≠ [])
    (hname : ∀ c ∈ name, isNameChar c) :
    WellBraced ('$' :: (name ++ cs)) ↔ WellBraced cs := by
  have hchars : ∀ c, isNameChar c = false → c ∉ name := by
    intro c hc hmem
    rw [hname c hmem] at hc
    cases hc
  have hhead : (name ++ cs).head? ≠ some '\x7b' := by
    obtain ⟨c, name, rfl⟩ := List.exists_cons_of_ne_nil hne
    intro hbrace
    refine hchars '\x7b' (by decide) ?_
    simpa using Or.inl (Option.some.inj hbrace).symm
  rw [wellBraced_cons_iff (.inr hhead), wellBraced_append_iff (hchars '$' (by decide))]

/-- What stands before the first closing brace is all that a reference in braces can name. -/
theorem wellBraced_braced_iff {body : List Char} (hbody : '\x7d' ∉ body) (cs : List Char) :
    WellBraced ('$' :: '\x7b' :: (body ++ '\x7d' :: cs)) ↔
      isValidName (String.ofList body) ∧ WellBraced cs := by
  have hrest : isValidName (String.ofList body) →
      (WellBraced ('\x7b' :: (body ++ '\x7d' :: cs)) ↔ WellBraced cs) := by
    intro hvalid
    have hdollar : '$' ∉ body := by
      simpa using not_mem_of_isValidName hvalid (c := '$') (by decide)
    have hmem : '$' ∉ '\x7b' :: (body ++ ['\x7d']) := by simp [hdollar]
    simpa using wellBraced_append_iff hmem cs
  constructor
  · intro h
    obtain ⟨name, rest, hsplit, hname⟩ := h _ List.suffix_rfl
    have hclosing : '\x7d' ∉ name := by
      simpa using not_mem_of_isValidName hname (c := '\x7d') (by decide)
    obtain rfl : body = name := by
      rw [← takeWhile_ne hbody cs, hsplit, takeWhile_ne hclosing]
    exact ⟨hname, (hrest hname).mp fun after hafter =>
      h after (hafter.trans (List.suffix_cons _ _))⟩
  · rintro ⟨hvalid, hcs⟩ after hafter
    rcases List.suffix_cons_iff.mp hafter with heq | hafter
    · simp only [List.cons.injEq, true_and] at heq
      exact ⟨body, cs, heq, hvalid⟩
    · exact (hrest hvalid).mpr hcs after hafter

theorem not_wellBraced_unclosed {body : List Char} (hbody : '\x7d' ∉ body) :
    ¬ WellBraced ('$' :: '\x7b' :: body) := by
  intro h
  obtain ⟨name, rest, rfl, -⟩ := h body List.suffix_rfl
  simp at hbody

end NestedShell

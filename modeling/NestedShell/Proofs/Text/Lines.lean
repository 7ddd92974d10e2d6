import NestedShell.Proofs.Text.Utf8
import NestedShell.Text.Lines

/-! The lines of a text, read off its bytes and put together again. -/
namespace NestedShell.Text

section
variable {α : Type} [DecidableEq α]

/-- The line that a line feed ends, read backwards: a `ret` right before it does not belong to
it. -/
def ended (ret : α) (line : List α) : List α :=
  if line.head? = some ret then line.tail.reverse else line.reverse

theorem linesFrom_nil (feed ret : α) (line : List α) :
    linesFrom feed ret line [] = if line = [] then [] else [line.reverse] := by
  cases line <;> simp [linesFrom]

theorem linesFrom_cons (feed ret c : α) (line rest : List α) :
    linesFrom feed ret line (c :: rest) =
      if c = feed then ended ret line :: linesFrom feed ret [] rest
      else linesFrom feed ret (c :: line) rest := by
  cases line <;> simp [linesFrom, ended]

theorem linesFrom_append {feed ret : α} {new : List α} (h : feed ∉ new) (line rest : List α) :
    linesFrom feed ret line (new ++ rest) = linesFrom feed ret (new.reverse ++ line) rest := by
  induction new generalizing line with
  | nil => rfl
  | cons c new ih =>
    simp only [List.mem_cons, not_or] at h
    rw [List.cons_append, linesFrom_cons, if_neg (Ne.symm h.1), ih h.2]
    simp

end

open Utf8 (bytes bytes_nil bytes_cons bytes_append)

/-- The last byte of a line is a carriage return if the last character is one. -/
theorem ended_bytes (line : List Char) :
    ended 13 (bytes line.reverse).reverse = bytes (ended '\r' line) := by
  cases line with
  | nil => rfl
  | cons c line =>
    by_cases hc : c = '\r'
    · subst hc
      have hr : String.utf8EncodeChar '\r' = [13] := rfl
      simp [ended, hr]
    · have hmem : 13 ∉ String.utf8EncodeChar c := by
        rw [Utf8.mem_utf8EncodeChar_iff (by decide)]
        exact hc
      have hlast : (bytes (c :: line).reverse).getLast? ≠ some 13 := by
        rcases List.eq_nil_or_concat (String.utf8EncodeChar c) with hnil | ⟨front, last, hbytes⟩
        · exact absurd hnil String.utf8EncodeChar_ne_nil
        · have hne : last ≠ 13 := by
            rintro rfl
            simp [hbytes] at hmem
          simp [hbytes, hne]
      rw [ended, List.head?_reverse, if_neg hlast, ended, if_neg (by simpa using hc),
        List.reverse_reverse]

/-- Lines may be found in the bytes of a text as well as in its characters. -/
theorem linesFrom_bytes (line cs : List Char) :
    linesFrom 10 13 (bytes line.reverse).reverse (bytes cs) =
      (linesFrom '\n' '\r' line cs).map bytes := by
  induction cs generalizing line with
  | nil =>
    rw [bytes_nil, linesFrom_nil, linesFrom_nil]
    by_cases hl : line = [] <;> simp [hl]
  | cons c cs ih =>
    rw [linesFrom_cons]
    by_cases hc : c = '\n'
    · have hn : bytes ('\n' :: cs) = 10 :: bytes cs := rfl
      rw [hc, hn, linesFrom_cons, if_pos rfl, if_pos rfl, ended_bytes, List.map_cons]
      exact congrArg _ (ih [])
    · have hmem : 10 ∉ String.utf8EncodeChar c := by
        rw [Utf8.mem_utf8EncodeChar_iff (by decide)]
        exact hc
      rw [if_neg hc, ← ih, bytes_cons, linesFrom_append hmem]
      simp

theorem lines_bytes (cs : List Char) : lines 10 13 (bytes cs) = (lines '\n' '\r' cs).map bytes :=
  linesFrom_bytes [] cs

/-- Each carriage return before a line feed left out. -/
def withoutReturns : List Char → List Char
  | [] => []
  | '\r' :: '\n' :: rest => '\n' :: withoutReturns rest
  | c :: rest => c :: withoutReturns rest

/-- A text that holds anything, with a line feed at its end. -/
def closed (cs : List Char) : List Char :=
  if cs = [] ∨ cs.getLast? = some '\n' then cs else cs ++ ['\n']

theorem closed_append_feed (cs ds : List Char) :
    closed (cs ++ '\n' :: ds) = cs ++ '\n' :: closed ds := by
  cases ds with
  | nil => simp [closed]
  | cons d ds => by_cases h : (d :: ds).getLast? = some '\n' <;> simp_all [closed]

theorem withoutReturns_of_notMem {cs : List Char} (h : '\n' ∉ cs) : withoutReturns cs = cs := by
  fun_induction withoutReturns cs <;> simp_all

theorem withoutReturns_append {cs : List Char} (h : '\n' ∉ cs) {c : Char} (hc : c ≠ '\n')
    (rest : List Char) : withoutReturns (cs ++ c :: rest) = cs ++ withoutReturns (c :: rest) := by
  induction cs with
  | nil => rfl
  | cons d cs ih =>
    simp only [List.mem_cons, not_or] at h
    rw [List.cons_append, List.cons_append, ← ih h.2]
    cases cs with
    | nil => simp [withoutReturns, hc]
    | cons e cs =>
      have he : e ≠ '\n' := by
        rintro rfl
        simp at h
      simp [withoutReturns, he]

theorem withoutReturns_feed {line : List Char} (h : '\n' ∉ line) (rest : List Char) :
    withoutReturns (line.reverse ++ '\n' :: rest) =
      ended '\r' line ++ '\n' :: withoutReturns rest := by
  cases line with
  | nil => rfl
  | cons c line =>
    simp only [List.mem_cons, not_or] at h
    rw [List.reverse_cons, List.append_assoc, List.singleton_append,
      withoutReturns_append (by simpa using h.2) (Ne.symm h.1)]
    by_cases hc : c = '\r' <;> simp [withoutReturns, ended, hc]

/-- The lines of a text, each with a line feed behind it, make up the text again but for the
carriage returns before a line feed and for the line feed that may be missing at the end. -/
theorem flatMap_linesFrom {line : List Char} (h : '\n' ∉ line) (cs : List Char) :
    (linesFrom '\n' '\r' line cs).flatMap (· ++ ['\n']) =
      closed (withoutReturns (line.reverse ++ cs)) := by
  induction cs generalizing line with
  | nil =>
    rw [linesFrom_nil, List.append_nil, withoutReturns_of_notMem (by simpa using h)]
    cases line with
    | nil => rfl
    | cons c line =>
      simp only [List.mem_cons, not_or] at h
      simp [closed, Ne.symm h.1]
  | cons c cs ih =>
    rw [linesFrom_cons]
    by_cases hc : c = '\n'
    · subst hc
      rw [if_pos rfl, withoutReturns_feed (by simpa using h), closed_append_feed, List.flatMap_cons,
        ih (by simp)]
      simp
    · rw [if_neg hc, ih (by simp [Ne.symm hc, h])]
      simp

end NestedShell.Text

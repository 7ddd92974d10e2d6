import Mathlib.Tactic.Common
import NestedShell.Completion
import NestedShell.Proofs.Text.Blank
import NestedShell.Text.Typed

/-! Completion reckons in bytes: where the word under a cursor starts, which words are offered for
it, and that no character of the line is cut in two on the way there. -/
namespace NestedShell.Scopes
open Text (isBlank Parted words)
open Text.Typed (dropBytes)
variable {n position : ℕ} {cs before after head word : List Char}

@[simp] theorem bytes_append (cs ds : List Char) : bytes (cs ++ ds) = bytes cs + bytes ds := by
  induction cs with
  | nil => simp [bytes]
  | cons c cs ih => rw [List.cons_append, bytes, ih, bytes, Nat.add_assoc]

@[simp] theorem bytes_eq_zero_iff : bytes cs = 0 ↔ cs = [] := by
  cases cs with
  | nil => simp [bytes]
  | cons c cs => simp [bytes, c.utf8Size_pos.ne']

@[simp] theorem bytes_toList (text : String) : bytes text.toList = text.utf8ByteSize := by
  suffices h : ∀ cs, bytes cs = (String.ofList cs).utf8ByteSize by simpa using h text.toList
  intro cs
  induction cs with
  | nil => rfl
  | cons c cs ih =>
    rw [← List.singleton_append, String.ofList_append, String.utf8ByteSize_append, bytes_append,
      ih, ← String.singleton_eq_ofList, String.utf8ByteSize_singleton]
    rfl

theorem cut?_cons {c : Char} (h : c.utf8Size ≤ n) (cs : List Char) :
    cut? n (c :: cs) = (cut? (n - c.utf8Size) cs).map (c :: ·) := by
  cases n with
  | zero => exact absurd h c.utf8Size_pos.not_ge
  | succ n => rw [cut?, if_pos h]

theorem cut?_bytes (before after : List Char) :
    cut? (bytes before) (before ++ after) = some before := by
  induction before with
  | nil => simp [bytes, cut?]
  | cons c before ih =>
    rw [bytes, List.cons_append, cut?_cons (Nat.le_add_right ..), Nat.add_sub_cancel_left, ih]
    rfl

/-- A text can be cut at the bytes of each of its starts, and nowhere else. -/
theorem cut?_eq_some_iff :
    cut? n cs = some before ↔ ∃ after, before ++ after = cs ∧ bytes before = n := by
  refine ⟨fun h => ?_, fun ⟨after, hcs, hn⟩ => hcs ▸ hn ▸ cut?_bytes before after⟩
  fun_induction cut? n cs generalizing before with
  | case1 cs =>
    obtain rfl := Option.some_inj.1 h
    exact ⟨cs, rfl, rfl⟩
  | case2 => cases h
  | case3 n c cs hfits ih =>
    obtain ⟨front, hfront, rfl⟩ := Option.map_eq_some_iff.1 h
    obtain ⟨after, rfl, hn⟩ := ih hfront
    exact ⟨after, rfl, by rw [bytes, hn]; omega⟩
  | case4 => cases h

theorem dropBytes_cons {c : Char} (h : c.utf8Size ≤ n) (cs : List Char) :
    dropBytes n (c :: cs) = dropBytes (n - c.utf8Size) cs := by
  cases n with
  | zero => exact absurd h c.utf8Size_pos.not_ge
  | succ n => rw [dropBytes, if_pos h]

theorem dropBytes_bytes (before after : List Char) :
    dropBytes (bytes before) (before ++ after) = some after := by
  induction before with
  | nil => simp [bytes, dropBytes]
  | cons c before ih =>
    rw [bytes, List.cons_append, dropBytes_cons (Nat.le_add_right ..), Nat.add_sub_cancel_left, ih]

/-- The places where a line can be cut are those between two characters. -/
theorem isSome_cut?_iff {line : String} :
    (cut? n line.toList).isSome ↔ String.Pos.Raw.IsValid line ⟨n⟩ := by
  rw [String.Pos.Raw.isValid_iff_exists_append, Option.isSome_iff_exists]
  constructor
  · rintro ⟨before, hbefore⟩
    obtain ⟨after, hline, hn⟩ := cut?_eq_some_iff.1 hbefore
    refine ⟨String.ofList before, String.ofList after, ?_, ?_⟩
    · rw [← String.ofList_append, hline, String.ofList_toList]
    · rw [String.Pos.Raw.ext_iff, String.byteIdx_rawEndPos, ← bytes_toList,
        String.toList_ofList, hn]
  · rintro ⟨before, after, rfl, hn⟩
    refine ⟨before.toList, cut?_eq_some_iff.2 ⟨after.toList, String.toList_append.symm, ?_⟩⟩
    rw [bytes_toList, ← String.byteIdx_rawEndPos, ← hn]

/-- The byte at which the last blank of a text starts. -/
def lastBlank? : List Char → Option ℕ
  | [] => none
  | c :: cs =>
    match lastBlank? cs with
    | some i => some (c.utf8Size + i)
    | none => if isBlank c then some 0 else none

theorem lastBlank?_of_unbroken (hword : ∀ c ∈ word, isBlank c = false) :
    lastBlank? word = none := by
  induction word with
  | nil => rfl
  | cons c word ih =>
    simp [lastBlank?, ih fun d hd => hword d (List.mem_cons_of_mem c hd), hword c]

theorem lastBlank?_append {c : Char} (hc : isBlank c) (hword : ∀ c ∈ word, isBlank c = false)
    (front : List Char) : lastBlank? (front ++ c :: word) = some (bytes front) := by
  induction front with
  | nil => simp [lastBlank?, lastBlank?_of_unbroken hword, hc, bytes]
  | cons d front ih => rw [List.cons_append, lastBlank?, ih, bytes]

/-- The word list of a word behind a text: the one of the first word, if there is no word before,
and else the one with the name of the last word before. -/
def scopeAfter (head : List Char) : String :=
  match (words head).getLast? with
  | none => commands
  | some previous => String.ofList previous

/-- The byte behind the last blank of a text, which is read again for its size. -/
def wordStart? (cs : List Char) : Option ℕ :=
  match lastBlank? cs with
  | none => some 0
  | some i => (dropBytes i cs).map fun rest => i + (rest.head?.map Char.utf8Size).getD 1

/-- Completion with the line as bytes, which are cut where a word starts and where a blank does.
There is no answer where such a place is inside of a character. -/
def completeByOffsets (line : String) (position : ℕ) (scopes : Scopes) :
    Option (ℕ × List String) := do
  let before := (cut? position line.toList).getD line.toList
  let start ← wordStart? before
  let word ← dropBytes start before
  let head ← cut? start before
  return (start, ((scopes.get? (scopeAfter head)).getD []).filter fun w => word.isPrefixOf w.toList)

/-- The end of the text that is completed: the cursor, if it is between two characters or at an end
of the line, and else the end of the line. -/
def cursor (line : String) (position : ℕ) : ℕ :=
  if String.Pos.Raw.IsValid line ⟨position⟩ then position else line.utf8ByteSize

/-- A line around a word in it, or around what there is of one before a cursor. -/
structure Around where
  head : String
  word : String
  rest : String
  parted : Parted head.toList
  unbroken : ∀ c ∈ word.toList, isBlank c = false

namespace Around

def line (around : Around) : String := around.head ++ around.word ++ around.rest

def start (around : Around) : ℕ := around.head.utf8ByteSize

def stop (around : Around) : ℕ := (around.head ++ around.word).utf8ByteSize

def scope (around : Around) : String := scopeAfter around.head.toList

/-- The words of the scope that begin with what there is of the word. -/
def candidates (scopes : Scopes) (around : Around) : List String :=
  match scopes.get? around.scope with
  | none => []
  | some words => words.filter fun w => around.word.toList <+: w.toList

theorem start_le_stop (around : Around) : around.start ≤ around.stop := by
  rw [start, stop, String.utf8ByteSize_append]
  exact Nat.le_add_right ..

theorem isValid_start (around : Around) : String.Pos.Raw.IsValid around.line ⟨around.start⟩ :=
  String.Pos.Raw.isValid_iff_exists_append.2
    ⟨around.head, around.word ++ around.rest, String.append_assoc, rfl⟩

/-- Behind each start of a text there is a word, if only an empty one. -/
theorem exists_of_append (before after : List Char) :
    ∃ around : Around, around.line = String.ofList (before ++ after) ∧
      around.stop = bytes before := by
  have hbefore : (splitWord before).1 ++ (splitWord before).2 = before :=
    List.rdropWhile_append_rtakeWhile
  refine ⟨{
    head := String.ofList (splitWord before).1
    word := String.ofList (splitWord before).2
    rest := String.ofList after
    parted := String.toList_ofList.symm ▸ Text.parted_rdropWhile before
    unbroken := fun c hc => by
      rw [String.toList_ofList] at hc
      simpa using List.mem_rtakeWhile_imp hc }, ?_, ?_⟩
  · simp [line, ← String.ofList_append, hbefore]
  · rw [stop, ← String.ofList_append, hbefore, ← bytes_toList, String.toList_ofList]

theorem exists_of_cursor (line : String) (position : ℕ) :
    ∃ around : Around, around.line = line ∧ around.stop = cursor line position := by
  by_cases hvalid : String.Pos.Raw.IsValid line ⟨position⟩
  · obtain ⟨before, hbefore⟩ := Option.isSome_iff_exists.1 (isSome_cut?_iff.2 hvalid)
    obtain ⟨after, hline, hp⟩ := cut?_eq_some_iff.1 hbefore
    simpa [hline, hp, cursor, hvalid] using exists_of_append before after
  · simpa [cursor, hvalid] using exists_of_append line.toList []

theorem splitWord_append (hhead : Parted head) (hword : ∀ c ∈ word, isBlank c = false) :
    splitWord (head ++ word) = (head, word) := by
  have hrun : ∀ c ∈ word.reverse, (!isBlank c) = true := by simpa using hword
  have hstop : head.rdropWhile (!isBlank ·) = head := by
    rw [List.rdropWhile_eq_self_iff]
    simpa using Text.parted_iff.1 hhead
  have hnone : head.rtakeWhile (!isBlank ·) = [] := by
    rw [List.rtakeWhile_eq_nil_iff]
    simpa using Text.parted_iff.1 hhead
  rw [splitWord, List.reverse_append, List.dropWhile_append_of_pos hrun,
    List.takeWhile_append_of_pos hrun, List.reverse_append, List.reverse_reverse]
  exact Prod.ext hstop (congrArg (· ++ word) hnone)

variable {around : Around}

/-- What is completed is the line up to the end of the word. -/
theorem getD_cut? (hstop : around.stop = cursor around.line position) :
    (cut? position around.line.toList).getD around.line.toList =
      around.head.toList ++ around.word.toList := by
  have hline : around.line.toList =
      (around.head.toList ++ around.word.toList) ++ around.rest.toList := by
    rw [line, String.toList_append, String.toList_append]
  have hbytes : bytes (around.head.toList ++ around.word.toList) = around.stop := by
    rw [← String.toList_append, bytes_toList, stop]
  by_cases hvalid : String.Pos.Raw.IsValid around.line ⟨position⟩
  · rw [cursor, if_pos hvalid] at hstop
    rw [cut?_eq_some_iff.2 ⟨_, hline.symm, hbytes.trans hstop⟩, Option.getD_some]
  · have hcut : cut? position around.line.toList = none := by
      rwa [← isSome_cut?_iff, Option.not_isSome_iff_eq_none] at hvalid
    have hrest : around.rest.toList = [] := by
      rw [cursor, if_neg hvalid, ← hbytes, ← bytes_toList, hline,
        bytes_append _ around.rest.toList] at hstop
      exact bytes_eq_zero_iff.1 (by omega)
    rw [hcut, Option.getD_none, hline, hrest, List.append_nil]

theorem candidates_eq (around : Around) (scopes : Scopes) : around.candidates scopes =
    ((scopes.get? around.scope).getD []).filter
      fun w => around.word.toList.isPrefixOf w.toList := by
  have hstarts (w : String) :
      around.word.toList.isPrefixOf w.toList = decide (around.word.toList <+: w.toList) := by
    rw [Bool.eq_iff_iff, List.isPrefixOf_iff_prefix, decide_eq_true_iff]
  cases hwords : scopes.get? around.scope <;> simp [candidates, hwords, hstarts]

theorem complete_eq (hstop : around.stop = cursor around.line position) (scopes : Scopes) :
    scopes.complete around.line position = (around.start, around.candidates scopes) := by
  rw [complete, getD_cut? hstop, splitWord_append around.parted around.unbroken]
  simp only [Text.lastWord?_eq, bytes_toList, candidates_eq]
  rfl

theorem wordStart?_eq (around : Around) :
    wordStart? (around.head.toList ++ around.word.toList) = some around.start := by
  rw [wordStart?, start, ← bytes_toList]
  rcases List.eq_nil_or_concat around.head.toList with hhead | ⟨front, c, hhead⟩
  · rw [hhead, List.nil_append, lastBlank?_of_unbroken around.unbroken]
    rfl
  · have hc : isBlank c := around.parted c (by simp [hhead])
    rw [hhead, List.concat_eq_append, List.append_assoc, List.singleton_append,
      lastBlank?_append hc around.unbroken]
    simp [dropBytes_bytes, bytes]

theorem completeByOffsets_eq (hstop : around.stop = cursor around.line position)
    (scopes : Scopes) : completeByOffsets around.line position scopes =
      some (around.start, around.candidates scopes) := by
  have hdrop : dropBytes around.start (around.head.toList ++ around.word.toList) =
      some around.word.toList := by
    rw [start, ← bytes_toList, dropBytes_bytes]
  have hcut : cut? around.start (around.head.toList ++ around.word.toList) =
      some around.head.toList := by
    rw [start, ← bytes_toList, cut?_bytes]
  simp only [completeByOffsets, getD_cut? hstop, wordStart?_eq, candidates_eq, Option.bind_eq_bind,
    Option.bind_some, hdrop, hcut]
  rfl

/-- The first word has a list of its own, and any other the one with the name of the word before. -/
theorem scope_eq (around : Around) :
    (∀ c ∈ around.head.toList, isBlank c) ∧ around.scope = commands ∨
      (words around.head.toList).getLast? = some around.scope.toList := by
  rw [scope, scopeAfter]
  cases hlast : (words around.head.toList).getLast? with
  | none => exact .inl ⟨Text.words_eq_nil_iff.1 (List.getLast?_eq_none_iff.1 hlast), rfl⟩
  | some previous => exact .inr (by rw [String.toList_ofList])

end Around

/-- A line is completed at the word before the cursor, which starts at its first byte or behind a
blank of any size and has no blank in it. Offered are the words of one scope that begin like it, in
their order: the scope of the first word, or the one with the name of the word before, and none if
there is no such scope. With the line as bytes it is the same, and none of the places where those
are cut is inside of a character. -/
theorem complete_around_cursor (line : String) (position : ℕ) (scopes : Scopes) :
    completeByOffsets line position scopes = some (scopes.complete line position) ∧
    ∃ around : Around, around.line = line ∧ around.stop = cursor line position ∧
      scopes.complete line position = (around.start, around.candidates scopes) ∧
      around.start ≤ cursor line position ∧ String.Pos.Raw.IsValid line ⟨around.start⟩ ∧
      ((∀ c ∈ around.head.toList, isBlank c) ∧ around.scope = commands ∨
        (words around.head.toList).getLast? = some around.scope.toList) := by
  obtain ⟨around, rfl, hstop⟩ := Around.exists_of_cursor line position
  rw [Around.completeByOffsets_eq hstop, Around.complete_eq hstop]
  exact ⟨rfl, around, rfl, hstop, rfl, hstop ▸ around.start_le_stop, around.isValid_start,
    around.scope_eq⟩

/-- A cursor inside of a blank of three bytes stands for the end of the line. -/
example : (({} : Scopes).set "help" ["echo", "exit"]).complete "help　e" 5 =
    (7, ["echo", "exit"]) := by
  decide +kernel

end NestedShell.Scopes

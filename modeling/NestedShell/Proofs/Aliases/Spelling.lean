import NestedShell.Proofs.Aliases.Listing
import NestedShell.Proofs.Variables.Pieces

/-! The ways to write the definition of an alias: the `=` may stand alone, touch either word or be
left out, and the alias is the same. -/
namespace NestedShell

namespace Standard
variable {κ : Type}

/-- The words behind the command that make `name` stand for `first` and what follows it. Without an
`=` in between, the word that stands for `first` must not begin with one. -/
inductive Spelling (name first : String) (rest : List String) : List String → Prop
  | joined : Spelling name first rest ((name ++ "=" ++ first) :: rest)
  | apart : Spelling name first rest (name :: "=" :: first :: rest)
  | leaning : Spelling name first rest (name :: ("=" ++ first) :: rest)
  | plain (h : first.toList.head? ≠ some '=') : Spelling name first rest (name :: first :: rest)

theorem definition_of_no_equals {name : String} (h : '=' ∉ name.toList) (words : List String) :
    definition name words = (name, replacement words) := by
  rw [definition, dropWhile_ne_eq_nil h]

theorem replacement_apart (words : List String) : replacement ("=" :: words) = words := rfl

theorem replacement_leaning {first : String} (h : first ≠ "") (rest : List String) :
    replacement (("=" ++ first) :: rest) = first :: rest := by
  obtain ⟨c, cs, hfirst⟩ := List.exists_cons_of_ne_nil (mt String.toList_eq_nil_iff.mp h)
  obtain rfl : first = String.ofList (c :: cs) := by rw [← hfirst, String.ofList_toList]
  have htext : ("=" ++ String.ofList (c :: cs)).toList = '=' :: c :: cs := by simp
  rw [replacement, htext]
  rfl

theorem replacement_plain {first : String} (h : first.toList.head? ≠ some '=')
    (rest : List String) : replacement (first :: rest) = first :: rest := by
  rw [replacement]
  split
  · rename_i htext
    simp [htext] at h
  · rename_i stripped _ htext
    simp [htext] at h
  · rfl

section
variable {name first : String} {rest words : List String}

theorem defined?_of_spelling (hname : name ≠ "") (hequals : '=' ∉ name.toList) (hfirst : first ≠ "")
    (h : Spelling name first rest words) (head : String) :
    defined? (head :: words) = some (name, first :: rest) := by
  cases h with
  | joined => simp [defined?, Aliases.definition_equals hequals, hfirst, hname]
  | apart => simp [defined?, definition_of_no_equals hequals, replacement_apart, hname]
  | leaning => simp [defined?, definition_of_no_equals hequals, replacement_leaning hfirst, hname]
  | plain hplain =>
    simp [defined?, definition_of_no_equals hequals, replacement_plain hplain, hname]

end

/-- A statement that defines an alias does nothing else. -/
theorem defineOrShow_of_defined? {args : Args} {entry : String × List String}
    (h : defined? args.words = some entry) (catalog : Catalog) (ws : Workspace) :
    (defineOrShow : Handler κ) catalog args ws =
      ({ ws with aliases := ⟨ws.aliases.table.put entry.1 entry.2⟩ }, .ok .done) := by
  unfold defined? at h
  unfold defineOrShow Args.drop
  rcases hwords : args.words.drop 1 with _ | ⟨first, rest⟩
  · simp [hwords] at h
  · simp only [hwords] at h
    split at h
    · cases h
    · rename_i hdefines
      split at h
      · cases h
      · rename_i hne
        cases h
        simp only [Bool.or_eq_true, not_or] at hne
        simp only [defineAlias, Aliases.set, if_neg hdefines, if_neg hne.1, if_neg hne.2]

/-- Of all that the command answers, the status 1 tells that no alias was defined. -/
theorem aliases_of_refused {catalog : Catalog} {args : Args} {ws : Workspace}
    (h : ((defineOrShow : Handler κ) catalog args ws).2 = .ok (.status 1)) :
    ((defineOrShow : Handler κ) catalog args ws).1.aliases = ws.aliases := by
  rw [aliases_defineOrShow]
  cases hdefined : defined? args.words with
  | none => rfl
  | some entry =>
    rw [defineOrShow_of_defined? hdefined] at h
    cases h

/-- However a definition is spelled, the table is the same: the name stands for the words, and every
other alias keeps its words and its place. A statement that is refused leaves the table as it
was. -/
theorem defineOrShow_of_spelling {name first : String} (hname : name ≠ "")
    (hequals : '=' ∉ name.toList) (hfirst : first ≠ "") (rest : List String) (catalog : Catalog)
    (ws : Workspace) :
    let after : Aliases := ⟨ws.aliases.table.put name (first :: rest)⟩
    (∀ head words, Spelling name first rest words →
      (defineOrShow : Handler κ) catalog ⟨head :: words⟩ ws =
        ({ ws with aliases := after }, .ok .done)) ∧
    after.get? name = some (first :: rest) ∧
    (∀ (other : String × List String) (i : ℕ), other.1 ≠ name →
      (after.entries[i]? = some other ↔ ws.aliases.entries[i]? = some other)) ∧
    ∀ args, ((defineOrShow : Handler κ) catalog args ws).2 = .ok (.status 1) →
      ((defineOrShow : Handler κ) catalog args ws).1.aliases = ws.aliases := by
  intro after
  refine ⟨fun head words hwords => ?_, ?_, fun other i hother => ?_, fun args => aliases_of_refused⟩
  · have hdefined := defined?_of_spelling hname hequals hfirst hwords head
    exact defineOrShow_of_defined? hdefined catalog ws
  · exact (Ordered.get?_put name name (first :: rest) ws.aliases.table).trans (if_pos rfl)
  · exact Ordered.getElem?_entries_put_of_ne ws.aliases.table (first :: rest) hother i

/-- A replacement that begins with an `=` itself, in each spelling there is for it, takes the place
of an older one; without a replacement there is no definition. -/
theorem defineOrShow_of_spelling_ll :
    let ws : Workspace := { aliases := ⟨⟨[("ll", ["ls"]), ("e", ["echo"])]⟩⟩ }
    let after : Workspace := { aliases := ⟨⟨[("ll", ["=x", "-l", "a=b"]), ("e", ["echo"])]⟩⟩ }
    "ll" ≠ "" ∧ '=' ∉ "ll".toList ∧ "=x" ≠ "" ∧
    (∀ words ∈ [["ll==x", "-l", "a=b"], ["ll", "=", "=x", "-l", "a=b"], ["ll", "==x", "-l", "a=b"]],
      Spelling "ll" "=x" ["-l", "a=b"] words ∧
        (defineOrShow : Handler Empty) {} ⟨"alias" :: words⟩ ws = (after, .ok .done)) ∧
    ("e" ≠ "ll" ∧ after.aliases.entries[1]? = some ("e", ["echo"])) ∧
    ((defineOrShow : Handler Empty) {} ⟨["alias", "ll", "="]⟩ ws).2 = .ok (.status 1) ∧
      ((defineOrShow : Handler Empty) {} ⟨["alias", "ll", "="]⟩ ws).1.aliases = ws.aliases := by
  intro ws after
  have hequals : '=' ∉ "ll".toList := by decide
  have hrefused : ((defineOrShow : Handler Empty) {} ⟨["alias", "ll", "="]⟩ ws).2 =
      .ok (.status 1) := rfl
  obtain ⟨hdefines, -, hothers, hrefuses⟩ := defineOrShow_of_spelling (κ := Empty)
    (by decide : "ll" ≠ "") hequals (by decide : "=x" ≠ "") ["-l", "a=b"] {} ws
  refine ⟨by decide, hequals, by decide, ?_, ⟨by decide, ?_⟩, hrefused, hrefuses _ hrefused⟩
  · have hspelled : ∀ words ∈ [["ll==x", "-l", "a=b"], ["ll", "=", "=x", "-l", "a=b"],
        ["ll", "==x", "-l", "a=b"]], Spelling "ll" "=x" ["-l", "a=b"] words := by
      simp only [List.forall_mem_cons, List.not_mem_nil, false_imp_iff, implies_true, and_true]
      exact ⟨.joined, .apart, .leaning⟩
    exact fun words hwords =>
      ⟨hspelled words hwords, hdefines "alias" words (hspelled words hwords)⟩
  · exact (hothers ("e", ["echo"]) 1 (by decide)).mpr rfl

end Standard

end NestedShell

import Mathlib.Data.List.TakeWhile
import NestedShell.Proofs.Ordered
import NestedShell.Standard.Aliases

/-! Alias tables as the commands `alias` and `unalias` bring them about, one call after the
other. -/
namespace NestedShell

namespace Aliases

/-- Defines what is given, if anything. -/
def enter (aliases : Aliases) : Option (String × List String) → Aliases
  | some entry => ⟨aliases.table.put entry.1 entry.2⟩
  | none => aliases

/-- Every name can be defined and is defined once, to stand for at least one word. -/
structure Regular (aliases : Aliases) : Prop where
  nodup : aliases.table.names.Nodup
  name : ∀ entry ∈ aliases.entries, entry.1 ≠ "" ∧ '=' ∉ entry.1.toList
  replacement : ∀ entry ∈ aliases.entries, entry.2 ≠ []

theorem regular_empty : Regular {} := ⟨.nil, nofun, nofun⟩

theorem Regular.put {aliases : Aliases} (h : Regular aliases) {name : String}
    {replacement : List String} (hname : name ≠ "" ∧ '=' ∉ name.toList)
    (hreplacement : replacement ≠ []) : Regular ⟨aliases.table.put name replacement⟩ := by
  constructor
  · exact Ordered.nodup_names_put h.nodup _ _
  · intro entry hentry
    rcases Ordered.mem_entries_put hentry with rfl | hentry
    · exact hname
    · exact h.name entry hentry
  · intro entry hentry
    rcases Ordered.mem_entries_put hentry with rfl | hentry
    · exact hreplacement
    · exact h.replacement entry hentry

theorem Regular.erase {aliases : Aliases} (h : Regular aliases) (name : String) :
    Regular (aliases.erase name) := by
  have hsub : ∀ entry ∈ (aliases.erase name).entries, entry ∈ aliases.entries :=
    fun _ hentry => List.mem_of_mem_filter hentry
  constructor
  · exact Ordered.nodup_names_erase h.nodup name
  · exact fun entry hentry => h.name entry (hsub entry hentry)
  · exact fun entry hentry => h.replacement entry (hsub entry hentry)

end Aliases

namespace Standard
variable {κ : Type}

/-- The alias that a statement of the command `alias` defines: none when it lists or shows, and
none when it is refused. -/
def defined? (words : List String) : Option (String × List String) :=
  match words.drop 1 with
  | [] => none
  | first :: rest =>
    if rest.isEmpty && !first.toList.contains '=' then none
    else
      let entry := definition first rest
      if entry.1.isEmpty || entry.2.isEmpty then none else some entry

/-- A name ends at the first `=`. -/
theorem toList_definition_fst (first : String) (rest : List String) :
    (definition first rest).1.toList = first.toList.takeWhile (· ≠ '=') := by
  unfold definition
  split
  · rename_i h
    have htake := List.takeWhile_append_dropWhile (p := (· ≠ '=')) (l := first.toList)
    rw [h, List.append_nil] at htake
    exact htake.symm
  · simp

theorem defined?_eq_some {words : List String} {entry : String × List String}
    (h : defined? words = some entry) : ∃ head first rest, words = head :: first :: rest ∧
      definition first rest = entry ∧ entry.1 ≠ "" ∧ entry.2 ≠ [] := by
  unfold defined? at h
  split at h
  · cases h
  · rename_i first rest hdrop
    split at h
    · cases h
    · dsimp only at h
      split at h
      · cases h
      · rename_i hne
        cases h
        simp only [Bool.or_eq_true, String.isEmpty_iff, List.isEmpty_iff, not_or] at hne
        match words, hdrop with
        | head :: _, rfl => exact ⟨head, first, rest, rfl, rfl, hne⟩

@[simp] theorem aliases_printAll (texts : List String) (ws : Workspace) :
    (ws.printAll texts).aliases = ws.aliases := by
  unfold Workspace.printAll
  induction texts generalizing ws with
  | nil => rfl
  | cons text texts ih => exact ih (ws.print text)

@[simp] theorem aliases_showAlias (name : String) (ws : Workspace) :
    (showAlias name ws).aliases = ws.aliases := by
  unfold showAlias
  split <;> rfl

theorem aliases_defineOrShow (catalog : Catalog) (args : Args) (ws : Workspace) :
    ((defineOrShow : Handler κ) catalog args ws).1.aliases =
      ws.aliases.enter (defined? args.words) := by
  unfold defineOrShow defined? Args.drop
  rcases args.words.drop 1 with _ | ⟨first, rest⟩
  · simp [Aliases.enter]
  · dsimp only
    split
    · simp [Aliases.enter]
    · unfold defineAlias Aliases.set
      dsimp only
      by_cases hname : (definition first rest).1.isEmpty
      · simp [hname, Aliases.enter, Workspace.print, Workspace.error]
      · by_cases hwords : (definition first rest).2.isEmpty
        · simp [hname, hwords, Aliases.enter, Workspace.print, Workspace.error]
        · simp [hname, hwords, Aliases.enter]

theorem aliases_unalias (catalog : Catalog) (args : Args) (ws : Workspace) :
    ((unalias : Handler κ) catalog args ws).1.aliases = ws.aliases ∨
      ∃ name, ((unalias : Handler κ) catalog args ws).1.aliases = ws.aliases.erase name := by
  unfold unalias
  split
  · exact .inl rfl
  · rename_i name _
    split
    · exact .inr ⟨name, rfl⟩
    · exact .inl rfl

end Standard

namespace Aliases
open Standard

/-- A call of one of the two commands, whatever its words. -/
inductive Call where
  | define (args : Args)
  | remove (args : Args)

def Call.run : Call → Workspace → Workspace
  | define args, ws => ((defineOrShow : Handler Empty) {} args ws).1
  | remove args, ws => ((unalias : Handler Empty) {} args ws).1

/-- The table after the calls, made in their order. -/
def after (calls : List Call) : Aliases :=
  (calls.foldl (fun ws call => call.run ws) ({} : Workspace)).aliases

theorem Regular.enter {aliases : Aliases} (h : Regular aliases) (words : List String) :
    Regular (aliases.enter (defined? words)) := by
  cases hdefined : defined? words with
  | none => exact h
  | some entry =>
    obtain ⟨head, first, rest, -, rfl, hname, hreplacement⟩ := defined?_eq_some hdefined
    refine h.put ⟨hname, ?_⟩ hreplacement
    intro hmem
    rw [toList_definition_fst] at hmem
    simpa using List.mem_takeWhile_imp hmem

theorem regular_run {ws : Workspace} (h : Regular ws.aliases) (call : Call) :
    Regular (call.run ws).aliases := by
  cases call with
  | define args =>
    rw [Call.run, aliases_defineOrShow]
    exact h.enter args.words
  | remove args =>
    rcases aliases_unalias (κ := Empty) {} args ws with hsame | ⟨name, herase⟩
    · rw [Call.run, hsame]
      exact h
    · rw [Call.run, herase]
      exact h.erase name

theorem regular_after (calls : List Call) : Regular (after calls) := by
  have hrun : ∀ ws : Workspace, Regular ws.aliases →
      Regular (calls.foldl (fun ws call => call.run ws) ws).aliases := by
    induction calls with
    | nil => exact fun ws h => h
    | cons call calls ih => exact fun ws h => ih _ (regular_run h call)
  exact hrun {} regular_empty

/-- The table that statements make of an empty one when the command `alias` runs them. -/
def rebuild (statements : List (List String)) : Aliases :=
  after (statements.map fun words => .define ⟨words⟩)

/-- The aliases that the statements define, one statement after the other. -/
def enterAll (aliases : Aliases) (statements : List (List String)) : Aliases :=
  statements.foldl (fun aliases words => aliases.enter (defined? words)) aliases

@[simp] theorem enterAll_nil (aliases : Aliases) : aliases.enterAll [] = aliases := rfl

theorem enterAll_cons (aliases : Aliases) (words : List String) (statements : List (List String)) :
    aliases.enterAll (words :: statements) = (aliases.enter (defined? words)).enterAll statements :=
  rfl

theorem aliases_after_define (statements : List (List String)) (ws : Workspace) :
    ((statements.map fun words => Call.define ⟨words⟩).foldl
        (fun ws call => call.run ws) ws).aliases =
      ws.aliases.enterAll statements := by
  induction statements generalizing ws with
  | nil => rfl
  | cons words statements ih =>
    rw [List.map_cons, List.foldl_cons, ih, Call.run, aliases_defineOrShow, enterAll_cons]

theorem size_enter (aliases : Aliases) (made : Option (String × List String)) :
    (aliases.enter made).size ≤ aliases.size ∨
      ∃ entry, made = some entry ∧ (aliases.enter made).entries = aliases.entries ++ [entry] := by
  cases made with
  | none => exact .inl (Nat.le_refl _)
  | some entry =>
    by_cases hname : entry.1 ∈ aliases.table.names
    · exact .inl (Ordered.size_put_of_mem hname entry.2).le
    · exact .inr ⟨entry, rfl, Ordered.entries_put_of_notMem hname entry.2⟩

theorem size_eq (aliases : Aliases) : aliases.size = aliases.entries.length := rfl

/-- Statements make no more aliases than there are statements, and when they make as many, each of
them has made one that was not there. -/
theorem size_enterAll (statements : List (List String)) (aliases : Aliases) :
    (aliases.enterAll statements).size < aliases.size + statements.length ∨
      ∃ entries, statements.map defined? = entries.map some ∧
        (aliases.enterAll statements).entries = aliases.entries ++ entries := by
  induction statements generalizing aliases with
  | nil => exact .inr ⟨[], rfl, by simp⟩
  | cons words statements ih =>
    rw [enterAll_cons]
    rcases size_enter aliases (defined? words) with hle | ⟨entry, hentry, hmore⟩ <;>
      rcases ih (aliases.enter (defined? words)) with hlt | ⟨entries, hmap, hentries⟩
    · refine .inl ?_
      rw [List.length_cons]
      omega
    · have hlength : statements.length = entries.length := by
        simpa using congrArg List.length hmap
      refine .inl ?_
      rw [size_eq, hentries, List.length_append, ← size_eq, List.length_cons]
      omega
    · have hsize : (aliases.enter (defined? words)).size = aliases.size + 1 := by
        rw [size_eq, hmore, List.length_append, List.length_singleton, size_eq]
      refine .inl ?_
      rw [List.length_cons]
      omega
    · refine .inr ⟨entry :: entries, by simp [hentry, hmap], ?_⟩
      rw [hentries, hmore, List.append_assoc, List.singleton_append]

theorem entries_enterAll {statements : List (List String)}
    {entries : List (String × List String)}
    (hmap : statements.map defined? = entries.map some) (aliases : Aliases)
    (hnodup : ((aliases.entries ++ entries).map Prod.fst).Nodup) :
    (aliases.enterAll statements).entries = aliases.entries ++ entries := by
  induction entries generalizing statements aliases with
  | nil =>
    rw [List.map_nil, List.map_eq_nil_iff] at hmap
    simp [hmap]
  | cons entry entries ih =>
    obtain ⟨words, statements, rfl, hentry, hmap⟩ := List.map_eq_cons_iff.mp hmap
    have hnew : entry.1 ∉ aliases.table.names := by
      intro hmem
      have hmem : entry.1 ∈ aliases.entries.map Prod.fst := hmem
      simp only [List.map_append, List.map_cons, List.nodup_append] at hnodup
      exact hnodup.2.2 _ hmem _ List.mem_cons_self rfl
    have henter : (aliases.enter (defined? words)).entries = aliases.entries ++ [entry] := by
      rw [hentry]
      exact Ordered.entries_put_of_notMem hnew entry.2
    rw [enterAll_cons, ih hmap, henter, List.append_assoc, List.singleton_append]
    rwa [henter, List.append_assoc, List.singleton_append]

theorem ext_entries {aliases other : Aliases} (h : aliases.entries = other.entries) :
    aliases = other := by
  obtain ⟨⟨entries⟩⟩ := aliases
  obtain ⟨⟨others⟩⟩ := other
  obtain rfl : entries = others := h
  rfl

/-- To make a table again with as many statements as it has aliases, each of them must define the
alias that stands in its place. -/
theorem rebuild_iff {aliases : Aliases} (h : Regular aliases) (statements : List (List String)) :
    statements.length = aliases.size ∧ rebuild statements = aliases ↔
      statements.map defined? = aliases.entries.map some := by
  have hrebuild : rebuild statements = ({} : Aliases).enterAll statements :=
    aliases_after_define statements {}
  rw [hrebuild]
  constructor
  · rintro ⟨hlength, hsame⟩
    rcases size_enterAll statements {} with hlt | ⟨entries, hmap, hentries⟩
    · rw [hsame, hlength] at hlt
      exact absurd hlt (by simp [size_eq, entries])
    · rw [hsame] at hentries
      rw [hmap, hentries]
      rfl
  · intro hmap
    refine ⟨by simpa [size_eq] using congrArg List.length hmap, ext_entries ?_⟩
    exact entries_enterAll hmap {} h.nodup

end Aliases

end NestedShell

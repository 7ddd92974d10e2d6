import Mathlib.Data.List.Perm.Subperm
import Mathlib.Data.Set.Card
import NestedShell.Aliases
import NestedShell.Proofs.Ordered

/-! The expansion of aliases against the chain of words that lead a statement one after the other.
Where the chain ends the expansion ends with it, and where it runs into a circle the expansion goes
round that circle once. -/
namespace NestedShell.Aliases

/-- A change to a table. -/
inductive Edit where
  | set (name : String) (replacement : List String)
  | erase (name : String)

def Edit.run : Edit → Aliases → Aliases
  | set name replacement, aliases => (aliases.set name replacement).1
  | erase name, aliases => aliases.erase name

/-- The table after the edits, made in their order to an empty one. -/
def edited (edits : List Edit) : Aliases := edits.foldl (fun aliases edit => edit.run aliases) {}

/-- An alias stands for at least one word. -/
def Worded (aliases : Aliases) : Prop :=
  ∀ name replacement, aliases.get? name = some replacement → replacement ≠ []

theorem Worded.run {aliases : Aliases} (h : Worded aliases) (edit : Edit) :
    Worded (edit.run aliases) := by
  cases edit with
  | set name replacement =>
    rw [Edit.run, set]
    split_ifs with hname hne
    · exact h
    · exact h
    · intro other words hwords
      have hget := Ordered.get?_put name other replacement aliases.table
      rw [get?, hget] at hwords
      split at hwords
      · cases hwords
        simpa using hne
      · exact h other words hwords
  | erase name =>
    intro other words hwords
    have hget := Ordered.get?_erase name other aliases.table
    rw [Edit.run, get?, erase, hget] at hwords
    split at hwords
    · cases hwords
    · exact h other words hwords

theorem worded_edited (edits : List Edit) : Worded (edited edits) :=
  List.foldlRecOn edits _ nofun fun _ h edit _ => h.run edit

/-- The first word of what a name stands for, if it is an alias. -/
def first? (name : String) (aliases : Aliases) : Option String :=
  (aliases.get? name).bind List.head?

/-- The words behind the first one of what a name stands for. -/
def others (aliases : Aliases) (name : String) : List String :=
  ((aliases.get? name).getD []).tail

/-- The words that follow one another at the head of a statement for as long as they are aliases. -/
def chain (head : String) (aliases : Aliases) : ℕ → Option String
  | 0 => some head
  | i + 1 => (aliases.chain head i).bind fun name => aliases.first? name

@[simp] theorem chain_zero (head : String) (aliases : Aliases) :
    aliases.chain head 0 = some head := rfl

/-- The loop that substitutes at the head of a statement, which has no bound of its own: the
aliases it replaces in their order, and the words it ends with. The first words of earlier
replacements are `seen`. It cannot go on from an alias that stands for no word. -/
inductive Loop (aliases : Aliases) :
    List String → List String → List String → List String → Prop
  | plain {seen words} (unnamed : ∀ head ∈ words.head?, aliases.get? head = none) :
    Loop aliases seen words [] words
  | circular {seen head rest first more} (named : aliases.get? head = some (first :: more))
    (again : first ∈ seen) : Loop aliases seen (head :: rest) [] (head :: rest)
  | substitute {seen head rest first more names result}
    (named : aliases.get? head = some (first :: more)) (new : first ∉ seen)
    (tail : Loop aliases (first :: seen) (first :: (more ++ rest)) names result) :
    Loop aliases seen (head :: rest) (head :: names) result

variable {aliases : Aliases}

theorem first?_eq_some {name first : String} :
    aliases.first? name = some first ↔ ∃ more, aliases.get? name = some (first :: more) := by
  simp [first?, Option.bind_eq_some_iff, List.head?_eq_some_iff]

theorem first?_eq_none (h : Worded aliases) {name : String} :
    aliases.first? name = none ↔ aliases.get? name = none := by
  simp only [first?, Option.bind_eq_none_iff, List.head?_eq_none_iff]
  constructor
  · intro hempty
    by_contra hsome
    obtain ⟨words, hwords⟩ := Option.ne_none_iff_exists'.mp hsome
    exact h name words hwords (hempty words hwords)
  · intro hnone words hwords
    rw [hnone] at hwords
    cases hwords

/-- Where the loop ends, it ends in one way. -/
theorem Loop.unique {seen words names names' result result' : List String}
    (h : Loop aliases seen words names result) (h' : Loop aliases seen words names' result') :
    names = names' ∧ result = result' := by
  induction h generalizing names' result' with
  | plain unnamed =>
    cases h' with
    | plain => exact ⟨rfl, rfl⟩
    | circular named =>
      rw [unnamed _ rfl] at named
      cases named
    | substitute named =>
      rw [unnamed _ rfl] at named
      cases named
  | circular named again =>
    cases h' with
    | plain unnamed =>
      rw [unnamed _ rfl] at named
      cases named
    | circular => exact ⟨rfl, rfl⟩
    | substitute named' new =>
      rw [named] at named'
      cases named'
      exact absurd again new
  | substitute named new _ ih =>
    cases h' with
    | plain unnamed =>
      rw [unnamed _ rfl] at named
      cases named
    | circular named' again =>
      rw [named] at named'
      cases named'
      exact absurd again new
    | substitute named' _ tail =>
      rw [named] at named'
      cases named'
      obtain ⟨rfl, rfl⟩ := ih tail
      exact ⟨rfl, rfl⟩

/-- There is no more room in a table for aliases that begin with different words than the table has
aliases. -/
theorem length_le_size {names firsts : List String}
    (hfirsts : names.map aliases.first? = firsts.map some) (hnodup : firsts.Nodup) :
    names.Nodup ∧ names.length ≤ aliases.size := by
  have hnames : names.Nodup := by
    refine List.Nodup.of_map aliases.first? ?_
    rw [hfirsts]
    exact hnodup.map (Option.some_injective String)
  refine ⟨hnames, ?_⟩
  have hsub : names ⊆ aliases.table.names := by
    intro name hname
    have hmem : aliases.first? name ∈ firsts.map some := hfirsts ▸ List.mem_map_of_mem hname
    obtain ⟨first, -, hfirst⟩ := List.mem_map.mp hmem
    obtain ⟨more, hget⟩ := first?_eq_some.mp hfirst.symm
    exact Ordered.mem_names_of_get? hget
  simpa [Ordered.names, size, Ordered.size] using (List.subperm_of_subset hnames hsub).length_le

/-- A statement begins with no alias, or with one that stands for at least one word. -/
theorem Worded.head_cases (h : Worded aliases) (words : List String) :
    (∀ head ∈ words.head?, aliases.get? head = none) ∨ ∃ head rest first more,
      words = head :: rest ∧ aliases.get? head = some (first :: more) := by
  cases words with
  | nil => exact .inl nofun
  | cons head rest =>
    rcases hget : aliases.get? head with _ | replacement
    · exact .inl fun _ hhead => by
        cases hhead
        exact hget
    · obtain ⟨first, more, rfl⟩ := List.exists_cons_of_ne_nil (h head _ hget)
      exact .inr ⟨head, rest, first, more, rfl, hget⟩

theorem expandFrom_of_unnamed {words : List String}
    (h : ∀ head ∈ words.head?, aliases.get? head = none) (limit : ℕ) (seen : List String) :
    aliases.expandFrom limit seen words = words := by
  cases limit with
  | zero => rfl
  | succ limit =>
    cases words with
    | nil => rfl
    | cons head rest => simp only [expandFrom, h head rfl]

theorem expandFrom_of_mem {head first : String} {more seen : List String}
    (h : aliases.get? head = some (first :: more)) (hseen : first ∈ seen) (limit : ℕ)
    (rest : List String) : aliases.expandFrom limit seen (head :: rest) = head :: rest := by
  cases limit with
  | zero => rfl
  | succ limit => simp only [expandFrom, h, List.contains_iff_mem, hseen, if_true]

theorem expandFrom_of_notMem {head first : String} {more seen : List String}
    (h : aliases.get? head = some (first :: more)) (hseen : first ∉ seen) (limit : ℕ)
    (rest : List String) : aliases.expandFrom (limit + 1) seen (head :: rest) =
      aliases.expandFrom limit (first :: seen) (first :: (more ++ rest)) := by
  simp only [expandFrom, h, List.contains_iff_mem, hseen, if_false, List.cons_append]

/-- The bounded loop does what the loop does, as long as its limit leaves room for all aliases but
those in `done`, which have been substituted before. -/
theorem exists_loop (h : Worded aliases) {limit : ℕ} {seen done : List String}
    (hdone : done.map aliases.first? = seen.map some) (hnodup : seen.Nodup)
    (hroom : aliases.size ≤ limit + done.length) (words : List String) :
    ∃ names, Loop aliases seen words names (aliases.expandFrom limit seen words) := by
  induction limit generalizing seen done words with
  | zero =>
    rcases h.head_cases words with hnone | ⟨head, rest, first, more, rfl, hget⟩
    · exact ⟨[], .plain hnone⟩
    · refine ⟨[], .circular hget ?_⟩
      -- Another substitution would be one more than there are aliases.
      by_contra hnew
      have hmore : (head :: done).map aliases.first? = (first :: seen).map some := by
        rw [List.map_cons, List.map_cons, hdone, first?_eq_some.mpr ⟨more, hget⟩]
      obtain ⟨-, hlength⟩ := length_le_size hmore (List.nodup_cons.mpr ⟨hnew, hnodup⟩)
      rw [List.length_cons] at hlength
      omega
  | succ limit ih =>
    rcases h.head_cases words with hnone | ⟨head, rest, first, more, rfl, hget⟩
    · rw [expandFrom_of_unnamed hnone]
      exact ⟨[], .plain hnone⟩
    · by_cases hseen : first ∈ seen
      · rw [expandFrom_of_mem hget hseen]
        exact ⟨[], .circular hget hseen⟩
      · have hmore : (head :: done).map aliases.first? = (first :: seen).map some := by
          rw [List.map_cons, List.map_cons, hdone, first?_eq_some.mpr ⟨more, hget⟩]
        obtain ⟨names, hloop⟩ := ih hmore (List.nodup_cons.mpr ⟨hseen, hnodup⟩)
          (by rw [List.length_cons]; omega) (first :: (more ++ rest))
        rw [expandFrom_of_notMem hget hseen]
        exact ⟨head :: names, .substitute hget hseen hloop⟩

/-- What is behind an alias is led by the first word of its replacement. -/
theorem chain_succ_of_first? {head first : String} (h : aliases.first? head = some first) (i : ℕ) :
    aliases.chain head (i + 1) = aliases.chain first i := by
  induction i with
  | zero => exact h
  | succ i ih => rw [chain, ih, chain]

/-- A loop along the chain of a word: what it substitutes, the first words that take the place of
that, and the word it stops at. -/
structure Follows (aliases : Aliases) (seen : List String) (head : String) (rest : List String)
    (names firsts : List String) (last : String) (result : List String) : Prop where
  names_eq : names.map some = (List.range names.length).map (aliases.chain head)
  firsts_eq : firsts.map some = (List.range names.length).map fun i => aliases.chain head (i + 1)
  last_eq : aliases.chain head names.length = some last
  result_eq : result = last :: (names.reverse.flatMap aliases.others ++ rest)
  nodup : firsts.Nodup
  new : ∀ first ∈ firsts, first ∉ seen
  stops : ∀ first, aliases.first? last = some first → first ∈ firsts ∨ first ∈ seen

theorem Loop.follows {seen names result rest : List String} {head : String}
    (h : Loop aliases seen (head :: rest) names result) :
    ∃ firsts last, Follows aliases seen head rest names firsts last result := by
  generalize hwords : head :: rest = words at h
  induction h generalizing head rest with
  | plain unnamed =>
    subst hwords
    refine ⟨[], head, rfl, rfl, rfl, rfl, .nil, nofun, fun first hfirst => ?_⟩
    obtain ⟨more, hget⟩ := first?_eq_some.mp hfirst
    cases hget.symm.trans (unnamed head rfl)
  | @circular _ head _ _ _ named again =>
    cases hwords
    refine ⟨[], head, rfl, rfl, rfl, rfl, .nil, nofun, fun first hfirst => .inr ?_⟩
    obtain ⟨more, hget⟩ := first?_eq_some.mp hfirst
    cases hget.symm.trans named
    exact again
  | @substitute _ head _ first more names _ named new _ ih =>
    cases hwords
    obtain ⟨firsts, last, h⟩ := ih rfl
    have hfirst : aliases.first? head = some first := first?_eq_some.mpr ⟨more, named⟩
    have hchain : ∀ i, aliases.chain head (i + 1) = aliases.chain first i :=
      chain_succ_of_first? hfirst
    have hothers : aliases.others head = more := by simp [others, named]
    refine ⟨first :: firsts, last, ?_, ?_, ?_, ?_, ?_, ?_, ?_⟩
    · simp [List.range_succ_eq_map, Function.comp_def, hchain, h.names_eq]
    · simp [List.range_succ_eq_map, Function.comp_def, hchain, h.firsts_eq]
    · rw [List.length_cons, hchain, h.last_eq]
    · simp [h.result_eq, hothers]
    · exact List.nodup_cons.mpr ⟨fun hmem => h.new first hmem List.mem_cons_self, h.nodup⟩
    · intro word hword
      rcases List.mem_cons.mp hword with rfl | hword
      · exact new
      · exact fun hseen => h.new word hword (List.mem_cons_of_mem first hseen)
    · intro word hword
      rcases h.stops word hword with hmem | hmem
      · exact .inl (List.mem_cons_of_mem first hmem)
      · rcases List.mem_cons.mp hmem with rfl | hmem
        · exact .inl List.mem_cons_self
        · exact .inr hmem

namespace Follows
variable {seen rest names firsts result : List String} {head last : String}

theorem length_eq (h : Follows aliases seen head rest names firsts last result) :
    firsts.length = names.length := by
  simpa using congrArg List.length h.firsts_eq

theorem map_first? (h : Follows aliases seen head rest names firsts last result) :
    names.map aliases.first? = firsts.map some := by
  have hnames := congrArg (List.map fun word : Option String => word.bind aliases.first?) h.names_eq
  rw [h.firsts_eq]
  simpa [Function.comp_def, chain] using hnames

theorem mem_of_lt (h : Follows aliases seen head rest names firsts last result) {i : ℕ}
    (hi : i < names.length) : ∃ first ∈ firsts, aliases.chain head (i + 1) = some first := by
  have hmem : aliases.chain head (i + 1) ∈ firsts.map some := by
    rw [h.firsts_eq]
    exact List.mem_map.mpr ⟨i, List.mem_range.mpr hi, rfl⟩
  obtain ⟨first, hfirst, heq⟩ := List.mem_map.mp hmem
  exact ⟨first, hfirst, heq.symm⟩

theorem exists_of_mem (h : Follows aliases seen head rest names firsts last result) {first : String}
    (hfirst : first ∈ firsts) : ∃ i < names.length, aliases.chain head (i + 1) = some first := by
  have hmem : some first ∈ firsts.map some := List.mem_map_of_mem hfirst
  rw [h.firsts_eq] at hmem
  obtain ⟨i, hi, heq⟩ := List.mem_map.mp hmem
  exact ⟨i, List.mem_range.mp hi, heq⟩

/-- Up to the word the loop stops at, what is not that word is an alias. -/
theorem last_or_first? (h : Follows aliases seen head rest names firsts last result) {i : ℕ}
    (hi : i ≤ names.length) {word : String} (hword : aliases.chain head i = some word) :
    word = last ∨ ∃ first ∈ firsts, aliases.first? word = some first := by
  rcases hi.lt_or_eq with hlt | rfl
  · obtain ⟨first, hfirst, hnext⟩ := h.mem_of_lt hlt
    rw [chain, hword] at hnext
    exact .inr ⟨first, hfirst, hnext⟩
  · exact .inl (Option.some.inj (hword.symm.trans h.last_eq))

/-- Nothing is on the chain that the loop has not come by. -/
theorem mem_of_chain (h : Follows aliases [] head rest names firsts last result) {i : ℕ}
    {first : String} (hfirst : aliases.chain head (i + 1) = some first) : first ∈ firsts := by
  have hnext : ∀ {j word first}, j ≤ names.length → aliases.chain head j = some word →
      aliases.first? word = some first → first ∈ firsts := by
    intro j word first hj hword hfirst
    rcases h.last_or_first? hj hword with rfl | ⟨other, hother, heq⟩
    · exact (h.stops first hfirst).resolve_right List.not_mem_nil
    · rw [hfirst] at heq
      cases heq
      exact hother
  induction i generalizing first with
  | zero => exact hnext (Nat.zero_le _) rfl hfirst
  | succ i ih =>
    rw [chain] at hfirst
    obtain ⟨word, hword, hfirst⟩ := Option.bind_eq_some_iff.mp hfirst
    obtain ⟨j, hj, heq⟩ := h.exists_of_mem (ih hword)
    exact hnext hj heq hfirst

theorem encard_eq (h : Follows aliases [] head rest names firsts last result) :
    {word | ∃ i, aliases.chain head (i + 1) = some word}.encard = names.length := by
  have hset : {word | ∃ i, aliases.chain head (i + 1) = some word} = ↑firsts.toFinset := by
    ext word
    simp only [List.coe_toFinset, Set.mem_ofPred_eq]
    constructor
    · rintro ⟨i, hi⟩
      exact h.mem_of_chain hi
    · intro hword
      obtain ⟨i, -, hi⟩ := h.exists_of_mem hword
      exact ⟨i, hi⟩
  rw [hset, Set.encard_coe_eq_coe_finsetCard, List.toFinset_card_of_nodup h.nodup, h.length_eq]

/-- A word of the chain that is no alias is the one the loop stops at. -/
theorem last_of_get?_eq_none (h : Follows aliases [] head rest names firsts last result) {i : ℕ}
    {word : String} (hword : aliases.chain head i = some word) (hnone : aliases.get? word = none) :
    last = word := by
  obtain ⟨j, hj, hword⟩ : ∃ j ≤ names.length, aliases.chain head j = some word := by
    cases i with
    | zero => exact ⟨0, Nat.zero_le _, hword⟩
    | succ i =>
      obtain ⟨j, hj, heq⟩ := h.exists_of_mem (h.mem_of_chain hword)
      exact ⟨j + 1, hj, heq⟩
  rcases h.last_or_first? hj hword with rfl | ⟨first, -, hfirst⟩
  · rfl
  · obtain ⟨more, hget⟩ := first?_eq_some.mp hfirst
    cases hnone.symm.trans hget

/-- Where the word the loop stops at is an alias, what it stands for begins with a word that the
loop has come by. -/
theorem exists_again (h : Follows aliases [] head rest names firsts last result)
    (hworded : Worded aliases) (hlast : aliases.get? last ≠ none) :
    ∃ i < names.length,
      aliases.chain head (names.length + 1) = aliases.chain head (i + 1) := by
  rw [ne_eq, ← first?_eq_none hworded] at hlast
  obtain ⟨first, hfirst⟩ := Option.ne_none_iff_exists'.mp hlast
  have hmem : first ∈ firsts := (h.stops first hfirst).resolve_right List.not_mem_nil
  obtain ⟨i, hi, heq⟩ := h.exists_of_mem hmem
  refine ⟨i, hi, ?_⟩
  rw [heq, chain, h.last_eq]
  exact hfirst

end Follows

/-- What becomes of a statement with the first word `head`: the loop substitutes `names`, one after
the other, and leaves `last` at the head. -/
structure Expands (aliases : Aliases) (head : String) (rest names : List String) (last : String) :
    Prop where
  loop : ∀ names' result, Loop aliases [] (head :: rest) names' result ↔
    names' = names ∧ result = aliases.expand (head :: rest)
  count : {word | ∃ i, aliases.chain head (i + 1) = some word}.encard = names.length
  nodup : names.Nodup
  length_le : names.length ≤ aliases.size
  names_eq : names.map some = (List.range names.length).map (aliases.chain head)
  last_eq : aliases.chain head names.length = some last
  expand_eq : aliases.expand (head :: rest) =
    last :: (names.reverse.flatMap aliases.others ++ rest)
  ends : ∀ i word, aliases.chain head i = some word → aliases.get? word = none → last = word
  circles : (∀ i word, aliases.chain head i = some word → aliases.get? word ≠ none) →
    ∃ i < names.length, aliases.chain head (names.length + 1) = aliases.chain head (i + 1)

theorem Worded.exists_expands (h : Worded aliases) (head : String) (rest : List String) :
    ∃ names last, Expands aliases head rest names last := by
  obtain ⟨names, hloop⟩ : ∃ names,
      Loop aliases [] (head :: rest) names (aliases.expand (head :: rest)) :=
    exists_loop h List.map_nil .nil (Nat.le_refl _) (head :: rest)
  obtain ⟨firsts, last, hfollows⟩ := hloop.follows
  obtain ⟨hnodup, hlength⟩ := length_le_size hfollows.map_first? hfollows.nodup
  refine ⟨names, last, ?_, hfollows.encard_eq, hnodup, hlength, hfollows.names_eq,
    hfollows.last_eq, hfollows.result_eq, fun i word => hfollows.last_of_get?_eq_none, ?_⟩
  · intro names' result
    constructor
    · exact fun h' => h'.unique hloop
    · rintro ⟨rfl, rfl⟩
      exact hloop
  · exact fun hnamed => hfollows.exists_again h (hnamed _ last hfollows.last_eq)

theorem expand_of_unnamed {words : List String}
    (h : ∀ head ∈ words.head?, aliases.get? head = none) : aliases.expand words = words :=
  expandFrom_of_unnamed h aliases.size []

/-- Whatever has been done to a table, no alias in it is without a first word, and the expansion of
a statement comes to an end. It substitutes the aliases along the chain of the first word, each of
them once and as many as there are different words behind it on the chain; the words that come with
them stand behind the head with the last ones first, and those of the statement behind these. It
ends at the word that is no alias or, where there is none on the chain, before it would come to a
first word again. A statement that begins with no alias stays as it is. -/
theorem expand_along_chain (edits : List Edit) :
    let aliases := edited edits
    (∀ name replacement, aliases.get? name = some replacement → replacement ≠ []) ∧
    (∀ words : List String, (∀ head ∈ words.head?, aliases.get? head = none) →
      aliases.expand words = words) ∧
    (∀ words, words ≠ [] → aliases.expand words ≠ []) ∧
    ∀ head rest, ∃ names last, Expands aliases head rest names last := by
  intro aliases
  have hworded : Worded aliases := worded_edited edits
  refine ⟨hworded, fun words => expand_of_unnamed, fun words hne => ?_, hworded.exists_expands⟩
  obtain ⟨head, rest, rfl⟩ := List.exists_cons_of_ne_nil hne
  obtain ⟨names, last, h⟩ := hworded.exists_expands head rest
  rw [h.expand_eq]
  exact List.cons_ne_nil _ _

/-- A chain that runs into a circle behind its first word goes round it once. -/
example : (edited [.set "a" ["b", "1"], .set "b" ["c", "2"], .set "c" ["b", "3"]]).expand
    ["a", "x"] = ["c", "2", "1", "x"] := by
  decide

end NestedShell.Aliases

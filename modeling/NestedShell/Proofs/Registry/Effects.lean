import Mathlib.Data.List.Induction
import Mathlib.Data.Nat.Find
import Mathlib.Order.Bounds.Basic
import NestedShell.Proofs.Registry.History

/-! What a registry owes to its history: each name stands for the command it was last given, as
that command was then, and the names stand in the order in which they arrived. -/
namespace NestedShell
open Standard
variable {κ : Type}

namespace Registry

/-- What an operation comes to. -/
inductive Effect (κ : Type) where
  | refused (e : RegistryError)
  | enters (name : String) (command : Command κ)
  | frees (name : String)

/-- The name that is no longer what it was. -/
def Effect.name? : Effect κ → Option String
  | refused _ => none
  | enters name _ => some name
  | frees name => some name

/-- A command is registered under its own name and with a number of its own; what is bound is a
copy of what the other name stands for at the time. -/
def Operation.effect (r : Registry κ) : Operation κ → Effect κ
  | register name usage handler =>
    if isReserved name then .refused (.reservedName name)
    else if usage.toList.all Text.isBlank then .refused (.missingUsage name)
    else .enters name ⟨⟨name, name, usage, r.issued⟩, handler⟩
  | bind name existing =>
    if isReserved name then .refused (.reservedName name)
    else match r.lookup existing with
      | none => .refused (.unknown existing)
      | some command => .enters name { command with name }
  | erase name => .frees name

/-- The effects of operations, each on the registry as it is when its turn comes. -/
def effects (r : Registry κ) : List (Operation κ) → List (Effect κ)
  | [] => []
  | operation :: rest => operation.effect r :: effects (operation.run r) rest

/-- All effects behind the one at `i` are such. -/
def Since (log : List (Effect κ)) (i : ℕ) (such : Effect κ → Prop) : Prop :=
  ∀ j x, i < j → log[j]? = some x → such x

/-- The last effect on the name has been to enter the command. -/
def Holds (log : List (Effect κ)) (name : String) (c : Command κ) : Prop :=
  ∃ i, log[i]? = some (Effect.enters name c) ∧ Since log i fun x => x.name? ≠ some name

/-- The name has been entered at `i`, and has not been freed since. -/
def Stays (log : List (Effect κ)) (name : String) (i : ℕ) : Prop :=
  (∃ c, log[i]? = some (Effect.enters name c)) ∧ Since log i fun x => x ≠ .frees name

/-- The name has been entered at `i` for the first time since it was last freed. -/
def ArrivesAt (log : List (Effect κ)) (name : String) (i : ℕ) : Prop :=
  IsLeast {i | Stays log name i} i

/-- What a registry tells of its log. -/
structure Recounts (log : List (Effect κ)) (r : Registry κ) : Prop where
  lookup_iff : ∀ name c, r.lookup name = some c ↔ Holds log name c
  mem_iff : ∀ name, name ∈ r.allNames ↔ ∃ i, ArrivesAt log name i
  order : r.allNames.Pairwise fun a b => ∃ i j, ArrivesAt log a i ∧ ArrivesAt log b j ∧ i < j

/-- What each kind of effect does to the commands; nothing but an effect changes them. -/
theorem run_effect (operation : Operation κ) (r : Registry κ) :
    match operation.effect r with
    | .refused _ => operation.run r = r
    | .enters name c =>
      isReserved name = false ∧ (operation.run r).commands = r.commands.put name c
    | .frees name => (operation.run r).commands = r.commands.erase name := by
  rw [Operation.run]
  cases operation with
  | register name usage handler =>
    simp only [Operation.effect, Operation.attempt, register]
    split_ifs with hreserved hblank
    · rfl
    · rfl
    · exact ⟨Bool.eq_false_iff.mpr hreserved, rfl⟩
  | bind name existing =>
    simp only [Operation.effect, Operation.attempt, bind]
    split_ifs with hreserved
    · rfl
    · cases hexisting : r.lookup existing with
      | none => rfl
      | some c => exact ⟨Bool.eq_false_iff.mpr hreserved, rfl⟩
  | erase name => rfl

theorem effects_concat (r : Registry κ) (operations : List (Operation κ))
    (operation : Operation κ) : effects r (operations ++ [operation]) =
      effects r operations ++ [operation.effect (operations.foldl (fun r o => o.run r) r)] := by
  induction operations generalizing r with
  | nil => rfl
  | cons first rest ih => simp [effects, ih]

theorem isReserved_of_mem_effects {r : Registry κ} {operations : List (Operation κ)}
    {name : String} {c : Command κ} (h : .enters name c ∈ effects r operations) :
    isReserved name = false := by
  induction operations generalizing r with
  | nil => simp [effects] at h
  | cons operation rest ih =>
    rcases List.mem_cons.mp h with h | h
    · have hrun := run_effect operation r
      rw [← h] at hrun
      exact hrun.1
    · exact ih h

section
variable {log : List (Effect κ)} {x : Effect κ} {name : String} {c : Command κ} {i : ℕ}

theorem getElem?_concat_eq_some {y : Effect κ} : (log ++ [x])[i]? = some y ↔
    log[i]? = some y ∨ (i = log.length ∧ x = y) := by
  rcases Nat.lt_trichotomy i log.length with hi | rfl | hi
  · simp [List.getElem?_append_left hi, hi.ne]
  · simp
  · have hnone : (log ++ [x])[i]? = none := List.getElem?_eq_none (by simp; omega)
    simp [hnone, List.getElem?_eq_none hi.le, hi.ne']

theorem lt_of_getElem? {y : Effect κ} (h : log[i]? = some y) : i < log.length :=
  (List.getElem?_eq_some_iff.mp h).1

theorem since_concat {such : Effect κ → Prop} :
    Since (log ++ [x]) i such ↔ Since log i such ∧ (i < log.length → such x) := by
  constructor
  · intro h
    refine ⟨fun j y hij hj => h j y hij (getElem?_concat_eq_some.mpr (.inl hj)), fun hi => ?_⟩
    exact h log.length x hi (getElem?_concat_eq_some.mpr (.inr ⟨rfl, rfl⟩))
  · rintro ⟨hlog, hx⟩ j y hij hj
    rcases getElem?_concat_eq_some.mp hj with hj | ⟨rfl, rfl⟩
    · exact hlog j y hij hj
    · exact hx hij

/-- Behind the end of the log there is nothing. -/
theorem since_length (such : Effect κ → Prop) : Since log log.length such :=
  fun _ _ hij hj => absurd (lt_of_getElem? hj) (by omega)

theorem holds_concat : Holds (log ++ [x]) name c ↔
    x = .enters name c ∨ (x.name? ≠ some name ∧ Holds log name c) := by
  simp only [Holds, getElem?_concat_eq_some, since_concat]
  constructor
  · rintro ⟨i, hi | ⟨-, hx⟩, hsince, hlast⟩
    · exact .inr ⟨hlast (lt_of_getElem? hi), i, hi, hsince⟩
    · exact .inl hx
  · rintro (hx | ⟨hx, i, hi, hsince⟩)
    · exact ⟨log.length, .inr ⟨rfl, hx⟩, since_length _, fun h => absurd h (lt_irrefl _)⟩
    · exact ⟨i, .inl hi, hsince, fun _ => hx⟩

theorem stays_concat : Stays (log ++ [x]) name i ↔
    (x ≠ .frees name ∧ Stays log name i) ∨ (i = log.length ∧ ∃ c, x = .enters name c) := by
  simp only [Stays, getElem?_concat_eq_some, since_concat]
  constructor
  · rintro ⟨⟨c, hi | ⟨rfl, hx⟩⟩, hsince, hlast⟩
    · exact .inl ⟨hlast (lt_of_getElem? hi), ⟨c, hi⟩, hsince⟩
    · exact .inr ⟨rfl, c, hx⟩
  · rintro (⟨hx, ⟨c, hi⟩, hsince⟩ | ⟨rfl, c, hx⟩)
    · exact ⟨⟨c, .inl hi⟩, hsince, fun _ => hx⟩
    · exact ⟨⟨c, .inr ⟨rfl, hx⟩⟩, since_length _, fun h => absurd h (lt_irrefl _)⟩

theorem Stays.lt (h : Stays log name i) : i < log.length := by
  obtain ⟨c, hi⟩ := h.1
  exact lt_of_getElem? hi

theorem exists_arrivesAt_iff : (∃ i, ArrivesAt log name i) ↔ ∃ i, Stays log name i := by
  classical
  exact ⟨fun ⟨i, hi⟩ => ⟨i, hi.1⟩,
    fun h => ⟨Nat.find h, Nat.find_spec h, fun _ hj => Nat.find_min' h hj⟩⟩

/-- A name that is there has come at the time at which it came, whatever else is done. -/
theorem ArrivesAt.concat (h : ArrivesAt log name i) (hx : x ≠ .frees name) :
    ArrivesAt (log ++ [x]) name i := by
  refine ⟨stays_concat.mpr (.inl ⟨hx, h.1⟩), fun j hj => ?_⟩
  rcases stays_concat.mp hj with ⟨-, hj⟩ | ⟨rfl, -⟩
  · exact h.2 hj
  · exact h.1.lt.le

theorem arrivesAt_length (hnew : ¬∃ i, Stays log name i) :
    ArrivesAt (log ++ [.enters name c]) name log.length := by
  refine ⟨stays_concat.mpr (.inr ⟨rfl, c, rfl⟩), fun j hj => ?_⟩
  rcases stays_concat.mp hj with ⟨-, hj⟩ | ⟨rfl, -⟩
  · exact absurd ⟨j, hj⟩ hnew
  · exact le_rfl

end

namespace Recounts
variable {log : List (Effect κ)} {r s : Registry κ} (h : Recounts log r)
include h

theorem mem_iff_stays {name : String} : name ∈ r.allNames ↔ ∃ i, Stays log name i :=
  (h.mem_iff name).trans exists_arrivesAt_iff

/-- The names that have not been freed stand in the order in which they stood. -/
theorem order_concat {x : Effect κ} {names : List String} (hnames : names.Sublist r.allNames)
    (hx : ∀ name ∈ names, x ≠ .frees name) : names.Pairwise fun a b =>
      ∃ i j, ArrivesAt (log ++ [x]) a i ∧ ArrivesAt (log ++ [x]) b j ∧ i < j := by
  refine (h.order.sublist hnames).imp_of_mem ?_
  rintro a b ha hb ⟨i, j, hi, hj, hij⟩
  exact ⟨i, j, hi.concat (hx a ha), hj.concat (hx b hb), hij⟩

theorem refused (e : RegistryError) : Recounts (log ++ [.refused e]) r := by
  refine ⟨fun name c => ?_, fun name => ?_, h.order_concat (.refl _) nofun⟩
  · rw [h.lookup_iff, holds_concat]
    simp [Effect.name?]
  · rw [h.mem_iff_stays, exists_arrivesAt_iff]
    simp [stays_concat]

theorem frees {name : String} (hs : s.commands = r.commands.erase name) :
    Recounts (log ++ [.frees name]) s := by
  have hlookup (other : String) :
      s.lookup other = if other = name then none else r.lookup other := by
    rw [lookup, hs, Ordered.get?_erase, lookup]
  have hnames : s.allNames = r.allNames.filter (· ≠ name) := by
    rw [allNames, hs, Ordered.names_erase, allNames]
  refine ⟨fun other c => ?_, fun other => ?_, ?_⟩
  · rw [hlookup, holds_concat, ← h.lookup_iff]
    by_cases hother : other = name
    · simp [Effect.name?, hother]
    · simp [Effect.name?, hother, Ne.symm hother]
  · rw [hnames, List.mem_filter, h.mem_iff_stays, exists_arrivesAt_iff]
    by_cases hother : other = name
    · simp [stays_concat, hother]
    · simp [stays_concat, hother, Ne.symm hother]
  · rw [hnames]
    refine h.order_concat List.filter_sublist fun other hother hx => ?_
    cases hx
    simp at hother

theorem enters {name : String} {c : Command κ} (hs : s.commands = r.commands.put name c) :
    Recounts (log ++ [.enters name c]) s := by
  have hlookup (other : String) :
      s.lookup other = if other = name then some c else r.lookup other := by
    rw [lookup, hs, Ordered.get?_put, lookup]
  have hnames : s.allNames = if name ∈ r.allNames then r.allNames else r.allNames ++ [name] := by
    rw [allNames, hs, Ordered.names_put, allNames]
  have hstays (other : String) : (∃ i, Stays (log ++ [.enters name c]) other i) ↔
      other ∈ r.allNames ∨ other = name := by
    rw [h.mem_iff_stays]
    constructor
    · rintro ⟨i, hi⟩
      rcases stays_concat.mp hi with ⟨-, hi⟩ | ⟨-, d, hd⟩
      · exact .inl ⟨i, hi⟩
      · exact .inr (Effect.enters.inj hd).1.symm
    · rintro (⟨i, hi⟩ | rfl)
      · exact ⟨i, stays_concat.mpr (.inl ⟨nofun, hi⟩)⟩
      · exact ⟨log.length, stays_concat.mpr (.inr ⟨rfl, c, rfl⟩)⟩
  refine ⟨fun other d => ?_, fun other => ?_, ?_⟩
  · rw [hlookup, holds_concat, ← h.lookup_iff]
    by_cases hother : other = name
    · simp [Effect.name?, hother]
    · simp [Effect.name?, hother, Ne.symm hother]
  · rw [hnames, exists_arrivesAt_iff, hstays]
    split <;> simp_all
  · rw [hnames]
    split
    · exact h.order_concat (.refl _) nofun
    · -- The name is new, so it arrives with this effect, behind all that are there.
      rename_i hnew
      have hlast : ArrivesAt (log ++ [.enters name c]) name log.length :=
        arrivesAt_length (h.mem_iff_stays.not.mp hnew)
      refine List.pairwise_append.mpr
        ⟨h.order_concat (.refl _) nofun, List.pairwise_singleton _ _, fun a ha b hb => ?_⟩
      obtain ⟨i, hi⟩ := (h.mem_iff a).mp ha
      rw [List.mem_singleton.mp hb]
      exact ⟨i, log.length, hi.concat nofun, hlast, hi.1.lt⟩

end Recounts

theorem recounts_empty : Recounts [] ({} : Registry κ) := by
  refine ⟨fun name c => ?_, fun name => ?_, .nil⟩
  · simp [Holds, lookup, Ordered.get?]
  · rw [exists_arrivesAt_iff]
    simp [Stays, allNames, Ordered.names]

theorem recounts_effects (operations : List (Operation κ)) :
    Recounts (effects {} operations) (operations.foldl (fun r o => o.run r) {}) := by
  induction operations using List.reverseRecOn with
  | nil => exact recounts_empty
  | append_singleton operations operation ih =>
    rw [effects_concat, List.foldl_append, List.foldl_cons, List.foldl_nil]
    have hrun := run_effect operation (operations.foldl (fun r o => o.run r) {})
    cases heffect : operation.effect (operations.foldl (fun r o => o.run r) {}) with
    | refused e =>
      rw [heffect] at hrun
      rw [hrun]
      exact ih.refused e
    | enters name c =>
      rw [heffect] at hrun
      exact ih.enters hrun.2
    | frees name =>
      rw [heffect] at hrun
      exact ih.frees hrun

/-- The standard commands with their usage texts, in order. -/
def standardCommands (host : Host) : List (String × String × Handler κ) := [
  ("echo", echoSignature.help "echo", echo),
  ("printenv", printenvSignature.help "printenv", printenv),
  ("export", exportUsage, exportAll),
  ("unset", unsetUsage, unset),
  ("setenv", setenvSignature.help "setenv", setenv),
  ("help", helpSignature.help "help", help),
  ("alias", aliasUsage, defineOrShow),
  ("unalias", unaliasUsage, unalias),
  ("exit", exitUsage, exit),
  ("pipe", pipeUsage, pipe host),
  ("spawn", spawnUsage, spawn host)]

/-- The operations by which an origin comes about. -/
def Origin.operations : Origin → List (Operation κ)
  | empty => []
  | standard host => (standardCommands host).map fun c => .register c.1 c.2.1 c.2.2

/-- Commands that may be registered are installed, one after the other. -/
theorem foldl_register {commands : List (String × String × Handler κ)}
    (h : ∀ c ∈ commands, isReserved c.1 = false ∧ c.2.1.toList.all Text.isBlank = false)
    (r : Registry κ) :
    (commands.map fun c => Operation.register c.1 c.2.1 c.2.2).foldl (fun r o => o.run r) r =
      commands.foldl (fun r c => r.install c.1 c.2.1 c.2.2) r := by
  induction commands generalizing r with
  | nil => rfl
  | cons c rest ih =>
    obtain ⟨hname, husage⟩ := h c (by simp)
    have hfirst : (Operation.register c.1 c.2.1 c.2.2).run r = r.install c.1 c.2.1 c.2.2 := by
      simp [Operation.run, Operation.attempt, register, hname, husage]
    rw [List.map_cons, List.foldl_cons, List.foldl_cons, hfirst]
    exact ih (fun d hd => h d (List.mem_cons_of_mem c hd)) _

/-- What begins with something is not blank. -/
theorem all_isBlank_append {text : String} (h : text.toList.all Text.isBlank = false)
    (more : String) : (text ++ more).toList.all Text.isBlank = false := by
  rw [String.toList_append, List.all_append, h, Bool.false_and]

theorem all_isBlank_help (sig : Options.Signature) (name : String) :
    (sig.help name).toList.all Text.isBlank = false := by
  unfold Options.Signature.help
  iterate 8 refine all_isBlank_append ?_ _
  decide

theorem usage_standardCommands (host : Host) :
    ∀ c ∈ (standardCommands host : List (String × String × Handler κ)),
      isReserved c.1 = false ∧ c.2.1.toList.all Text.isBlank = false := by
  simp only [standardCommands, List.forall_mem_cons, List.not_mem_nil, false_imp_iff,
    implies_true, all_isBlank_help, and_true]
  refine ⟨by decide, by decide, ⟨by decide, ?_⟩, ⟨by decide, ?_⟩, by decide, by decide,
    ⟨by decide, ?_⟩, ⟨by decide, ?_⟩, ⟨by decide, ?_⟩, ⟨by decide, ?_⟩, by decide, ?_⟩
  · exact all_isBlank_append (by decide) _
  · decide
  · iterate 4 refine all_isBlank_append ?_ _
    decide
  · decide
  · exact all_isBlank_append (by decide) _
  · exact all_isBlank_append (by decide) _
  · exact all_isBlank_append (by decide) _

/-- The standard commands have been registered like any others. -/
theorem foldl_operations (origin : Origin) :
    origin.operations.foldl (fun r o => o.run r) {} = (origin.registry : Registry κ) := by
  cases origin with
  | empty => rfl
  | standard host => exact foldl_register (usage_standardCommands host) {}

/-- An operation that fails is an operation that was not made. -/
theorem run_of_attempt {operation : Operation κ} {r : Registry κ} {e : RegistryError}
    (h : (operation.attempt r).2 = .error e) : operation.run r = r := by
  rw [Operation.run]
  cases operation with
  | register name usage handler =>
    simp only [Operation.attempt, register] at h ⊢
    split_ifs at h ⊢
    · rfl
    · rfl
  | bind name existing =>
    simp only [Operation.attempt, bind] at h ⊢
    split_ifs at h ⊢
    · rfl
    · cases hexisting : r.lookup existing with
      | none => rfl
      | some command => simp [hexisting] at h
  | erase name => cases h

theorem register_eq_error {r : Registry κ} {name usage : String} {handler : Handler κ}
    {e : RegistryError} : (r.register name usage handler).2 = .error e ↔
      (isReserved name ∧ e = .reservedName name) ∨
        (¬isReserved name ∧ usage.toList.all Text.isBlank ∧ e = .missingUsage name) := by
  unfold register
  split_ifs with hname husage
  · simpa [hname] using eq_comm
  · simpa [hname, husage] using eq_comm
  · simp [hname, husage]

theorem bind_eq_error {r : Registry κ} {name existing : String} {e : RegistryError} :
    (r.bind name existing).2 = .error e ↔ (isReserved name ∧ e = .reservedName name) ∨
      (¬isReserved name ∧ r.lookup existing = none ∧ e = .unknown existing) := by
  unfold bind
  split_ifs with hname
  · simpa [hname] using eq_comm
  · cases hexisting : r.lookup existing with
    | none => simpa [hname] using eq_comm
    | some command => simp [hname]

/-- A registry after any operations, the standard commands being registered by the first ones if it
starts with them. Each name stands for what its last registration or binding gave it, and the names
stand in the order of their arrival; what fails changes nothing, and fails for no other reason than
the first that applies. -/
theorem after_recounts (origin : Origin) (operations : List (Operation κ)) :
    let history := origin.operations ++ operations
    let r := after origin operations
    r = after .empty history ∧ Recounts (effects {} history) r ∧
      (∀ name ∈ r.allNames, isReserved name = false) ∧
      (∀ name usage handler e, (r.register name usage handler).2 = .error e ↔
        (isReserved name ∧ e = .reservedName name) ∨
          (¬isReserved name ∧ usage.toList.all Text.isBlank ∧ e = .missingUsage name)) ∧
      (∀ name existing e, (r.bind name existing).2 = .error e ↔
        (isReserved name ∧ e = .reservedName name) ∨
          (¬isReserved name ∧ r.lookup existing = none ∧ e = .unknown existing)) ∧
      ∀ (operation : Operation κ) e, (operation.attempt r).2 = .error e →
        operation.run r = r := by
  intro history r
  have hreplay : r = history.foldl (fun r o => o.run r) {} := by
    rw [List.foldl_append, foldl_operations]
    rfl
  have hrecounts : Recounts (effects {} history) r := hreplay ▸ recounts_effects history
  refine ⟨hreplay, hrecounts, fun name hname => ?_, fun _ _ _ _ => register_eq_error,
    fun _ _ _ => bind_eq_error, fun _ _ => run_of_attempt⟩
  obtain ⟨i, ⟨c, hi⟩, -⟩ := hrecounts.mem_iff_stays.mp hname
  exact isReserved_of_mem_effects (List.mem_of_getElem? hi)

/-- A binding outlives what it was made of, and a name that comes again comes last. -/
example (leave stay : Handler κ) :
    let r := after .empty [.register "quit" "Leave." leave, .bind "bye" "quit",
      .register "quit" "Stay." stay, .erase "quit", .bind "quit" "bye"]
    (r.lookup "bye").map (fun c => (c.handler, c.usage, c.canonical)) =
        some (leave, "Leave.", "quit") ∧
      r.allNames = ["bye", "quit"] :=
  ⟨rfl, rfl⟩

end Registry

end NestedShell

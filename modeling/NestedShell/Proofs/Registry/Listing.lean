import Mathlib.Data.List.Nodup
import Mathlib.Data.List.Perm.Subperm
import Mathlib.Data.Option.Basic
import NestedShell.Proofs.Registry.History
import NestedShell.Proofs.Text.Sorted

/-! The listing of a registry: what it owes to the commands, and which histories keep it so. -/
namespace NestedShell
variable {κ : Type}

namespace Catalog

theorem mem_distinct {e : Entry} {seen : List Nat} {entries : List Entry}
    (h : e ∈ distinct seen entries) : e ∈ entries ∧ e.id ∉ seen := by
  induction entries generalizing seen with
  | nil => cases h
  | cons d rest ih =>
    rw [distinct] at h
    split at h
    · exact ⟨List.mem_cons_of_mem _ (ih h).1, (ih h).2⟩
    · rename_i hd
      rcases List.mem_cons.mp h with rfl | h
      · exact ⟨List.mem_cons_self, by simpa using hd⟩
      · obtain ⟨hrest, hseen⟩ := ih h
        exact ⟨List.mem_cons_of_mem _ hrest, fun hs => hseen (List.mem_cons_of_mem _ hs)⟩

theorem nodup_distinct (seen : List Nat) (entries : List Entry) :
    ((distinct seen entries).map (·.id)).Nodup := by
  induction entries generalizing seen with
  | nil => exact .nil
  | cons d rest ih =>
    rw [distinct]
    split
    · exact ih seen
    · refine List.nodup_cons.mpr ⟨?_, ih _⟩
      intro h
      obtain ⟨e, he, hid⟩ := List.mem_map.mp h
      exact (mem_distinct he).2 (hid ▸ List.mem_cons_self)

theorem exists_distinct {e : Entry} {entries : List Entry} (h : e ∈ entries) (seen : List Nat) :
    e.id ∈ seen ∨ ∃ d ∈ distinct seen entries, d.id = e.id := by
  induction entries generalizing seen with
  | nil => cases h
  | cons d rest ih =>
    rw [distinct]
    split
    · rename_i hd
      rcases List.mem_cons.mp h with rfl | h
      · exact .inl (by simpa using hd)
      · exact ih h seen
    · rcases List.mem_cons.mp h with rfl | h
      · exact .inr ⟨e, List.mem_cons_self, rfl⟩
      · rcases ih h (d.id :: seen) with hs | ⟨d', hd', hid⟩
        · rcases List.mem_cons.mp hs with hid | hs
          · exact .inr ⟨d, List.mem_cons_self, hid.symm⟩
          · exact .inl hs
        · exact .inr ⟨d', List.mem_cons_of_mem _ hd', hid⟩

end Catalog

namespace Registry

/-- The entries the listing is made from: the first one for each handler. -/
def listed (r : Registry κ) : List Entry := Catalog.distinct [] r.catalog.entries.values

/-- The handler that a name calls, as its number. -/
def handlerOf (r : Registry κ) (name : String) : Option Nat := (r.lookup name).map (·.id)

theorem handlerOf_eq_some {r : Registry κ} {name : String} {k : Nat} :
    r.handlerOf name = some k ↔ ∃ c, r.lookup name = some c ∧ c.id = k :=
  Option.map_eq_some_iff

theorem names_perm (r : Registry κ) : r.names.Perm (r.listed.map (·.canonical)) :=
  Text.sorted_perm _

theorem values_catalog (r : Registry κ) :
    r.catalog.entries.values = r.commands.values.map (·.toEntry) := by
  simp [catalog, Ordered.map, Ordered.values, Function.comp_def]

/-- What is listed stands for a command, under that command's canonical name. -/
theorem Coherent.exists_of_mem_listed {r : Registry κ} (h : Coherent r) {e : Entry}
    (he : e ∈ r.listed) : ∃ name c, r.lookup name = some c ∧ c.toEntry = e := by
  have hvalues := (Catalog.mem_distinct he).1
  rw [values_catalog] at hvalues
  obtain ⟨c, hc, rfl⟩ := List.mem_map.mp hvalues
  obtain ⟨name, hname⟩ := (Ordered.mem_values_iff h.nodup c).mp hc
  exact ⟨name, c, hname, rfl⟩

theorem Coherent.exists_listed {r : Registry κ} (h : Coherent r) {name : String} {c : Command κ}
    (hc : r.lookup name = some c) : ∃ e ∈ r.listed, e.id = c.id ∧ e.canonical = c.canonical := by
  have hvalues : c.toEntry ∈ r.catalog.entries.values := by
    rw [values_catalog]
    exact List.mem_map_of_mem ((Ordered.mem_values_iff h.nodup c).mpr ⟨name, hc⟩)
  obtain hnone | ⟨e, he, hid⟩ := Catalog.exists_distinct hvalues []
  · cases hnone
  · obtain ⟨other, d, hd, rfl⟩ := h.exists_of_mem_listed he
    exact ⟨d.toEntry, he, hid, (h.same _ _ _ _ hd hc hid).2⟩

/-- The names are in strict order, each can be called, and the handler of every command is called
by exactly one of them. -/
structure Sound (r : Registry κ) : Prop where
  increasing : r.names.Pairwise (· < ·)
  found : ∀ name ∈ r.names, ∃ c, r.lookup name = some c
  single : ∀ name c, r.lookup name = some c → ∃! other, other ∈ r.names ∧
    ∃ d, r.lookup other = some d ∧ d.id = c.id

/-- The handler of every command is called by a listed name. -/
def Covers (r : Registry κ) : Prop :=
  ∀ name c, r.lookup name = some c → ∃ other ∈ r.names, r.handlerOf other = some c.id

theorem nodup_listed (r : Registry κ) : (r.listed.map fun e => some e.id).Nodup := by
  have hnodup := Catalog.nodup_distinct [] r.catalog.entries.values
  have hsome := hnodup.map (Option.some_injective Nat)
  rwa [List.map_map] at hsome

/-- There are as many listed names as handlers, so when every handler is called by one of them,
each of them calls a handler of its own. -/
theorem Coherent.perm_handlers {r : Registry κ} (h : Coherent r) (hcovers : Covers r) :
    (r.listed.map fun e => some e.id).Perm (r.names.map r.handlerOf) := by
  have hsub : (r.listed.map fun e => some e.id) ⊆ r.names.map r.handlerOf := by
    intro k hk
    obtain ⟨e, he, rfl⟩ := List.mem_map.mp hk
    obtain ⟨name, c, hc, rfl⟩ := h.exists_of_mem_listed he
    obtain ⟨other, hother, hid⟩ := hcovers name c hc
    exact hid ▸ List.mem_map_of_mem hother
  have hlength : (r.names.map r.handlerOf).length ≤ (r.listed.map fun e => some e.id).length := by
    simp [r.names_perm.length_eq]
  exact (List.subperm_of_subset r.nodup_listed hsub).perm_of_length_le hlength

theorem Coherent.sound_of_covers {r : Registry κ} (h : Coherent r) (hcovers : Covers r) :
    Sound r := by
  have hperm := h.perm_handlers hcovers
  have hnodup := hperm.nodup_iff.mp r.nodup_listed
  constructor
  · exact Text.pairwise_lt_sorted hnodup.of_map
  · intro name hname
    obtain ⟨e, -, he⟩ := List.mem_map.mp (hperm.mem_iff.mpr (List.mem_map_of_mem hname))
    obtain ⟨c, hc, -⟩ := handlerOf_eq_some.mp he.symm
    exact ⟨c, hc⟩
  · intro name c hc
    obtain ⟨other, hother, hid⟩ := hcovers name c hc
    refine ⟨other, ⟨hother, handlerOf_eq_some.mp hid⟩, ?_⟩
    rintro another ⟨hanother, hd⟩
    have hsame : r.handlerOf another = r.handlerOf other :=
      (handlerOf_eq_some.mpr hd).trans hid.symm
    exact List.inj_on_of_nodup_map hnodup hanother hother hsame

theorem Sound.covers {r : Registry κ} (h : Sound r) : Covers r := by
  intro name c hc
  obtain ⟨other, ⟨hother, hd⟩, -⟩ := h.single name c hc
  exact ⟨other, hother, handlerOf_eq_some.mpr hd⟩

/-- The canonical name of every command still calls its handler. -/
def Homed (r : Registry κ) : Prop :=
  ∀ name c, r.lookup name = some c → r.handlerOf c.canonical = some c.id

theorem Coherent.covers_of_homed {r : Registry κ} (h : Coherent r) (hhomed : Homed r) :
    Covers r := by
  intro name c hc
  obtain ⟨e, he, -, hcanonical⟩ := h.exists_listed hc
  refine ⟨c.canonical, r.names_perm.mem_iff.mpr ?_, hhomed name c hc⟩
  exact hcanonical ▸ List.mem_map_of_mem he

/-- No other name is bound to what was registered under `name`. -/
def Free (name : String) (r : Registry κ) : Prop :=
  ∀ entry ∈ r.commands.entries, entry.2.canonical = name → entry.1 = name

instance (name : String) (r : Registry κ) : Decidable (Free name r) :=
  inferInstanceAs (Decidable (∀ entry ∈ r.commands.entries, _))

theorem Free.eq_of_lookup {name other : String} {r : Registry κ} (h : Free name r) {c : Command κ}
    (hc : r.lookup other = some c) (hcanonical : c.canonical = name) : other = name :=
  h _ (Ordered.mem_entries_of_get? hc) hcanonical

/-- The name that an operation enters or takes away. -/
def Operation.target : Operation κ → String
  | register name _ _ => name
  | bind name _ => name
  | erase name => name

/-- What a change of one name leaves alone keeps its canonical name. -/
theorem Homed.of_other {r s : Registry κ} (h : Homed r) {name : String} (hfree : Free name r)
    (hsame : ∀ other, other ≠ name → s.lookup other = r.lookup other)
    (hnew : ∀ c, s.lookup name = some c → s.handlerOf c.canonical = some c.id) : Homed s := by
  intro other c hc
  by_cases hother : other = name
  · exact hnew c (hother ▸ hc)
  · rw [hsame other hother] at hc
    have hcanonical : c.canonical ≠ name := fun heq => hother (hfree.eq_of_lookup hc heq)
    rw [handlerOf, hsame _ hcanonical]
    exact h other c hc

theorem Homed.run {r : Registry κ} (h : Homed r) (operation : Operation κ)
    (hfree : Free operation.target r) : Homed (operation.run r) := by
  cases operation with
  | register name usage handler =>
    have hfree : Free name r := hfree
    rcases run_register name usage handler r with hr | hr <;> rw [hr]
    · exact h
    · refine h.of_other hfree (fun other hother => by rw [lookup_install, if_neg hother]) ?_
      intro c hc
      rw [lookup_install, if_pos rfl] at hc
      cases hc
      rw [handlerOf, lookup_install, if_pos rfl]
      rfl
  | bind name existing =>
    have hfree : Free name r := hfree
    rcases run_bind name existing r with hr | ⟨d, hd, hr⟩ <;> rw [hr]
    · exact h
    · refine h.of_other hfree (fun other hother => by rw [lookup_put, if_neg hother]) ?_
      intro c hc
      rw [lookup_put, if_pos rfl] at hc
      cases hc
      rw [handlerOf, lookup_put]
      split
      · rfl
      · exact h existing d hd
  | erase name =>
    have hfree : Free name r := hfree
    refine h.of_other hfree (fun other hother => ?_) ?_
    · exact (lookup_erase name other r).trans (if_neg hother)
    · intro c hc
      rw [run_erase, lookup_erase, if_pos rfl] at hc
      cases hc

/-- No operation enters or takes away a name that another one is bound to. -/
def Sparing : Registry κ → List (Operation κ) → Prop
  | _, [] => True
  | r, operation :: rest => Free operation.target r ∧ Sparing (operation.run r) rest

instance Sparing.decidable :
    ∀ (r : Registry κ) (operations : List (Operation κ)), Decidable (Sparing r operations)
  | _, [] => inferInstanceAs (Decidable True)
  | r, operation :: rest =>
    have := Sparing.decidable (operation.run r) rest
    inferInstanceAs (Decidable (_ ∧ _))

theorem homed_of_sparing {r : Registry κ} (h : Homed r) {operations : List (Operation κ)}
    (hsparing : Sparing r operations) :
    Homed (operations.foldl (fun r operation => operation.run r) r) := by
  induction operations generalizing r with
  | nil => exact h
  | cons operation rest ih => exact ih (h.run operation hsparing.1) hsparing.2

theorem homed_origin (origin : Origin) : Homed (origin.registry : Registry κ) := by
  -- All that is there at first was registered under its own name.
  have hown : ∀ name c, (origin.registry : Registry κ).lookup name = some c →
      c.canonical = name := by
    cases origin with
    | empty => exact nofun
    | standard host =>
      unfold Origin.registry Registry.standard
      have hinstall : ∀ (r : Registry κ) name usage handler,
          (∀ other c, r.lookup other = some c → c.canonical = other) →
          ∀ other c, (r.install name usage handler).lookup other = some c →
            c.canonical = other := by
        intro r name usage handler h other c hc
        rw [lookup_install] at hc
        split at hc
        · rename_i hother
          cases hc
          exact hother.symm
        · exact h other c hc
      iterate 11 refine hinstall _ _ _ _ ?_
      exact nofun
  intro name c hc
  rw [hown name c hc]
  exact handlerOf_eq_some.mpr ⟨c, hc, rfl⟩

/-- The listing is sound as long as it names a way to call every handler, and it does when names
that others are bound to are neither registered anew, bound elsewhere nor erased. -/
theorem sound_after (origin : Origin) (operations : List (Operation κ)) :
    (Sound (after origin operations) ↔ Covers (after origin operations)) ∧
      (Sparing origin.registry operations → Sound (after origin operations)) := by
  have hcoherent : Coherent (after origin operations) := coherent_after origin operations
  refine ⟨⟨Sound.covers, hcoherent.sound_of_covers⟩, ?_⟩
  intro hsparing
  exact hcoherent.sound_of_covers
    (hcoherent.covers_of_homed (homed_of_sparing (homed_origin origin) hsparing))

/-- A command, and another name bound to it. -/
def quitAndBye : List (Operation Unit) :=
  [.register "quit" "Leave." Standard.exit, .bind "bye" "quit"]

theorem sound_after_erase_bye :
    Sparing Origin.empty.registry (quitAndBye ++ [.erase "bye"]) ∧
      Sound (after .empty (quitAndBye ++ [.erase "bye"])) := by
  have hsparing : Sparing Origin.empty.registry (quitAndBye ++ [.erase "bye"]) := by decide
  exact ⟨hsparing, (sound_after .empty _).2 hsparing⟩

/-- Erasing the name that another was bound to leaves it listed, and registering it again lists it
twice. -/
theorem not_sound_after_quit :
    (¬ Sound (after .empty (quitAndBye ++ [.erase "quit"]))) ∧
      ¬ Sound (after .empty (quitAndBye ++ [.register "quit" "Leave." Standard.exit])) := by
  refine ⟨fun h => ?_, fun h => ?_⟩
  · have hlisted : "quit" ∈ (after .empty (quitAndBye ++ [.erase "quit"])).names := by decide
    obtain ⟨c, hc⟩ := h.found "quit" hlisted
    cases hc
  · have htwice : (after .empty
        (quitAndBye ++ [.register "quit" "Leave." Standard.exit])).names = ["quit", "quit"] := by
      decide
    have hincreasing := h.increasing
    rw [htwice] at hincreasing
    exact lt_irrefl _ (List.rel_of_pairwise_cons hincreasing List.mem_cons_self)

end Registry

end NestedShell

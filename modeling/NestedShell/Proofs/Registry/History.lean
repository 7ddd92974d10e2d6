import NestedShell.Proofs.Ordered
import NestedShell.Standard

/-! Registries as they come about: by registering, binding and erasing names, one after the
other. -/
namespace NestedShell
variable {κ : Type}

namespace Registry

inductive Operation (κ : Type) where
  | register (name usage : String) (handler : Handler κ)
  | bind (name existing : String)
  | erase (name : String)

/-- What an operation makes of a registry, and whether it is refused. -/
def Operation.attempt (r : Registry κ) : Operation κ → Registry κ × Except RegistryError Unit
  | register name usage handler => r.register name usage handler
  | bind name existing => r.bind name existing
  | erase name => (r.erase name, .ok ())

def Operation.run (operation : Operation κ) (r : Registry κ) : Registry κ :=
  (operation.attempt r).1

theorem run_erase (name : String) (r : Registry κ) :
    (Operation.erase name).run r = r.erase name := rfl

/-- What a registry holds before anything else is registered. -/
inductive Origin where
  | empty
  | standard (host : Host)

def Origin.registry : Origin → Registry κ
  | empty => {}
  | standard host => Registry.standard host

/-- The registry after the operations, made in their order. -/
def after (origin : Origin) (operations : List (Operation κ)) : Registry κ :=
  operations.foldl (fun r operation => operation.run r) origin.registry

/-- Names are entered once, and a handler goes by one number and under one canonical name. -/
structure Coherent (r : Registry κ) : Prop where
  nodup : r.commands.names.Nodup
  issued : ∀ name c, r.lookup name = some c → c.id < r.issued
  same : ∀ name other c d, r.lookup name = some c → r.lookup other = some d → c.id = d.id →
    c.handler = d.handler ∧ c.canonical = d.canonical

theorem lookup_install (name usage : String) (handler : Handler κ) (r : Registry κ)
    (other : String) :
    (r.install name usage handler).lookup other =
      if other = name then some ⟨⟨name, name, usage, r.issued⟩, handler⟩ else r.lookup other :=
  Ordered.get?_put name other _ r.commands

theorem lookup_put (name : String) (c : Command κ) (r : Registry κ) (other : String) :
    ({ r with commands := r.commands.put name c } : Registry κ).lookup other =
      if other = name then some c else r.lookup other :=
  Ordered.get?_put name other c r.commands

theorem lookup_erase (name other : String) (r : Registry κ) :
    (r.erase name).lookup other = if other = name then none else r.lookup other :=
  Ordered.get?_erase name other r.commands

/-- A registration is refused or it installs a handler. -/
theorem run_register (name usage : String) (handler : Handler κ) (r : Registry κ) :
    (Operation.register name usage handler).run r = r ∨
      (Operation.register name usage handler).run r = r.install name usage handler := by
  simp only [Operation.run, Operation.attempt, register]
  split_ifs <;> simp

/-- A binding is refused or it enters a command that is there under another name. -/
theorem run_bind (name existing : String) (r : Registry κ) :
    (Operation.bind name existing).run r = r ∨
      ∃ c, r.lookup existing = some c ∧ (Operation.bind name existing).run r =
        { r with commands := r.commands.put name { c with name := name } } := by
  simp only [Operation.run, Operation.attempt, bind]
  split_ifs
  · exact .inl rfl
  · split
    · exact .inl rfl
    · rename_i c hc
      exact .inr ⟨c, hc, rfl⟩

theorem coherent_empty : Coherent ({} : Registry κ) :=
  ⟨.nil, nofun, nofun⟩

theorem Coherent.install {r : Registry κ} (h : Coherent r) (name usage : String)
    (handler : Handler κ) : Coherent (r.install name usage handler) := by
  constructor
  · exact Ordered.nodup_names_put h.nodup _ _
  · intro other c hc
    rw [lookup_install] at hc
    split at hc
    · cases hc
      exact Nat.lt_succ_self _
    · exact Nat.lt_succ_of_lt (h.issued _ _ hc)
  · intro other other' c d hc hd hid
    rw [lookup_install] at hc hd
    split at hc <;> split at hd
    · cases hc
      cases hd
      exact ⟨rfl, rfl⟩
    · cases hc
      exact absurd hid (Nat.ne_of_gt (h.issued _ _ hd))
    · cases hd
      exact absurd hid (Nat.ne_of_lt (h.issued _ _ hc))
    · exact h.same _ _ _ _ hc hd hid

/-- A command may be entered under any name. -/
theorem Coherent.put {r : Registry κ} (h : Coherent r) {existing : String} {c d : Command κ}
    (hc : r.lookup existing = some c) (name : String) (hid : d.id = c.id)
    (hhandler : d.handler = c.handler) (hcanonical : d.canonical = c.canonical) :
    Coherent { r with commands := r.commands.put name d } := by
  -- Each name now stands for a command that was there before, but for the name it goes by.
  have hback : ∀ other e, ({ r with commands := r.commands.put name d } : Registry κ).lookup other =
      some e → ∃ other' e', r.lookup other' = some e' ∧ e.id = e'.id ∧ e.handler = e'.handler ∧
        e.canonical = e'.canonical := by
    intro other e he
    rw [lookup_put] at he
    split at he
    · cases he
      exact ⟨existing, c, hc, hid, hhandler, hcanonical⟩
    · exact ⟨other, e, he, rfl, rfl, rfl⟩
  constructor
  · exact Ordered.nodup_names_put h.nodup _ _
  · intro other e he
    obtain ⟨other', e', he', hid', -, -⟩ := hback other e he
    exact hid' ▸ h.issued _ _ he'
  · intro other other' e f he hf hef
    obtain ⟨n, e', he', heid, hehandler, hecanonical⟩ := hback other e he
    obtain ⟨m, f', hf', hfid, hfhandler, hfcanonical⟩ := hback other' f hf
    obtain ⟨hh, hcan⟩ := h.same n m e' f' he' hf' (by omega)
    exact ⟨by rw [hehandler, hfhandler, hh], by rw [hecanonical, hfcanonical, hcan]⟩

theorem Coherent.erase {r : Registry κ} (h : Coherent r) (name : String) :
    Coherent (r.erase name) := by
  have hback : ∀ other c, (r.erase name).lookup other = some c → r.lookup other = some c := by
    intro other c hc
    rw [lookup_erase] at hc
    split at hc
    · cases hc
    · exact hc
  constructor
  · exact Ordered.nodup_names_erase h.nodup name
  · exact fun other c hc => h.issued other c (hback other c hc)
  · exact fun other other' c d hc hd => h.same other other' c d (hback _ _ hc) (hback _ _ hd)

theorem Coherent.run {r : Registry κ} (h : Coherent r) (operation : Operation κ) :
    Coherent (operation.run r) := by
  cases operation with
  | register name usage handler =>
    rcases run_register name usage handler r with hr | hr <;> rw [hr]
    · exact h
    · exact h.install name usage handler
  | bind name existing =>
    rcases run_bind name existing r with hr | ⟨c, hc, hr⟩ <;> rw [hr]
    · exact h
    · exact h.put hc name rfl rfl rfl
  | erase name => exact h.erase name

theorem coherent_origin (origin : Origin) : Coherent (origin.registry : Registry κ) := by
  cases origin with
  | empty => exact coherent_empty
  | standard host =>
    unfold Origin.registry Registry.standard
    iterate 11 refine Coherent.install ?_ _ _ _
    exact coherent_empty

theorem coherent_after (origin : Origin) (operations : List (Operation κ)) :
    Coherent (after origin operations) := by
  have hrun : ∀ r : Registry κ, Coherent r →
      Coherent (operations.foldl (fun r operation => operation.run r) r) := by
    induction operations with
    | nil => exact fun r h => h
    | cons operation operations ih => exact fun r h => ih _ (h.run operation)
  exact hrun _ (coherent_origin origin)

end Registry

end NestedShell

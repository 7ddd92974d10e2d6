import Mathlib.Tactic.Common
import NestedShell.Machine

/-! The loop that gives a character its turn, then whatever is pushed back, until nothing is left.
It has no bound of its own, so what it leads to is a relation. -/
namespace NestedShell

variable {S : Type} {home : S} {σ : Type}

theorem Config.push_of_pop {g : Config home σ} {c : Char} {k : Cursor home}
    (h : g.cursor.pop = (some c, k)) : { g with cursor := k }.push c = g := by
  obtain ⟨⟨state, stack⟩, memory⟩ := g
  cases stack with
  | nil => simp [Cursor.pop] at h
  | cons d rest =>
    simp only [Cursor.pop, Prod.mk.injEq, Option.some.injEq] at h
    obtain ⟨rfl, rfl⟩ := h
    rfl

variable [DecidableEq S]

/-- The loop takes so many steps of the table and ends in the last configuration; a miss ends it
at once. -/
inductive Turns (t : Table home σ) :
    Char → Config home σ → ℕ → Option (Unmatched S) → Config home σ → Prop
  | missed {c g m g'} (step : t.step c g = (some m, g')) : Turns t c g 1 (some m) g'
  | last {c g g'} (step : t.step c g = (none, g')) (empty : g'.cursor.stack = []) :
      Turns t c g 1 none g'
  | again {c g g' d k n r g''} (step : t.step c g = (none, g'))
      (pop : g'.cursor.pop = (some d, k)) (tail : Turns t d { g' with cursor := k } n r g'') :
      Turns t c g (n + 1) r g''

/-- Where the loop ends, it ends in one way. -/
theorem Turns.unique {t : Table home σ} {c : Char} {g g₁ g₂ : Config home σ} {n₁ n₂ : ℕ}
    {r₁ r₂ : Option (Unmatched S)} (h₁ : Turns t c g n₁ r₁ g₁) (h₂ : Turns t c g n₂ r₂ g₂) :
    n₁ = n₂ ∧ r₁ = r₂ ∧ g₁ = g₂ := by
  induction h₁ generalizing n₂ r₂ g₂ with
  | missed hs =>
    cases h₂ with
    | missed hs' =>
      rw [hs] at hs'
      cases hs'
      exact ⟨rfl, rfl, rfl⟩
    | last hs' | again hs' =>
      rw [hs] at hs'
      cases hs'
  | last hs he =>
    cases h₂ with
    | missed hs' =>
      rw [hs] at hs'
      cases hs'
    | last hs' =>
      rw [hs] at hs'
      cases hs'
      exact ⟨rfl, rfl, rfl⟩
    | again hs' hp' =>
      rw [hs] at hs'
      cases hs'
      simp [Cursor.pop, he] at hp'
  | again hs hp ht ih =>
    cases h₂ with
    | missed hs' =>
      rw [hs] at hs'
      cases hs'
    | last hs' he' =>
      rw [hs] at hs'
      cases hs'
      simp [Cursor.pop, he'] at hp
    | again hs' hp' ht' =>
      rw [hs] at hs'
      cases hs'
      rw [hp] at hp'
      cases hp'
      obtain ⟨rfl, rfl, rfl⟩ := ih ht'
      exact ⟨rfl, rfl, rfl⟩

/-- A drain whose limit leaves room for the whole loop does what the loop does. -/
theorem Turns.drain_eq {t : Table home σ} {c : Char} {g g' : Config home σ} {n limit : ℕ}
    {r : Option (Unmatched S)} (h : Turns t c g n r g') (hn : n ≤ limit) :
    t.drain limit (g.push c) = (n, r, g') := by
  induction h generalizing limit with
  | missed hs =>
    obtain ⟨limit, rfl⟩ : ∃ m, limit = m + 1 := ⟨limit - 1, by omega⟩
    simp [Table.drain, Config.push, hs]
  | @last c g g' hs he =>
    obtain ⟨limit, rfl⟩ : ∃ m, limit = m + 1 := ⟨limit - 1, by omega⟩
    have hpop : g'.cursor.pop = (none, g'.cursor) := by simp [Cursor.pop, he]
    cases limit <;> simp [Table.drain, Config.push, hs, hpop]
  | again hs hp ht ih =>
    obtain ⟨limit, rfl⟩ : ∃ m, limit = m + 1 := ⟨limit - 1, by omega⟩
    have htail := @ih limit (by omega)
    rw [Config.push_of_pop hp] at htail
    simp [Table.drain, Config.push, hs, htail]

end NestedShell

/-! Tables of named values that keep the order in which the names first arrived. -/
namespace NestedShell

structure Ordered (α : Type) where
  entries : List (String × α) := []
  deriving DecidableEq

namespace Ordered
variable {α : Type}

def get? (t : Ordered α) (name : String) : Option α := t.entries.lookup name

def contains (t : Ordered α) (name : String) : Bool := (t.get? name).isSome

def names (t : Ordered α) : List String := t.entries.map Prod.fst

def values (t : Ordered α) : List α := t.entries.map Prod.snd

def size (t : Ordered α) : Nat := t.entries.length

def isEmpty (t : Ordered α) : Bool := t.entries.isEmpty

/-- The entries with `name` set: in place when it is there, at the end when it is not. -/
def putIn (name : String) (value : α) : List (String × α) → List (String × α)
  | [] => [(name, value)]
  | entry :: rest =>
    if entry.1 = name then (name, value) :: rest else entry :: putIn name value rest

def put (name : String) (value : α) (t : Ordered α) : Ordered α := ⟨putIn name value t.entries⟩

/-- The other names keep their order. -/
def erase (name : String) (t : Ordered α) : Ordered α :=
  ⟨t.entries.filter (fun entry => entry.1 ≠ name)⟩

def map {β : Type} (f : α → β) (t : Ordered α) : Ordered β :=
  ⟨t.entries.map (fun entry => (entry.1, f entry.2))⟩

theorem lookup_putIn (name other : String) (value : α) (entries : List (String × α)) :
    (putIn name value entries).lookup other =
      if other = name then some value else entries.lookup other := by
  induction entries with
  | nil => grind [putIn]
  | cons entry rest ih => grind [putIn]

@[simp] theorem get?_put (name other : String) (value : α) (t : Ordered α) :
    (t.put name value).get? other = if other = name then some value else t.get? other :=
  lookup_putIn name other value t.entries

@[simp] theorem get?_erase (name other : String) (t : Ordered α) :
    (t.erase name).get? other = if other = name then none else t.get? other := by
  unfold erase get?
  induction t.entries with
  | nil => simp
  | cons entry rest ih =>
    by_cases he : entry.1 = name <;> by_cases h : other = entry.1 <;> grind

/-- A name that is there keeps its place, a new one comes last. -/
theorem names_put (name : String) (value : α) (t : Ordered α) :
    (t.put name value).names = if name ∈ t.names then t.names else t.names ++ [name] := by
  unfold put names
  induction t.entries with
  | nil => simp [putIn]
  | cons entry rest ih =>
    by_cases he : entry.1 = name
    · simp [putIn, he]
    · have hn : name ≠ entry.1 := fun h => he h.symm
      by_cases hm : name ∈ rest.map Prod.fst <;> simp_all [putIn]

@[simp] theorem names_erase (name : String) (t : Ordered α) :
    (t.erase name).names = t.names.filter (· ≠ name) := by
  simp [erase, names, List.filter_map, Function.comp_def]

end Ordered

end NestedShell

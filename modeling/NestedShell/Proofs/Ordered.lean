import Mathlib.Data.List.Basic
import NestedShell.Ordered

/-! Tables whose names are all different: what is looked up is what is listed. -/
namespace NestedShell.Ordered
variable {α : Type}

theorem mem_entries_of_get? {t : Ordered α} {name : String} {value : α}
    (h : t.get? name = some value) : (name, value) ∈ t.entries := by
  obtain ⟨before, after, hentries, -⟩ := List.lookup_eq_some_iff.mp h
  rw [hentries]
  simp

theorem mem_names_of_get? {t : Ordered α} {name : String} {value : α}
    (h : t.get? name = some value) : name ∈ t.names :=
  List.mem_map.mpr ⟨(name, value), mem_entries_of_get? h, rfl⟩

theorem get?_of_mem_entries {t : Ordered α} (hn : t.names.Nodup) {name : String} {value : α}
    (h : (name, value) ∈ t.entries) : t.get? name = some value := by
  obtain ⟨entries⟩ := t
  simp only [names, get?] at *
  induction entries with
  | nil => simp at h
  | cons entry rest ih =>
    simp only [List.map_cons, List.nodup_cons] at hn
    rcases List.mem_cons.mp h with rfl | h
    · simp
    · have hne : name ≠ entry.1 := by
        rintro rfl
        exact hn.1 (List.mem_map.mpr ⟨(entry.1, value), h, rfl⟩)
      rw [List.lookup_cons, beq_false_of_ne hne]
      exact ih hn.2 h

theorem mem_values_iff {t : Ordered α} (hn : t.names.Nodup) (value : α) :
    value ∈ t.values ↔ ∃ name, t.get? name = some value := by
  simp only [values, List.mem_map, Prod.exists, exists_eq_right]
  exact ⟨fun ⟨name, h⟩ => ⟨name, get?_of_mem_entries hn h⟩,
    fun ⟨name, h⟩ => ⟨name, mem_entries_of_get? h⟩⟩

theorem nodup_names_put {t : Ordered α} (hn : t.names.Nodup) (name : String) (value : α) :
    (t.put name value).names.Nodup := by
  rw [names_put]
  split
  · exact hn
  · rename_i hm
    refine List.nodup_append.mpr ⟨hn, by simp, ?_⟩
    simp only [List.mem_singleton, forall_eq]
    rintro a ha rfl
    exact hm ha

theorem entries_put_of_notMem {t : Ordered α} {name : String} (h : name ∉ t.names) (value : α) :
    (t.put name value).entries = t.entries ++ [(name, value)] := by
  obtain ⟨entries⟩ := t
  simp only [names, put] at *
  induction entries with
  | nil => rfl
  | cons entry rest ih =>
    simp only [List.map_cons, List.mem_cons, not_or] at h
    rw [putIn, if_neg (Ne.symm h.1), ih h.2, List.cons_append]

theorem size_put_of_mem {t : Ordered α} {name : String} (h : name ∈ t.names) (value : α) :
    (t.put name value).size = t.size := by
  have hnames := congrArg List.length (names_put name value t)
  rw [if_pos h] at hnames
  simpa [names, size] using hnames

theorem mem_entries_put {t : Ordered α} {name : String} {value : α} {entry : String × α}
    (h : entry ∈ (t.put name value).entries) : entry = (name, value) ∨ entry ∈ t.entries := by
  obtain ⟨entries⟩ := t
  simp only [put] at *
  induction entries with
  | nil => simpa [putIn] using h
  | cons first rest ih =>
    rw [putIn] at h
    split at h
    · exact (List.mem_cons.mp h).imp_right (List.mem_cons_of_mem first)
    · rcases List.mem_cons.mp h with rfl | h
      · exact .inr List.mem_cons_self
      · exact (ih h).imp_right (List.mem_cons_of_mem first)

/-- The other entries keep their values and their places. -/
theorem getElem?_entries_put_of_ne (t : Ordered α) {name : String} (value : α)
    {entry : String × α} (h : entry.1 ≠ name) (i : ℕ) :
    (t.put name value).entries[i]? = some entry ↔ t.entries[i]? = some entry := by
  have hnew : (name, value) ≠ entry := by
    rintro rfl
    exact h rfl
  obtain ⟨entries⟩ := t
  simp only [put]
  induction entries generalizing i with
  | nil => cases i <;> simp [putIn, hnew]
  | cons first rest ih =>
    rw [putIn]
    split
    · rename_i hfirst
      have hold : first ≠ entry := by
        rintro rfl
        exact h hfirst
      cases i <;> simp [hnew, hold]
    · cases i with
      | zero => rfl
      | succ i => simpa using ih i

theorem nodup_names_erase {t : Ordered α} (hn : t.names.Nodup) (name : String) :
    (t.erase name).names.Nodup := by
  rw [names_erase]
  exact hn.filter _

end NestedShell.Ordered

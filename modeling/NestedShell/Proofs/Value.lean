import NestedShell.Proofs.Text.Blank
import NestedShell.Proofs.Text.Decimal
import NestedShell.Value

/-! What a text is worth as a value: it is a status when, but for blanks around it, it is an integer
of 64 signed bits, and what a value is shown as is read as that value again. -/
namespace NestedShell

namespace Text

theorem isBlank_of_isDigit {c : Char} (h : c.isDigit) : isBlank c = false := by
  have hdigit : 48 ≤ c.toNat ∧ c.toNat ≤ 57 := by
    simpa [Char.isDigit, UInt32.le_iff_toNat_le] using h
  simp [isBlank, inRanges, blankRanges]
  omega

theorem Spells.isBlank_eq_false {cs : List Char} {n : Int} (h : Spells cs n) :
    ∀ c ∈ cs, isBlank c = false := by
  have hdigits {ds : List Char} (h : Digits ds) : ∀ c ∈ ds, isBlank c = false :=
    fun c hc => isBlank_of_isDigit (h.2 c hc)
  cases h with
  | unsigned h => exact hdigits h
  | plus h => exact List.forall_mem_cons.mpr ⟨rfl, hdigits h⟩
  | minus h => exact List.forall_mem_cons.mpr ⟨rfl, hdigits h⟩

end Text

namespace Value
open Text (Spells)

/-- The text stands for the integer, with blanks around it or without. -/
def Reads (text : String) (n : Int) : Prop :=
  ∃ left word right, text.toList = left ++ word ++ right ∧ (∀ c ∈ left, Text.isBlank c) ∧
    (∀ c ∈ right, Text.isBlank c) ∧ Spells word n

/-- Whether an integer has 64 signed bits. -/
def InRange (n : Int) : Prop := -2 ^ 63 ≤ n ∧ n < 2 ^ 63

theorem reads_iff {text : String} {n : Int} : Reads text n ↔ Spells (Text.trim text.toList) n := by
  constructor
  · rintro ⟨left, word, right, htext, hleft, hright, hword⟩
    rwa [htext, Text.trim_around hleft hright hword.isBlank_eq_false]
  · intro h
    obtain ⟨left, right, htext, hleft, hright⟩ := Text.exists_around_trim text.toList
    exact ⟨left, _, right, htext, hleft, hright, h⟩

theorem integer?_eq_some_iff {text : String} {n : Int64} :
    integer? text = some n ↔ Reads text n.toInt := by
  rw [integer?, Text.int64?_eq_some_iff, reads_iff]

/-- An integer that fits is that of a number of 64 bits. -/
theorem InRange.exists_toInt {n : Int} (h : InRange n) : ∃ k : Int64, k.toInt = n :=
  ⟨Int64.ofInt n, Int64.toInt_ofInt_of_le h.1 h.2⟩

theorem inRange_toInt (n : Int64) : InRange n.toInt := ⟨n.le_toInt, n.toInt_lt⟩

theorem integer?_eq_none_iff {text : String} :
    integer? text = none ↔ ¬∃ n, InRange n ∧ Reads text n := by
  simp only [Option.eq_none_iff_forall_ne_some, Ne, integer?_eq_some_iff]
  constructor
  · rintro h ⟨n, hn, hreads⟩
    obtain ⟨k, rfl⟩ := hn.exists_toInt
    exact h k hreads
  · exact fun h k hreads => h ⟨k.toInt, inRange_toInt k, hreads⟩

theorem parse_eq_status_iff {t : String} {n : Int64} : parse t = .status n ↔ Reads t n.toInt := by
  rw [← integer?_eq_some_iff, parse]
  cases integer? t <;> simp

theorem parse_of_integer?_eq_none {t : String} (h : integer? t = none) : parse t = .text t := by
  rw [parse, h]

/-- A number in decimal notation stands for itself. -/
theorem parse_render_status (n : Int64) : parse (status n).render = .status n :=
  parse_eq_status_iff.mpr ⟨[], _, [], by simp [render], nofun, nofun, Text.spells_decimal n.toInt⟩

theorem toStatus_text_eq_zero_iff (t : String) :
    (text t).toStatus = 0 ↔ (¬∃ n, InRange n ∧ Reads t n) ∨ Reads t 0 := by
  rw [← integer?_eq_none_iff, toStatus]
  cases h : integer? t with
  | none => simp
  | some n =>
    have hzero : Reads t 0 ↔ n = 0 := by
      have hreads : integer? t = some 0 ↔ Reads t (0 : Int64).toInt := integer?_eq_some_iff
      rw [h, Option.some.injEq, Int64.toInt_zero] at hreads
      exact hreads.symm
    simp [hzero]

/-- A text is a status exactly when it reads as one, and then it is worth the same whether it has
been parsed or not. It is worth 0 when it reads as 0, and also when it does not read as an integer
of 64 bits. A status is shown in a way that reads as that status, over the whole range, and no value
changes when what it is shown as is parsed again. -/
theorem parse_render_toStatus :
    (∀ n : Int64, parse (status n).render = .status n) ∧
    ∀ t : String,
      (∀ n : Int64, parse t = .status n ↔ Reads t n.toInt) ∧
      (parse t).toStatus = (text t).toStatus ∧
      ((text t).toStatus = 0 ↔ (¬∃ n, InRange n ∧ Reads t n) ∨ Reads t 0) ∧
      parse (parse t).render = parse t := by
  refine ⟨parse_render_status, fun t => ⟨fun n => parse_eq_status_iff, ?_,
    toStatus_text_eq_zero_iff t, ?_⟩⟩
  · cases h : integer? t <;> simp [parse, toStatus, h]
  · cases h : integer? t with
    | none => rw [parse_of_integer?_eq_none h, render, parse_of_integer?_eq_none h]
    | some n =>
      rw [parse_eq_status_iff.mpr (integer?_eq_some_iff.mp h), parse_render_status]

/-- The least status has no counterpart with a plus. -/
example : parse "\u00a0-09223372036854775808\n" = .status Int64.minValue ∧
    parse "+9223372036854775808" = .text "+9223372036854775808" := by
  decide

end Value

end NestedShell

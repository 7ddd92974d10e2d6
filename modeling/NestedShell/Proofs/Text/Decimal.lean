import Mathlib.Algebra.Group.Int.Defs
import Mathlib.Algebra.Group.Nat.Defs
import Mathlib.Tactic.Common
import NestedShell.Text.Decimal

/-! Which texts are read as a number, and as which one; what is written in decimal notation is read
as the number that it was. -/
namespace NestedShell.Text

/-- One or more ASCII digits. -/
def Digits (ds : List Char) : Prop := ds ≠ [] ∧ ∀ c ∈ ds, c.isDigit

/-- The number that digits stand for. -/
def number (ds : List Char) : ℕ := Nat.ofDigitChars 10 ds 0

/-- The integer that a text stands for: digits, with at most one sign in front. There is no limit to
it, and zeros may lead. -/
inductive Spells : List Char → Int → Prop
  | unsigned {ds} (digits : Digits ds) : Spells ds (number ds)
  | plus {ds} (digits : Digits ds) : Spells ('+' :: ds) (number ds)
  | minus {ds} (digits : Digits ds) : Spells ('-' :: ds) (-(number ds : Int))

variable {ds cs : List Char}

theorem Digits.head?_ne (h : Digits ds) {c : Char} (hc : c.isDigit = false) :
    ds.head? ≠ some c := by
  intro hhead
  simpa [hc] using h.2 c (List.mem_of_head? hhead)

theorem spells_minus_iff {n : Int} : Spells ('-' :: ds) n ↔ Digits ds ∧ -(number ds : Int) = n := by
  constructor
  · rintro (h | _ | h)
    · exact absurd rfl (h.head?_ne (c := '-') rfl)
    · exact ⟨h, rfl⟩
  · rintro ⟨h, rfl⟩
    exact .minus h

theorem spells_plus_iff {n : Int} : Spells ('+' :: ds) n ↔ Digits ds ∧ (number ds : Int) = n := by
  constructor
  · rintro (h | h | _)
    · exact absurd rfl (h.head?_ne (c := '+') rfl)
    · exact ⟨h, rfl⟩
  · rintro ⟨h, rfl⟩
    exact .plus h

theorem spells_unsigned_iff (hminus : cs.head? ≠ some '-') (hplus : cs.head? ≠ some '+') {n : Int} :
    Spells cs n ↔ Digits cs ∧ (number cs : Int) = n := by
  constructor
  · rintro (h | _ | _)
    · exact ⟨h, rfl⟩
    · exact absurd rfl hplus
    · exact absurd rfl hminus
  · rintro ⟨h, rfl⟩
    exact .unsigned h

theorem le_ofDigitChars (n : ℕ) (ds : List Char) : n ≤ Nat.ofDigitChars 10 ds n := by
  induction ds generalizing n with
  | nil => exact Nat.le_refl n
  | cons d ds ih =>
    rw [Nat.ofDigitChars_cons]
    exact Nat.le_trans (by omega) (ih _)

/-- One more digit behind a number. -/
def readDigit (most n : ℕ) (c : Char) : Option ℕ :=
  let next := 10 * n + (c.toNat - '0'.toNat)
  if c.isDigit && next ≤ most then some next else none

theorem natural?_eq (most : ℕ) (cs : List Char) :
    natural? most cs = if cs.isEmpty then none else cs.foldlM (readDigit most) 0 :=
  rfl

/-- A number that is too large stays so whatever digits are behind it, and reading may stop
there. -/
theorem foldlM_readDigit_eq_some_iff {most start n : ℕ} (hstart : start ≤ most) (ds : List Char) :
    ds.foldlM (readDigit most) start = some n ↔
      (∀ c ∈ ds, c.isDigit) ∧ Nat.ofDigitChars 10 ds start = n ∧ n ≤ most := by
  induction ds generalizing start with
  | nil =>
    have hsome : some start = some n ↔ start = n ∧ n ≤ most := by grind
    simpa [Nat.ofDigitChars] using hsome
  | cons d ds ih =>
    rw [List.foldlM_cons, Nat.ofDigitChars_cons, readDigit, List.forall_mem_cons]
    generalize 10 * start + (d.toNat - '0'.toNat) = next
    have hle := le_ofDigitChars next ds
    by_cases hd : d.isDigit
    · by_cases hnext : next ≤ most
      · simp [hd, hnext, ih hnext]
      · simp [hd, hnext]
        omega
    · simp [hd]

theorem natural?_eq_some_iff {most n : ℕ} :
    natural? most cs = some n ↔ Digits cs ∧ number cs = n ∧ n ≤ most := by
  cases cs with
  | nil => simp [natural?, Digits]
  | cons c cs =>
    rw [natural?_eq, List.isEmpty_cons, if_neg Bool.false_ne_true,
      foldlM_readDigit_eq_some_iff (Nat.zero_le most)]
    simp [Digits, number]

/-- The limit to the digits behind a sign, or without one, is that their value fits. -/
theorem map_natural?_eq_some_iff {most : ℕ} {value : ℕ → Int}
    (hfits : ∀ m, m ≤ most ↔ -2 ^ 63 ≤ value m ∧ value m < 2 ^ 63) {n : Int64} :
    (natural? most ds).map (fun m => Int64.ofInt (value m)) = some n ↔
      Digits ds ∧ value (number ds) = n.toInt := by
  rw [Option.map_eq_some_iff]
  constructor
  · rintro ⟨m, hm, rfl⟩
    obtain ⟨hdigits, rfl, hle⟩ := natural?_eq_some_iff.mp hm
    obtain ⟨hmin, hmax⟩ := (hfits _).mp hle
    exact ⟨hdigits, (Int64.toInt_ofInt_of_le hmin hmax).symm⟩
  · rintro ⟨hdigits, hvalue⟩
    have hle : number ds ≤ most := (hfits _).mpr (hvalue ▸ ⟨n.le_toInt, n.toInt_lt⟩)
    refine ⟨number ds, natural?_eq_some_iff.mpr ⟨hdigits, rfl, hle⟩, ?_⟩
    rw [hvalue, Int64.ofInt_toInt]

theorem int64?_minus (ds : List Char) : int64? ('-' :: ds) =
    (natural? (2 ^ 63) ds).map fun m : ℕ => Int64.ofInt (-(m : Int)) := by
  have hmost : Int64.minValue.toInt.natAbs = 2 ^ 63 := by decide
  rw [int64?, hmost]
  cases natural? (2 ^ 63) ds <;> rfl

theorem int64?_plus (ds : List Char) : int64? ('+' :: ds) =
    (natural? (2 ^ 63 - 1) ds).map fun m : ℕ => Int64.ofInt (m : Int) := by
  have hmost : Int64.maxValue.toInt.natAbs = 2 ^ 63 - 1 := by decide
  rw [int64?, hmost]
  cases natural? (2 ^ 63 - 1) ds <;> rfl

theorem int64?_unsigned (hminus : cs.head? ≠ some '-') (hplus : cs.head? ≠ some '+') :
    int64? cs = (natural? (2 ^ 63 - 1) cs).map fun m : ℕ => Int64.ofInt (m : Int) := by
  have hmost : Int64.maxValue.toInt.natAbs = 2 ^ 63 - 1 := by decide
  unfold int64?
  split
  · exact absurd rfl hminus
  · exact absurd rfl hplus
  · rw [hmost]
    cases natural? (2 ^ 63 - 1) cs <;> rfl

/-- A number of 64 signed bits is read from the texts that stand for it, and from no others. The
least one has no counterpart with a plus. -/
theorem int64?_eq_some_iff {n : Int64} : int64? cs = some n ↔ Spells cs n.toInt := by
  by_cases hminus : cs.head? = some '-'
  · obtain ⟨ds, rfl⟩ := List.head?_eq_some_iff.mp hminus
    rw [int64?_minus, map_natural?_eq_some_iff fun m => by omega, spells_minus_iff]
  by_cases hplus : cs.head? = some '+'
  · obtain ⟨ds, rfl⟩ := List.head?_eq_some_iff.mp hplus
    rw [int64?_plus, map_natural?_eq_some_iff fun m => by omega, spells_plus_iff]
  · rw [int64?_unsigned hminus hplus, map_natural?_eq_some_iff fun m => by omega,
      spells_unsigned_iff hminus hplus]

theorem digits_toDigits (n : ℕ) : Digits (Nat.toDigits 10 n) :=
  ⟨Nat.toDigits_ne_nil, fun _ hc => Nat.isDigit_of_mem_toDigits (by decide) (by decide) hc⟩

theorem number_toDigits (n : ℕ) : number (Nat.toDigits 10 n) = n := Nat.ofDigitChars_ten_toDigits

theorem spells_decimal (n : Int) : Spells (decimal n).toList n := by
  rw [decimal, String.toList_ofList, decimalChars]
  split
  · exact spells_minus_iff.mpr ⟨digits_toDigits _, by rw [number_toDigits]; omega⟩
  · have hdigits := Spells.unsigned (digits_toDigits n.natAbs)
    rw [number_toDigits] at hdigits
    rwa [Int.natAbs_of_nonneg (by omega)] at hdigits

theorem int64?_decimal {n : Int} (hmin : Int64.minValue.toInt ≤ n)
    (hmax : n ≤ Int64.maxValue.toInt) : int64? (decimal n).toList = some (Int64.ofInt n) := by
  have hmax' : n < 2 ^ 63 := Int.lt_of_le_of_lt hmax (by decide)
  rw [int64?_eq_some_iff, Int64.toInt_ofInt_of_le hmin hmax']
  exact spells_decimal n

end NestedShell.Text

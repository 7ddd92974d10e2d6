import Mathlib.Tactic.IntervalCases
import Mathlib.Tactic.SplitIfs
import NestedShell.Text.Utf8

/-! Reading bytes as UTF-8 undoes writing a text as UTF-8, and an ASCII byte in what is written is
a character of its own. -/
namespace NestedShell.Text.Utf8

/-- Code points lie below the surrogates, or between those and the limit. -/
theorem toNat_range (c : Char) : c.toNat < 0xD800 ∨ 0xDFFF < c.toNat ∧ c.toNat < 0x110000 := c.valid

theorem toNat_ofNat {n : ℕ} (h : n < 256) : (UInt8.ofNat n).toNat = n := by
  rw [UInt8.toNat_ofNat']
  omega

theorem lead_one {n : ℕ} (h : n < 0x80) : lead (UInt8.ofNat n) = .whole (Char.ofNat n) := by
  simp [lead, UInt8.lt_iff_toNat_lt, toNat_ofNat (n := n) (by omega), h]

theorem lead_two {a : ℕ} (hlow : 2 ≤ a) (hhigh : a < 32) :
    lead (UInt8.ofNat (a + 0xC0)) = .starts ⟨a, 1, 0x80, 0xBF⟩ := by
  interval_cases a <;> rfl

/-- After the least first byte a longer form than need be is left out, after `0xED` the
surrogates. -/
theorem lead_three {a : ℕ} (h : a < 16) :
    lead (UInt8.ofNat (a + 0xE0)) =
      .starts ⟨a, 2, if a = 0 then 0xA0 else 0x80, if a = 13 then 0x9F else 0xBF⟩ := by
  interval_cases a <;> rfl

theorem lead_four {a : ℕ} (h : a < 5) :
    lead (UInt8.ofNat (a + 0xF0)) =
      .starts ⟨a, 3, if a = 0 then 0x90 else 0x80, if a = 4 then 0x8F else 0xBF⟩ := by
  interval_cases a <;> rfl

theorem decodeFrom_lead {n : ℕ} {p : Pending} (h : lead (UInt8.ofNat n) = .starts p)
    (rest : List UInt8) :
    decodeFrom none (UInt8.ofNat n :: rest) = decodeFrom (some p) rest := by
  simp [decodeFrom, begin?, h]

theorem tail_range {t : ℕ} {low high : UInt8} (ht : t < 64) (hlow : low.toNat ≤ t + 0x80)
    (hhigh : t + 0x80 ≤ high.toNat) :
    (low ≤ UInt8.ofNat (t + 0x80) ∧ UInt8.ofNat (t + 0x80) ≤ high) ∧
      (UInt8.ofNat (t + 0x80)).toNat % 64 = t := by
  have hb : (UInt8.ofNat (t + 0x80)).toNat = t + 0x80 := toNat_ofNat (by omega)
  simp only [UInt8.le_iff_toNat_le, hb]
  omega

/-- The last byte of a character; `t` are the bits it brings. -/
theorem decodeFrom_last {bits t : ℕ} {low high : UInt8} (ht : t < 64)
    (hlow : low.toNat ≤ t + 0x80) (hhigh : t + 0x80 ≤ high.toNat) (rest : List UInt8) :
    decodeFrom (some ⟨bits, 1, low, high⟩) (UInt8.ofNat (t + 0x80) :: rest) =
      some (Char.ofNat (bits * 64 + t)) :: decodeFrom none rest := by
  obtain ⟨hrange, hbits⟩ := tail_range ht hlow hhigh
  simp only [decodeFrom, hrange, hbits, and_self, if_true]

theorem decodeFrom_more {bits owed t : ℕ} {low high : UInt8} (ht : t < 64)
    (hlow : low.toNat ≤ t + 0x80) (hhigh : t + 0x80 ≤ high.toNat) (rest : List UInt8) :
    decodeFrom (some ⟨bits, owed + 2, low, high⟩) (UInt8.ofNat (t + 0x80) :: rest) =
      decodeFrom (some ⟨bits * 64 + t, owed + 1, 0x80, 0xBF⟩) rest := by
  obtain ⟨hrange, hbits⟩ := tail_range ht hlow hhigh
  have howed : owed + 2 ≠ 1 := by omega
  simp only [decodeFrom, hrange, hbits, howed, and_self, if_true, if_false,
    Nat.reduceSubDiff]

/-- The bits spread over the bytes of a character are put together again. -/
theorem decodeFrom_utf8EncodeChar (c : Char) (rest : List UInt8) :
    decodeFrom none (String.utf8EncodeChar c ++ rest) = some c :: decodeFrom none rest := by
  have hrange := toNat_range c
  have hval : c.val.toNat = c.toNat := rfl
  have hc : ∀ n, n = c.toNat → Char.ofNat n = c := by
    rintro n rfl
    exact Char.ofNat_toNat c
  unfold String.utf8EncodeChar
  simp only [hval]
  generalize c.toNat = v at hrange hc
  split
  · simp [decodeFrom, begin?, lead_one (n := v) (by omega), hc v rfl]
  split
  · simp only [List.cons_append, List.nil_append]
    rw [decodeFrom_lead (lead_two (by omega) (by omega)),
      decodeFrom_last (by omega) (by simp) (by simp; omega), hc _ (by omega)]
  split
  · simp only [List.cons_append, List.nil_append]
    rw [decodeFrom_lead (lead_three (by omega)),
      decodeFrom_more (by omega) (by split <;> simp; omega) (by split <;> simp <;> omega),
      decodeFrom_last (by omega) (by simp) (by simp; omega), hc _ (by omega)]
  · simp only [List.cons_append, List.nil_append]
    rw [decodeFrom_lead (lead_four (by omega)),
      decodeFrom_more (by omega) (by split <;> simp; omega) (by split <;> simp <;> omega),
      decodeFrom_more (by omega) (by simp) (by simp; omega),
      decodeFrom_last (by omega) (by simp) (by simp; omega), hc _ (by omega)]

/-- What is written of characters. -/
def bytes (cs : List Char) : List UInt8 := cs.flatMap String.utf8EncodeChar

@[simp] theorem bytes_nil : bytes [] = [] := rfl

@[simp] theorem bytes_cons (c : Char) (cs : List Char) :
    bytes (c :: cs) = String.utf8EncodeChar c ++ bytes cs := rfl

@[simp] theorem bytes_append (cs ds : List Char) : bytes (cs ++ ds) = bytes cs ++ bytes ds :=
  List.flatMap_append

@[simp] theorem bytes_eq_nil_iff (cs : List Char) : bytes cs = [] ↔ cs = [] := by
  cases cs <;> simp [String.utf8EncodeChar_ne_nil]

theorem decode_bytes (cs : List Char) : decode (bytes cs) = cs.map some := by
  unfold decode
  induction cs with
  | nil => rfl
  | cons c cs ih => rw [bytes_cons, decodeFrom_utf8EncodeChar, ih, List.map_cons]

/-- What is written of a text is read as that text. -/
theorem text?_bytes (cs : List Char) : text? (bytes cs) = some (String.ofList cs) := by
  have hall : (cs.map some).mapM id = some cs := by
    induction cs with
    | nil => rfl
    | cons c cs ih => simp [List.mapM_cons, ih]
  rw [text?, decode_bytes, hall, Option.map_some]

/-- The bytes of a character beyond ASCII are all beyond ASCII. -/
theorem le_of_mem_utf8EncodeChar {c : Char} (h : 0x80 ≤ c.toNat) :
    ∀ b ∈ String.utf8EncodeChar c, 0x80 ≤ b.toNat := by
  have hrange := toNat_range c
  have hval : c.val.toNat = c.toNat := rfl
  unfold String.utf8EncodeChar
  simp only [hval, show ¬ c.toNat ≤ 127 by omega, if_false]
  split_ifs <;>
    simp only [List.forall_mem_cons, List.not_mem_nil, false_implies, implies_true, and_true,
      UInt8.toNat_ofNat'] <;>
    omega

theorem utf8EncodeChar_of_lt {c : Char} (h : c.toNat < 0x80) :
    String.utf8EncodeChar c = [UInt8.ofNat c.toNat] :=
  if_pos (Nat.le_of_lt_succ h)

/-- An ASCII byte in what is written of a character is that character. -/
theorem mem_utf8EncodeChar_iff {b : UInt8} (hb : b.toNat < 0x80) (c : Char) :
    b ∈ String.utf8EncodeChar c ↔ c = Char.ofNat b.toNat := by
  have hb' : (Char.ofNat b.toNat).toNat = b.toNat := by
    rw [Char.ofNat, dif_pos (Or.inl (by omega))]
    rfl
  by_cases h : c.toNat < 0x80
  · rw [utf8EncodeChar_of_lt h, List.mem_singleton, ← UInt8.toNat_inj, toNat_ofNat (by omega),
      ← Char.toNat_inj, hb', eq_comm]
  · have hle := le_of_mem_utf8EncodeChar (c := c) (by omega) b
    constructor
    · intro hmem
      have := hle hmem
      omega
    · rintro rfl
      omega

end NestedShell.Text.Utf8

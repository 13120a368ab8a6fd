import Remittance.Decimal.Numeral
import Mathlib.Tactic.Ring

/-!
# Values of numerals

How the number that a run of digits spells grows with the run, and the digits of a number: they
spell it, and there are as many of them as it needs.
-/

set_option autoImplicit false

namespace Remittance.Numeral

/-- Digits are read after a number that stands before them. -/
theorem foldl_value (ds : List Char) (n : Nat) :
    ds.foldl (fun n c => n * 10 + (c.toNat - 48)) n = n * 10 ^ ds.length + value ds := by
  induction ds generalizing n with
  | nil => simp [value]
  | cons c ds ih =>
    rw [value, List.foldl_cons, List.foldl_cons, ih, ih (0 * 10 + (c.toNat - 48)),
      List.length_cons, pow_succ]
    ring

/-- The first digits count as many times ten as there are digits after them. -/
theorem value_append (ds es : List Char) :
    value (ds ++ es) = value ds * 10 ^ es.length + value es := by
  rw [value, List.foldl_append, foldl_value]
  rfl

/-- Zeros spell zero. -/
theorem value_zeros (count : Nat) : value (List.replicate count '0') = 0 := by
  induction count with
  | zero => rfl
  | succ n ih =>
    rw [List.replicate_succ, value, List.foldl_cons, foldl_value, ih]
    simp

/-- The digits are a range of characters. -/
theorem isDigit_iff (c : Char) : c.isDigit = true ↔ 48 ≤ c.toNat ∧ c.toNat ≤ 57 := by
  rw [Char.isDigit, Bool.and_eq_true, decide_eq_true_iff, decide_eq_true_iff]
  exact Iff.rfl

/-- A numeral is a run of digits, at least one. -/
theorem isNumeral_iff {ds : List Char} :
    isNumeral ds = true ↔ ds ≠ [] ∧ ∀ c ∈ ds, c.isDigit = true := by
  simp [isNumeral]

/-- The number of a run is below the power of ten of its length. -/
theorem value_lt {ds : List Char} (hdigits : ∀ c ∈ ds, c.isDigit = true) :
    value ds < 10 ^ ds.length := by
  induction ds with
  | nil => exact Nat.one_pos
  | cons c ds ih =>
    have hlater := ih fun d hd => hdigits d (List.mem_cons_of_mem _ hd)
    have hc := (isDigit_iff c).mp (hdigits c List.mem_cons_self)
    have hfirst : (c.toNat - 48) * 10 ^ ds.length ≤ 9 * 10 ^ ds.length :=
      Nat.mul_le_mul_right _ (by omega)
    rw [value, List.foldl_cons, foldl_value, List.length_cons, pow_succ, Nat.zero_mul, Nat.zero_add]
    omega

/-- The digits of a number spell it. -/
theorem value_digits (n : Nat) : value (digits n) = n := by
  have hfold : value (digits n) = Nat.ofDigitChars 10 (Nat.toDigits 10 n) 0 := by
    unfold value digits Nat.ofDigitChars
    congr 1
    funext m c
    rw [Nat.mul_comm]
    rfl
  rw [hfold, Nat.ofDigitChars_ten_toDigits]

/-- The digits of a number are digits. -/
theorem isDigit_of_mem_digits {n : Nat} {c : Char} (hc : c ∈ digits n) : c.isDigit = true :=
  Nat.isDigit_of_mem_toDigits (by decide) (by decide) hc

/-- A number has a digit. -/
theorem length_digits_pos (n : Nat) : 0 < (digits n).length := Nat.length_toDigits_pos

/-- A number has at most so many digits if and only if it is below that power of ten. -/
theorem length_digits_le_iff {n k : Nat} (hk : 0 < k) : (digits n).length ≤ k ↔ n < 10 ^ k :=
  Nat.length_toDigits_le_iff (by decide) hk

/-- A number is not below the power of ten of its first digit. -/
theorem pow_length_digits_le {n : Nat} (hn : 0 < n) : 10 ^ ((digits n).length - 1) ≤ n := by
  by_cases hone : (digits n).length = 1
  · rw [hone]
    exact hn
  · have hpos := length_digits_pos n
    have hmany := mt (length_digits_le_iff (k := (digits n).length - 1) (by omega)).mpr
      (by omega : ¬ (digits n).length ≤ (digits n).length - 1)
    omega

/-- The first digit of a positive number is no zero. -/
theorem digits_eq_cons {n : Nat} (hn : 0 < n) : ∃ c ds, digits n = c :: ds ∧ c ≠ '0' := by
  cases hds : digits n with
  | nil =>
    have hpos := length_digits_pos n
    rw [hds] at hpos
    cases hpos
  | cons c ds =>
    refine ⟨c, ds, rfl, ?_⟩
    rintro rfl
    have hlow := pow_length_digits_le hn
    have hvalue := value_digits n
    have hlt : value ds < 10 ^ ds.length := value_lt fun d hd =>
      isDigit_of_mem_digits (hds ▸ List.mem_cons_of_mem _ hd)
    rw [hds, List.length_cons, Nat.add_sub_cancel] at hlow
    rw [hds, value, List.foldl_cons, foldl_value] at hvalue
    simp at hvalue
    omega

/-- Zeros in front do not change what is spelt. -/
theorem value_padded (width n : Nat) : value (padded width n) = n := by
  rw [padded, value_append, value_zeros, value_digits, Nat.zero_mul, Nat.zero_add]

/-- With zeros in front there are still digits only. -/
theorem isDigit_of_mem_padded {width n : Nat} {c : Char} (hc : c ∈ padded width n) :
    c.isDigit = true := by
  rcases List.mem_append.mp hc with hzero | hdigit
  · rw [List.eq_of_mem_replicate hzero]
    rfl
  · exact isDigit_of_mem_digits hdigit

/-- With zeros in front there is still a digit. -/
theorem padded_ne_nil (width n : Nat) : padded width n ≠ [] := by
  rw [padded]
  exact List.append_ne_nil_of_right_ne_nil _ (List.ne_nil_of_length_pos (length_digits_pos n))

/-- A number that has no more digits than the width is filled up to it. -/
theorem length_padded {width n : Nat} (hwidth : 0 < width) (hn : n < 10 ^ width) :
    (padded width n).length = width := by
  have hdigits := (length_digits_le_iff hwidth).mpr hn
  rw [padded, List.length_append, List.length_replicate]
  omega

end Remittance.Numeral

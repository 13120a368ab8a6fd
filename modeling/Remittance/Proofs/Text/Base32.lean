import Remittance.Text.Base32
import Remittance.Proofs.Text.Octets

/-!
# Base 32 there and back

A text that is read as octets is the text of these octets, and every byte string is read back from
its text. So there is one text for each byte string, and no other is read.
-/

set_option autoImplicit false

namespace Remittance.Base32

/-- A digit has the value that it was written of. -/
theorem value?_digit {n : Nat} (hn : n < 32) : value? (digit n) = some n := by
  have hall : ∀ m < 32, value? (digit m) = some m := by decide
  exact hall n hn

/-- A character that stands for a number is the digit of that number. -/
theorem digit_of_value? {c : Char} {n : Nat} (hc : value? c = some n) : n < 32 ∧ digit n = c := by
  unfold value? at hc
  split at hc
  · rename_i hletter
    have hlow : 65 ≤ c.toNat := hletter.1
    have hhigh : c.toNat ≤ 90 := hletter.2
    cases hc
    refine ⟨by omega, ?_⟩
    rw [digit, if_pos (by omega), Nat.add_sub_cancel' hlow, Char.ofNat_toNat]
  · split at hc
    · rename_i hdigit
      have hlow : 50 ≤ c.toNat := hdigit.1
      have hhigh : c.toNat ≤ 55 := hdigit.2
      cases hc
      refine ⟨by omega, ?_⟩
      rw [digit, if_neg (by omega), Nat.add_sub_cancel' (by omega), Char.ofNat_toNat]
    · cases hc

/-- One more digit is added to thirty-two times the number. -/
theorem number?_concat (cs : List Char) (c : Char) :
    number? (cs ++ [c]) =
      (number? cs).bind fun n => (value? c).bind fun v => some (n * 32 + v) := by
  rw [number?, List.foldl_append]
  rfl

/-- So many digits are written as were asked for. -/
@[simp] theorem length_digits (width n : Nat) : (digits width n).length = width := by
  induction width generalizing n with
  | zero => rfl
  | succ w ih => simp [digits, ih]

/-- The digits of a number spell it, as far as they go. -/
theorem number?_digits (width n : Nat) : number? (digits width n) = some (n % 32 ^ width) := by
  induction width generalizing n with
  | zero => simp [digits, number?, Nat.mod_one]
  | succ w ih =>
    have hmod : n % 32 ^ (w + 1) = n % 32 + 32 * (n / 32 % 32 ^ w) := by
      rw [Nat.pow_succ, Nat.mul_comm, Nat.mod_mul]
    rw [digits, number?_concat, ih, value?_digit (Nat.mod_lt n (by decide)), hmod]
    simp only [Option.bind_some, Option.some.injEq]
    omega

/-- Digits that spell a number are those of that number. -/
theorem digits_of_number? {cs : List Char} {n : Nat} (hcs : number? cs = some n) :
    n < 32 ^ cs.length ∧ digits cs.length n = cs := by
  induction cs using List.reverseRecOn generalizing n with
  | nil =>
    cases hcs
    exact ⟨Nat.one_pos, rfl⟩
  | append_singleton cs c ih =>
    rw [number?_concat] at hcs
    obtain ⟨m, hm, hrest⟩ := Option.bind_eq_some_iff.mp hcs
    obtain ⟨v, hv, heq⟩ := Option.bind_eq_some_iff.mp hrest
    cases heq
    obtain ⟨hlt, hdigits⟩ := ih hm
    obtain ⟨hv32, hdigit⟩ := digit_of_value? hv
    have hhigh : (m * 32 + v) / 32 = m := by omega
    have hlow : (m * 32 + v) % 32 = v := by omega
    rw [List.length_append, List.length_singleton, pow_succ]
    refine ⟨by omega, ?_⟩
    rw [digits, hhigh, hlow, hdigits, hdigit]

/-- The text of a byte string has as many bits as the byte string and at most four more. -/
theorem pow_width {count width spare : Nat} (hspare : 5 * width = 8 * count + spare) :
    (32 : Nat) ^ width = 256 ^ count * 2 ^ spare := by
  have h32 : (32 : Nat) = 2 ^ 5 := rfl
  have h256 : (256 : Nat) = 2 ^ 8 := rfl
  rw [h32, h256, ← pow_mul, ← pow_mul, ← pow_add, hspare]

/-- Every byte string is read back from its text. -/
theorem decode?_encode (b : Octets) : decode? (encode b) = some b := by
  have hcount : 5 * ((8 * b.length + 4) / 5) / 8 = b.length := by omega
  have hspare : 5 * ((8 * b.length + 4) / 5) - 8 * b.length < 5 := by omega
  have hbits : 5 * ((8 * b.length + 4) / 5) =
      8 * b.length + (5 * ((8 * b.length + 4) / 5) - 8 * b.length) := by omega
  have hlt := Nat.mul_lt_mul_of_pos_right (Octets.toNat_lt b)
    (Nat.two_pow_pos (5 * ((8 * b.length + 4) / 5) - 8 * b.length))
  rw [← pow_width hbits] at hlt
  simp only [decode?, encode, String.toList_ofList, length_digits, number?_digits, hcount,
    Nat.pow_eq, Nat.mod_eq_of_lt hlt, Option.bind_eq_bind, Option.bind_some]
  rw [if_pos ⟨hspare, Nat.mul_mod_left _ _⟩, Nat.mul_div_cancel _ (Nat.two_pow_pos _),
    Octets.ofNat_toNat]

/-- A text that is read is the text of the octets that were read. -/
theorem encode_of_decode? {s : String} {b : Octets} (hs : decode? s = some b) : encode b = s := by
  unfold decode? at hs
  obtain ⟨n, hn, hrest⟩ := Option.bind_eq_some_iff.mp hs
  split at hrest
  · rename_i hcut
    cases hrest
    obtain ⟨hspare, hdivides⟩ := hcut
    obtain ⟨hlt, hdigits⟩ := digits_of_number? hn
    generalize hwidth : s.toList.length = width at *
    generalize hcount : 5 * width / 8 = count at *
    have hbits : 5 * width = 8 * count + (5 * width - 8 * count) := by omega
    have hlength : (8 * count + 4) / 5 = width := by omega
    have hhigh : n / 2 ^ (5 * width - 8 * count) < 256 ^ count := by
      rw [Nat.div_lt_iff_lt_mul (Nat.two_pow_pos _), ← pow_width hbits]
      exact hlt
    have hback : n / 2 ^ (5 * width - 8 * count) * 2 ^ (5 * width - 8 * count) = n :=
      Nat.div_mul_cancel (Nat.dvd_of_mod_eq_zero hdivides)
    simp only [encode, Octets.length_ofNat, Nat.pow_eq, Octets.toNat_ofNat, hlength,
      Nat.mod_eq_of_lt hhigh, hback, hdigits]
    exact String.ofList_toList
  · cases hrest

end Remittance.Base32

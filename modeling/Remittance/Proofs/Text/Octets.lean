import Remittance.Text.Octets
import Mathlib.Data.List.Induction
import Mathlib.Tactic.Ring

/-!
# Octets and numbers

Writing a number as octets and reading octets as a number are inverse to each other, as far as the
width goes. Octets that are read from hexadecimal digits are written with the same digits.
-/

set_option autoImplicit false

namespace Remittance.Octets

/-- One more octet is added to 256 times the number. -/
theorem toNat_concat (b : Octets) (o : UInt8) : toNat (b ++ [o]) = toNat b * 256 + o.toNat := by
  simp [toNat]

/-- The number of so many octets is bounded. -/
theorem toNat_lt (b : Octets) : toNat b < 256 ^ b.length := by
  induction b using List.reverseRecOn with
  | nil => exact Nat.one_pos
  | append_singleton b o ih =>
    have ho : o.toNat < 256 := o.toNat_lt
    rw [toNat_concat, List.length_append, List.length_singleton, pow_succ]
    omega

/-- Octets are those of their number. -/
theorem ofNat_toNat (b : Octets) : ofNat b.length (toNat b) = b := by
  induction b using List.reverseRecOn with
  | nil => rfl
  | append_singleton b o ih =>
    have ho : o.toNat < 256 := o.toNat_lt
    have hhigh : (toNat b * 256 + o.toNat) / 256 = toNat b := by omega
    have hlow : UInt8.ofNat (toNat b * 256 + o.toNat) = o := by
      rw [← UInt8.toNat_inj, UInt8.toNat_ofNat']
      omega
    rw [List.length_append, List.length_singleton, toNat_concat, ofNat, hhigh, hlow, ih]

/-- A number is that of its octets, as far as they go. -/
theorem toNat_ofNat (width n : Nat) : toNat (ofNat width n) = n % 256 ^ width := by
  induction width generalizing n with
  | zero => simp [ofNat, toNat, Nat.mod_one]
  | succ w ih =>
    have hmod : n % 256 ^ (w + 1) = n % 256 + 256 * (n / 256 % 256 ^ w) := by
      rw [Nat.pow_succ, Nat.mul_comm, Nat.mod_mul]
    have hlow : (UInt8.ofNat n).toNat = n % 256 := UInt8.toNat_ofNat'
    rw [ofNat, toNat_concat, ih, hlow, hmod]
    omega

/-- The digit of the value of a digit is that digit in lower case. -/
theorem hexDigit_of_hexValue? {c : Char} {n : Nat} (hvalue : hexValue? c = some n) :
    n < 16 ∧ hexDigit n = c.toLower := by
  have hall : ∀ m < 103, ∀ n ∈ hexValue? (Char.ofNat m),
      n < 16 ∧ hexDigit n = (Char.ofNat m).toLower := by decide
  have hsmall : c.toNat < 103 := by
    unfold hexValue? at hvalue
    split at hvalue
    · rename_i hrange
      exact Nat.lt_of_le_of_lt hrange.2 (by decide)
    split at hvalue
    · rename_i hrange
      exact Nat.lt_of_le_of_lt hrange.2 (by decide)
    split at hvalue
    · rename_i hrange
      exact Nat.lt_of_le_of_lt hrange.2 (by decide)
    · cases hvalue
  have hc := hall c.toNat hsmall n
  rw [Char.ofNat_toNat] at hc
  exact hc hvalue

/-- Octets that are spelt by hexadecimal digits are written with these digits, in lower case. -/
theorem toList_hex_of_ofHexDigits? {cs : List Char} {b : Octets}
    (hread : ofHexDigits? cs = some b) : (hex b).toList = cs.map Char.toLower := by
  induction cs using ofHexDigits?.induct generalizing b with
  | case1 =>
    cases hread
    rfl
  | case2 c => cases hread
  | case3 h l rest ih =>
    obtain ⟨high, hhigh, hread⟩ := Option.bind_eq_some_iff.mp hread
    obtain ⟨low, hlow, hread⟩ := Option.bind_eq_some_iff.mp hread
    obtain ⟨more, hmore, hread⟩ := Option.bind_eq_some_iff.mp hread
    cases hread
    obtain ⟨hhigh, hh⟩ := hexDigit_of_hexValue? hhigh
    obtain ⟨hlow, hl⟩ := hexDigit_of_hexValue? hlow
    have hoctet : (UInt8.ofNat (high * 16 + low)).toNat = high * 16 + low := by
      rw [UInt8.toNat_ofNat']
      omega
    have hfirst : (high * 16 + low) / 16 = high := by omega
    have hsecond : (high * 16 + low) % 16 = low := by omega
    have hrest := ih hmore
    rw [hex, String.toList_ofList] at hrest ⊢
    rw [List.flatMap_cons, hoctet, hfirst, hsecond, hh, hl, hrest]
    rfl

/-- A digit in either case has the value whose digit it is in lower case. -/
theorem hexValue?_of_toLower {c : Char} {n : Nat} (hn : n < 16) (hlower : c.toLower = hexDigit n) :
    hexValue? c = some n := by
  have hall : ∀ m < 103, ∀ n < 16, (Char.ofNat m).toLower = hexDigit n →
      hexValue? (Char.ofNat m) = some n := by decide +kernel
  have hdigit : ∀ n < 16, (hexDigit n).toNat < 103 := by decide
  have hsmall : c.toNat < 103 := by
    have hbelow := hdigit n hn
    rw [← hlower] at hbelow
    unfold Char.toLower at hbelow
    split at hbelow
    · rename_i hupper
      have hle : c.toNat ≤ 90 := hupper.2
      omega
    · exact hbelow
  have hc := hall c.toNat hsmall n hn
  rw [Char.ofNat_toNat] at hc
  exact hc hlower

/-- Octets are read from the digits that they are written with, in either case. -/
theorem ofHexDigits?_of_toList_hex {cs : List Char} {b : Octets}
    (hspelt : (hex b).toList = cs.map Char.toLower) : ofHexDigits? cs = some b := by
  rw [hex, String.toList_ofList] at hspelt
  induction b generalizing cs with
  | nil =>
    have hnil : cs = [] := List.map_eq_nil_iff.mp hspelt.symm
    rw [hnil]
    rfl
  | cons o b ih =>
    have ho : o.toNat < 256 := o.toNat_lt
    obtain ⟨h, cs', rfl, hhigh, hspelt⟩ := List.map_eq_cons_iff.mp hspelt.symm
    obtain ⟨l, rest, rfl, hlow, hrest⟩ := List.map_eq_cons_iff.mp hspelt
    have hoctet : UInt8.ofNat (o.toNat / 16 * 16 + o.toNat % 16) = o := by
      rw [← UInt8.toNat_inj, UInt8.toNat_ofNat']
      omega
    rw [ofHexDigits?, hexValue?_of_toLower (by omega) hhigh, hexValue?_of_toLower (by omega) hlow,
      ih hrest.symm]
    simp only [Option.bind_eq_bind, Option.bind_some, Option.pure_def, hoctet]

/-- Digits in pairs spell octets. -/
theorem exists_ofHexDigits? {cs : List Char} {n : Nat} (hlength : cs.length = 2 * n)
    (hdigits : ∀ c ∈ cs, (hexValue? c).isSome) : ∃ b, ofHexDigits? cs = some b ∧ b.length = n := by
  induction cs using ofHexDigits?.induct generalizing n with
  | case1 =>
    rw [List.length_nil] at hlength
    exact ⟨[], rfl, by rw [List.length_nil]; omega⟩
  | case2 c =>
    rw [List.length_singleton] at hlength
    omega
  | case3 h l rest ih =>
    simp only [List.length_cons] at hlength
    obtain ⟨high, hhigh⟩ := Option.isSome_iff_exists.mp (hdigits h (by simp))
    obtain ⟨low, hlow⟩ := Option.isSome_iff_exists.mp (hdigits l (by simp))
    obtain ⟨more, hmore, hcount⟩ := ih (n := n - 1) (by omega) fun c hc => hdigits c (by simp [hc])
    refine ⟨UInt8.ofNat (high * 16 + low) :: more, ?_, ?_⟩
    · rw [ofHexDigits?, hhigh, hlow, hmore]
      rfl
    · rw [List.length_cons, hcount]
      omega

/-- Octets are spelt by nothing but digits in pairs. -/
theorem digits_of_ofHexDigits? {cs : List Char} {b : Octets} (hread : ofHexDigits? cs = some b) :
    cs.length = 2 * b.length ∧ ∀ c ∈ cs, (hexValue? c).isSome := by
  induction cs using ofHexDigits?.induct generalizing b with
  | case1 =>
    cases hread
    exact ⟨rfl, by simp⟩
  | case2 c => cases hread
  | case3 h l rest ih =>
    obtain ⟨high, hhigh, hread⟩ := Option.bind_eq_some_iff.mp hread
    obtain ⟨low, hlow, hread⟩ := Option.bind_eq_some_iff.mp hread
    obtain ⟨more, hmore, hread⟩ := Option.bind_eq_some_iff.mp hread
    cases hread
    obtain ⟨hlength, hdigits⟩ := ih hmore
    refine ⟨?_, ?_⟩
    · simp only [List.length_cons, hlength]
      omega
    · simpa [hhigh, hlow] using hdigits

end Remittance.Octets

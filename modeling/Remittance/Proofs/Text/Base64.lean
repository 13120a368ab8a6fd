import Remittance.Text.Base64

/-!
# Base 64 there and back

Every byte string is read back from its text, also by the lenient reader. Of the two directions only
this one holds: many texts are read as the same octets.
-/

set_option autoImplicit false

namespace Remittance.Base64

/-- The character of a number is one octet, which stands for that number and is no equals sign. -/
theorem encode_digit {n : Nat} (hn : n < 64) :
    ∃ o, String.utf8EncodeChar (digit n) = [o] ∧ o ≠ 61 ∧ value? o = some n := by
  have hall : ∀ m < 64, ∃ o ∈ String.utf8EncodeChar (digit m),
      String.utf8EncodeChar (digit m) = [o] ∧ o ≠ 61 ∧ value? o = some m := by decide
  obtain ⟨o, -, ho⟩ := hall n hn
  exact ⟨o, ho⟩

/-- A character of the alphabet is read as its number. -/
theorem values?_digit {n : Nat} (hn : n < 64) (count signs : Nat) (rest : Octets) :
    values? count signs (String.utf8EncodeChar (digit n) ++ rest) =
      (values? (count + 1) 0 rest).map (n :: ·) := by
  obtain ⟨o, ho, hsign, hvalue⟩ := encode_digit hn
  rw [ho, List.singleton_append, values?, if_neg hsign, hvalue]

/-- The sign that fills a text up is one octet. -/
theorem utf8EncodeChar_sign : String.utf8EncodeChar '=' = [61] := by decide

/-- Numbers that agree in their last eight bits spell the same octet. -/
theorem ofNat_eq {n : Nat} (o : UInt8) (hn : n % 256 = o.toNat) : UInt8.ofNat n = o := by
  rw [← UInt8.toNat_inj, UInt8.toNat_ofNat', hn]

/-- The characters of a byte string are read, at the beginning of a group, as numbers that spell
it. -/
theorem gather_values? (b : Octets) {count signs : Nat} (hcount : count % 4 = 0) :
    ∃ values, values? count signs ((encodeChars b).flatMap String.utf8EncodeChar) = some values ∧
      gather values = b := by
  fun_induction encodeChars b generalizing count signs with
  | case1 => exact ⟨[], by simp [values?, hcount], rfl⟩
  | case2 a =>
    have ha := a.toNat_lt
    refine ⟨[a.toNat / 4, a.toNat % 4 * 16], ?_, ?_⟩
    · have hplace : (count + 1 + 1) % 4 = 2 := by omega
      simp only [List.flatMap_cons, List.flatMap_nil]
      rw [values?_digit (by omega), values?_digit (by omega), utf8EncodeChar_sign]
      simp [values?, hplace]
    · rw [gather, ofNat_eq a (by omega)]
  | case3 a b =>
    have ha := a.toNat_lt
    have hb := b.toNat_lt
    refine ⟨[a.toNat / 4, a.toNat % 4 * 16 + b.toNat / 16, b.toNat % 16 * 4], ?_, ?_⟩
    · have hplace : (count + 1 + 1 + 1) % 4 = 3 := by omega
      simp only [List.flatMap_cons, List.flatMap_nil]
      rw [values?_digit (by omega), values?_digit (by omega), values?_digit (by omega),
        utf8EncodeChar_sign]
      simp [values?, hplace]
    · rw [gather, ofNat_eq a (by omega), ofNat_eq b (by omega)]
  | case4 a b c rest ih =>
    have ha := a.toNat_lt
    have hb := b.toNat_lt
    have hc := c.toNat_lt
    obtain ⟨values, hvalues, hgather⟩ := @ih (count + 1 + 1 + 1 + 1) 0 (by omega)
    refine ⟨a.toNat / 4 :: (a.toNat % 4 * 16 + b.toNat / 16) ::
      (b.toNat % 16 * 4 + c.toNat / 64) :: (c.toNat % 64) :: values, ?_, ?_⟩
    · simp only [List.flatMap_cons]
      rw [values?_digit (by omega), values?_digit (by omega), values?_digit (by omega),
        values?_digit (by omega), hvalues]
      rfl
    · rw [gather, ofNat_eq a (by omega), ofNat_eq b (by omega), ofNat_eq c (by omega), hgather]

/-- Every byte string is read back from its text. -/
theorem decode?_encode (b : Octets) : decode? (encode b) = some b := by
  obtain ⟨values, hvalues, hgather⟩ := gather_values? b (rfl : 0 % 4 = 0)
  rw [decode?, encode, Octets.ofText, String.toList_ofList, hvalues, Option.map_some, hgather]

end Remittance.Base64

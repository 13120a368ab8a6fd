import Remittance.Json.Writer
import Remittance.Proofs.Decimal.Shortest
import Remittance.Proofs.Json.Grammar

/-!
# Numbers that are written

A number spells itself where it is written. Main statements: `spells_signed` for integers and
`spells_number` for floating-point numbers, whose digits round back in each of the three notations.
-/

set_option autoImplicit false

namespace Remittance.Json

open Numeral (digits)

section Digits

/-- The digits of a number are digits. -/
theorem allDigits_digits (n : Nat) : AllDigits (digits n) :=
  fun _ hc => Numeral.isDigit_of_mem_digits hc

/-- The digits of a number are a whole number. -/
theorem isWhole_digits (n : Nat) : IsWhole (digits n) := by
  rcases Nat.eq_zero_or_pos n with rfl | hn
  · exact .inl rfl
  · obtain ⟨c, ds, hds, hc⟩ := Numeral.digits_eq_cons hn
    exact .inr ⟨c, ds, hds, hc, allDigits_digits n⟩

/-- The first digits of a number are a whole number. -/
theorem isWhole_take {c n : Nat} (hc : 0 < c) (hn : 0 < n) : IsWhole ((digits c).take n) := by
  obtain ⟨d, ds, hds, hd⟩ := Numeral.digits_eq_cons hc
  obtain ⟨n, rfl⟩ : ∃ n', n = n' + 1 := ⟨n - 1, by omega⟩
  refine .inr ⟨d, ds.take n, by rw [hds, List.take_succ_cons], hd, fun d hd => ?_⟩
  exact allDigits_digits c d (List.mem_of_mem_take hd)

/-- The last digits of a number are digits. -/
theorem allDigits_drop (c n : Nat) : AllDigits ((digits c).drop n) :=
  fun d hd => allDigits_digits c d (List.mem_of_mem_drop hd)

/-- Zeros are digits. -/
theorem allDigits_zeros (n : Nat) : AllDigits (List.replicate n '0') := by
  intro d hd
  rw [List.eq_of_mem_replicate hd]
  rfl

end Digits

variable {admits : Nat → Prop}

/-- An integer spells itself, if so many digits are admitted. -/
theorem spells_signed {n : Int} (hadmits : admits (digits n.natAbs).length) :
    SpellsNumber admits (Numeral.signed n) (.int n) := by
  have hspells (negative : Bool) (n : Nat) (h : admits (digits n).length) :
      SpellsNumber admits (withSign negative (digits n))
        (.int (if negative then -(n : Int) else n)) := by
    have hint := SpellsNumber.int negative (isWhole_digits n) h
    rwa [Numeral.value_digits] at hint
  cases n with
  | ofNat n => exact hspells false n hadmits
  | negSucc n => exact hspells true (n + 1) hadmits

section Layouts

open Binary64 (RoundsTo IsNumber)

variable {negative : Bool} {m c : Nat} {e k : Int} {whole part : List Char}

/-- A decimal that rounds to a number of the format is neither too large nor too small to be worked
out. -/
theorem ofDecimal_value (hm : 0 < m) (hnumber : IsNumber (.finite negative m e)) {ds : List Char}
    (hds : AllDigits ds) {power : Int} (h : RoundsTo m e (Numeral.value ds * 10 ^ power)) :
    Binary64.ofDecimal negative (Numeral.value ds) ds.length power = .finite negative m e := by
  obtain ⟨hsmall, hlarge⟩ := Shortest.bounds_of_roundsTo hm hnumber h
  have hten : (1 : ℚ) < 10 := by norm_num
  have hpow : (0 : ℚ) < 10 ^ power := by positivity
  have hpos : 0 < Numeral.value ds := by
    by_contra hzero
    have := h.pos hm
    simp [Nat.le_zero.mp (not_lt.mp hzero)] at this
  refine Binary64.ofDecimal_of_roundsTo hm hnumber hpos ?_ ?_ h
  · have hone : (1 : ℚ) ≤ Numeral.value ds := by exact_mod_cast hpos
    have := (le_mul_of_one_le_left hpow.le hone).trans_lt hlarge
    rw [← zpow_natCast, zpow_lt_zpow_iff_right₀ hten] at this
    exact this.le
  · have hvalue : (Numeral.value ds : ℚ) < 10 ^ (ds.length : Int) := by
      rw [zpow_natCast]
      exact_mod_cast Numeral.value_lt hds
    have : Numeral.value ds * (10 : ℚ) ^ power < 10 ^ (ds.length : Int) * 10 ^ power := by gcongr
    have := hsmall.trans_lt this
    rw [← zpow_add₀ (by norm_num), ← zpow_natCast, ← zpow_neg,
      zpow_lt_zpow_iff_right₀ hten] at this
    push_cast at this
    omega

/-- A decimal with a fraction spells the number of the format that it rounds to. -/
theorem spells_fraction (hm : 0 < m) (hnumber : IsNumber (.finite negative m e))
    (hwhole : IsWhole whole) (hpart : AllDigits part) (hne : part ≠ [])
    (h : RoundsTo m e (Numeral.value (whole ++ part) * 10 ^ (-(part.length : Int)))) :
    SpellsNumber admits (withSign negative (whole ++ '.' :: part))
      (.real (.finite negative m e)) := by
  have hspells := @SpellsNumber.real admits negative _ _ _ _ _ hwhole (.digits hpart hne) .none
    (.inl (List.cons_ne_nil _ _))
  rwa [List.append_nil, zero_sub, ofDecimal_value hm hnumber (hwhole.allDigits.append hpart) h,
    ← withSign_append] at hspells

/-- The point stands behind all digits. -/
theorem spells_layout_whole (hm : 0 < m) (hnumber : IsNumber (.finite negative m e))
    (hc : 0 < c) {zeros : Nat} (h : RoundsTo m e (c * 10 ^ (zeros : Int))) :
    SpellsNumber admits (withSign negative (digits c ++ List.replicate zeros '0' ++ ['.', '0']))
      (.real (.finite negative m e)) := by
  have hwhole : IsWhole (digits c ++ List.replicate zeros '0') := by
    obtain ⟨d, ds, hds, hd⟩ := Numeral.digits_eq_cons hc
    exact .inr ⟨d, ds ++ List.replicate zeros '0', by rw [hds, List.cons_append], hd,
      (allDigits_digits c).append (allDigits_zeros zeros)⟩
  have hzero : AllDigits ['0'] := IsWhole.allDigits (.inl rfl)
  refine spells_fraction hm hnumber hwhole hzero (List.cons_ne_nil _ _) ?_
  have hvalue : (Numeral.value (digits c ++ List.replicate zeros '0' ++ ['0']) *
      10 ^ (-1 : Int) : ℚ) = c * 10 ^ (zeros : Int) := by
    rw [List.append_assoc, ← List.replicate_succ', Numeral.value_append, Numeral.value_zeros,
      Numeral.value_digits, List.length_replicate, zpow_natCast]
    push_cast
    rw [pow_succ]
    ring
  rw [List.length_singleton]
  rwa [← hvalue] at h

/-- The point stands among the digits. -/
theorem spells_layout_point (hm : 0 < m) (hnumber : IsNumber (.finite negative m e))
    (hc : 0 < c) (h : RoundsTo m e (c * 10 ^ k)) {n : Nat} (hn : 0 < n)
    (hpoint : (n : Int) = (digits c).length + k) (hk : k < 0) :
    SpellsNumber admits (withSign negative ((digits c).take n ++ '.' :: (digits c).drop n))
      (.real (.finite negative m e)) := by
  have hne : (digits c).drop n ≠ [] := by
    rw [Ne, List.drop_eq_nil_iff]
    omega
  have hpower : -(((digits c).drop n).length : Int) = k := by
    rw [List.length_drop]
    omega
  refine spells_fraction hm hnumber (isWhole_take hc hn) (allDigits_drop c n) hne ?_
  rwa [hpower, List.take_append_drop, Numeral.value_digits]

/-- The point stands before all digits. -/
theorem spells_layout_small (hm : 0 < m) (hnumber : IsNumber (.finite negative m e))
    (h : RoundsTo m e (c * 10 ^ k)) {zeros : Nat}
    (hpoint : -(zeros : Int) = (digits c).length + k) :
    SpellsNumber admits
      (withSign negative ('0' :: '.' :: (List.replicate zeros '0' ++ digits c)))
      (.real (.finite negative m e)) := by
  have hpart := (allDigits_zeros zeros).append (allDigits_digits c)
  have hne : List.replicate zeros '0' ++ digits c ≠ [] :=
    List.append_ne_nil_of_right_ne_nil _ (isWhole_digits c).ne_nil
  have hpower : -((List.replicate zeros '0' ++ digits c).length : Int) = k := by
    rw [List.length_append, List.length_replicate]
    push_cast
    omega
  have hvalue : Numeral.value (['0'] ++ (List.replicate zeros '0' ++ digits c)) = c := by
    rw [← List.append_assoc, List.singleton_append, ← List.replicate_succ, Numeral.value_append,
      Numeral.value_zeros, Numeral.value_digits, Nat.zero_mul, Nat.zero_add]
  refine @spells_fraction admits negative m e ['0'] _ hm hnumber (.inl rfl) hpart hne ?_
  rwa [hpower, hvalue]

/-- One digit stands before the point, and an exponent behind the others. -/
theorem spells_layout_exponent (hm : 0 < m) (hnumber : IsNumber (.finite negative m e))
    (hc : 0 < c) (h : RoundsTo m e (c * 10 ^ k)) {power : Int}
    (hpower : power + 1 = (digits c).length + k) :
    SpellsNumber admits (withSign negative ((digits c).take 1 ++
        ((if ((digits c).drop 1).isEmpty then [] else '.' :: (digits c).drop 1) ++
          'e' :: (if power < 0 then '-' else '+') :: Numeral.padded 2 power.natAbs)))
      (.real (.finite negative m e)) := by
  have hfraction : Fraction
      (if ((digits c).drop 1).isEmpty then [] else '.' :: (digits c).drop 1)
      ((digits c).drop 1) := by
    split
    · next hempty =>
      rw [List.isEmpty_iff.mp hempty]
      exact .none
    · next hsome => exact .digits (allDigits_drop c 1) (by simpa using hsome)
  have hpadded : AllDigits (Numeral.padded 2 power.natAbs) :=
    fun _ hd => Numeral.isDigit_of_mem_padded hd
  have hne := Numeral.padded_ne_nil 2 power.natAbs
  have hexponent : Exponent
      ('e' :: (if power < 0 then '-' else '+') :: Numeral.padded 2 power.natAbs) power := by
    split
    · have hminus := Exponent.minus (.inl rfl) hpadded hne
      rwa [Numeral.value_padded, show -(power.natAbs : Int) = power by omega] at hminus
    · have hplus := Exponent.plus (.inl rfl) hpadded hne
      rwa [Numeral.value_padded, show (power.natAbs : Int) = power by omega] at hplus
  have hspells := @SpellsNumber.real admits negative _ _ _ _ _ (isWhole_take hc Nat.one_pos)
    hfraction hexponent (.inr (List.cons_ne_nil _ _))
  have hlength := Numeral.length_digits_pos c
  have hk : power - ((digits c).drop 1).length = k := by
    rw [List.length_drop]
    omega
  have hrounds : RoundsTo m e (Numeral.value (digits c) * 10 ^ k) := by
    rwa [Numeral.value_digits]
  rwa [List.take_append_drop, hk, ofDecimal_value hm hnumber (allDigits_digits c) hrounds,
    ← withSign_append] at hspells

/-- The digits of a floating-point number spell that number in all notations. -/
theorem spells_layout (hm : 0 < m) (hnumber : IsNumber (.finite negative m e)) (hc : 0 < c)
    (h : RoundsTo m e (c * 10 ^ k)) :
    SpellsNumber admits (withSign negative (Shortest.layout (digits c) k))
      (.real (.finite negative m e)) := by
  unfold Shortest.layout
  dsimp only
  split
  · next hpoint =>
    obtain ⟨n, hn⟩ : ∃ n : Nat, (n : Int) = (digits c).length + k :=
      ⟨((digits c).length + k).toNat, by omega⟩
    rw [← hn, Int.toNat_natCast]
    rcases lt_or_ge k 0 with hneg | hpos
    · have hne : ((digits c).drop n).isEmpty = false := by
        rw [List.isEmpty_eq_false_iff, Ne, List.drop_eq_nil_iff]
        omega
      have hnone : n - (digits c).length = 0 := by omega
      rw [hne, if_neg Bool.false_ne_true, hnone, List.replicate_zero, List.append_nil]
      exact spells_layout_point hm hnumber hc h (by omega) hn hneg
    · obtain ⟨zeros, rfl⟩ := Int.eq_ofNat_of_zero_le hpos
      have hempty : (digits c).drop n = [] := List.drop_eq_nil_iff.mpr (by omega)
      have hzeros : n - (digits c).length = zeros := by omega
      rw [hempty, List.isEmpty_nil, if_pos rfl, hzeros, List.take_of_length_le (by omega)]
      exact spells_layout_whole hm hnumber hc h
  · split
    · next hpoint =>
      obtain ⟨zeros, hzeros⟩ : ∃ zeros : Nat, -(zeros : Int) = (digits c).length + k :=
        ⟨(-((digits c).length + k)).toNat, by omega⟩
      rw [← hzeros, neg_neg, Int.toNat_natCast]
      exact spells_layout_small hm hnumber h hzeros
    · have hpower : ((digits c).length + k - 1 : Int) + 1 = (digits c).length + k := by omega
      have hspells := @spells_layout_exponent admits negative _ _ _ _ hm hnumber hc h _ hpower
      simpa only [List.append_assoc] using hspells

/-- A finite number of the format spells itself. -/
theorem spells_number (hnumber : IsNumber (.finite negative m e)) :
    SpellsNumber admits (number (.finite negative m e)) (.real (.finite negative m e)) := by
  have htext : number (.finite negative m e) = withSign negative (if m = 0 then ['0', '.', '0'] else
      Shortest.layout (digits (Shortest.decimal m e).1) (Shortest.decimal m e).2) := by
    simp only [number, Shortest.text, String.toList_ofList, withSign]
  rw [htext]
  split
  · next hzero =>
    obtain ⟨-, -, -, hlarge | rfl⟩ := hnumber
    · omega
    · have hpart : AllDigits ['0'] := IsWhole.allDigits (.inl rfl)
      have hspells := @SpellsNumber.real admits negative ['0'] ['.', '0'] ['0'] [] 0 (.inl rfl)
        (.digits hpart (List.cons_ne_nil _ _)) .none (.inl (List.cons_ne_nil _ _))
      rw [List.append_nil, ← withSign_append] at hspells
      rw [hzero]
      exact hspells
  · next hm =>
    obtain ⟨hc, hrounds⟩ := Shortest.roundsTo_decimal (Nat.pos_of_ne_zero hm) hnumber
    exact spells_layout (Nat.pos_of_ne_zero hm) hnumber hc hrounds

end Layouts

end Remittance.Json

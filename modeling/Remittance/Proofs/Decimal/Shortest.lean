import Remittance.Decimal.Shortest
import Remittance.Proofs.Decimal.Numeral
import Remittance.Proofs.Decimal.Rounding

/-!
# Shortest decimals round back

The digits that are taken for a floating-point number spell a decimal in the number's interval. Main
statement: `roundsTo_decimal`. Its one argument is that seventeen digits always suffice, since their
grid is finer than the last place of the number. The text that they are laid out as always has a
sign that is no digit.
-/

set_option autoImplicit false

namespace Remittance

/-- The denominator of a number's fraction is positive. -/
theorem Binary64.ratio_den_pos (m : Nat) (e : Int) : 0 < (ratio m e).2 := by
  cases e with
  | ofNat e => exact Nat.one_pos
  | negSucc e => exact Nat.pow_pos (by decide)

/-- The fraction of a number is its mantissa times the power of two. -/
theorem Binary64.ratio_eq (m : Nat) (e : Int) :
    ((ratio m e).1 : ℚ) / (ratio m e).2 = m * 2 ^ e := by
  cases e with
  | ofNat e => simp [ratio]
  | negSucc e => simp [ratio, zpow_negSucc, div_eq_mul_inv]

namespace Shortest

open Binary64 (RoundsTo reachDown IsNumber minExponent maxExponent)

section Grid

/-- The denominator of a point of a grid is positive. -/
theorem gridPoint_den_pos (c : Nat) (k : Int) : 0 < (gridPoint c k).2 := by
  cases k with
  | ofNat k => exact Nat.one_pos
  | negSucc k => exact Nat.pow_pos (by decide)

/-- A point of a grid that is not the first one is positive. -/
theorem gridPoint_num_pos {c : Nat} (hc : 0 < c) (k : Int) : 0 < (gridPoint c k).1 := by
  cases k with
  | ofNat k => exact Nat.mul_pos hc (Nat.pow_pos (by decide))
  | negSucc k => exact hc

/-- A point of a grid spells its count times the power of ten. -/
theorem gridPoint_eq (c : Nat) (k : Int) :
    ((gridPoint c k).1 : ℚ) / (gridPoint c k).2 = c * 10 ^ k := by
  cases k with
  | ofNat k => simp [gridPoint]
  | negSucc k => simp [gridPoint, zpow_negSucc, div_eq_mul_inv]

end Grid

section Target

variable {m : Nat} {e : Int}

/-- The denominator of an interval is positive. -/
theorem target_den_pos (m : Nat) (e : Int) : 0 < (target m e).den :=
  Binary64.ratio_den_pos 1 (e - 2)

/-- A quarter of the last place of a number. -/
theorem quarter_eq (e : Int) :
    ((Binary64.ratio 1 (e - 2)).1 : ℚ) / (Binary64.ratio 1 (e - 2)).2 = 2 ^ e / 4 := by
  rw [Binary64.ratio_eq, zpow_sub₀ (by norm_num : (2 : ℚ) ≠ 0)]
  norm_num

/-- The middle of an interval is the number itself. -/
theorem target_mid (m : Nat) (e : Int) :
    ((target m e).mid : ℚ) / (target m e).den = m * 2 ^ e := by
  have hquarter := quarter_eq e
  simp only [target]
  push_cast
  rw [mul_div_assoc, hquarter]
  ring

/-- An interval reaches up by half a unit of the last place. -/
theorem target_high (m : Nat) (e : Int) :
    ((target m e).high : ℚ) / (target m e).den = (m + 1 / 2) * 2 ^ e := by
  have hquarter := quarter_eq e
  simp only [target]
  push_cast
  rw [mul_div_assoc, hquarter]
  ring

/-- How far an interval reaches down. -/
theorem target_low (hm : 0 < m) (e : Int) :
    ((target m e).low : ℚ) / (target m e).den = (m - reachDown m e) * 2 ^ e := by
  have hquarter := quarter_eq e
  by_cases hpower : m = 0x10000000000000 ∧ minExponent < e
  · have hreach : reachDown m e = 1 / 4 := if_pos hpower
    simp only [target, if_pos hpower, hreach]
    push_cast [show 1 ≤ 4 * m by omega]
    rw [mul_div_assoc, hquarter]
    ring
  · have hreach : reachDown m e = 1 / 2 := if_neg hpower
    simp only [target, if_neg hpower, hreach]
    push_cast [show 2 ≤ 4 * m by omega]
    rw [mul_div_assoc, hquarter]
    ring

/-- Fractions are compared by their cross products. -/
theorem cross_le_iff {a b c d : Nat} (hb : 0 < b) (hd : 0 < d) :
    a * d ≤ c * b ↔ (a / b : ℚ) ≤ c / d := by
  rw [div_le_div_iff₀ (by exact_mod_cast hb) (by exact_mod_cast hd)]
  exact_mod_cast Iff.rfl

/-- So are they strictly. -/
theorem cross_lt_iff {a b c d : Nat} (hb : 0 < b) (hd : 0 < d) :
    a * d < c * b ↔ (a / b : ℚ) < c / d := by
  rw [div_lt_div_iff₀ (by exact_mod_cast hb) (by exact_mod_cast hd)]
  exact_mod_cast Iff.rfl

/-- The interval over one denominator holds the fractions that round to the number. -/
theorem contains_iff (hm : 0 < m) {p : Nat × Nat} (hp : 0 < p.2) :
    (target m e).contains p = true ↔ RoundsTo m e (p.1 / p.2) := by
  have hden := target_den_pos m e
  have hclosed : (target m e).closed = (m % 2 == 0) := rfl
  unfold Target.contains
  rw [hclosed]
  rcases Nat.mod_two_eq_zero_or_one m with heven | hodd
  · simp only [heven, beq_self_eq_true, if_true, Bool.and_eq_true, decide_eq_true_eq,
      cross_le_iff hden hp, cross_le_iff hp hden, target_low hm e, target_high m e]
    exact ⟨fun h => ⟨h.1, h.2, fun hodd => by omega⟩, fun h => ⟨h.low, h.high⟩⟩
  · simp only [hodd, Nat.reduceBEq, Bool.false_eq_true, if_false, Bool.and_eq_true,
      decide_eq_true_eq, cross_lt_iff hden hp, cross_lt_iff hp hden, target_low hm e,
      target_high m e]
    exact ⟨fun h => ⟨h.1.le, h.2.le, fun _ => h⟩, fun h => h.odd hodd⟩

/-- The interval contains a point of a grid exactly if the point rounds to the number. -/
theorem contains_gridPoint_iff (hm : 0 < m) (c : Nat) (k : Int) :
    (target m e).contains (gridPoint c k) = true ↔ RoundsTo m e (c * 10 ^ k) := by
  rw [contains_iff hm (gridPoint_den_pos c k), gridPoint_eq]

/-- What is taken from a grid rounds to the number. -/
theorem roundsTo_of_onGrid (hm : 0 < m) {k : Int} {c : Nat}
    (h : onGrid? (target m e) k = some c) : RoundsTo m e (c * 10 ^ k) := by
  unfold onGrid? at h
  dsimp only at h
  generalize (target m e).mid * (gridPoint 1 k).2 / ((target m e).den * (gridPoint 1 k).1) = b at h
  cases hb : (target m e).contains (gridPoint b k) with
  | true =>
    cases ha : (target m e).contains (gridPoint (b + 1) k) with
    | true =>
      rw [hb, ha] at h
      have hone : c = b ∨ c = b + 1 := by
        dsimp only at h
        split at h
        · exact .inl (Option.some.inj h).symm
        · split at h
          · exact .inr (Option.some.inj h).symm
          · have := Option.some.inj h
            omega
      rcases hone with rfl | rfl
      · exact (contains_gridPoint_iff hm _ k).mp hb
      · exact (contains_gridPoint_iff hm _ k).mp ha
    | false =>
      rw [hb, ha] at h
      obtain rfl := Option.some.inj h
      exact (contains_gridPoint_iff hm _ k).mp hb
  | false =>
    cases ha : (target m e).contains (gridPoint (b + 1) k) with
    | true =>
      rw [hb, ha] at h
      obtain rfl := Option.some.inj h
      exact (contains_gridPoint_iff hm _ k).mp ha
    | false =>
      rw [hb, ha] at h
      cases h

/-- The lower candidate of a grid. -/
def gridBelow (m : Nat) (e k : Int) : Nat :=
  (target m e).mid * (gridPoint 1 k).2 / ((target m e).den * (gridPoint 1 k).1)

/-- The number lies between the two candidates of a grid. -/
theorem gridBelow_bounds (m : Nat) (e k : Int) :
    (gridBelow m e k * 10 ^ k : ℚ) ≤ m * 2 ^ e ∧
      (m * 2 ^ e : ℚ) < (gridBelow m e k + 1) * 10 ^ k := by
  have hden : (0 : ℚ) < (target m e).den := by exact_mod_cast target_den_pos m e
  have hunit : (0 : ℚ) < (gridPoint 1 k).1 := by exact_mod_cast gridPoint_num_pos Nat.one_pos k
  have hunit' : (0 : ℚ) < (gridPoint 1 k).2 := by exact_mod_cast gridPoint_den_pos 1 k
  have hpow : (0 : ℚ) < 10 ^ k := by positivity
  have hratio : (((target m e).mid * (gridPoint 1 k).2 : Nat) : ℚ) /
      ((target m e).den * (gridPoint 1 k).1 : Nat) = m * 2 ^ e / 10 ^ k := by
    have hgrid := gridPoint_eq 1 k
    rw [Nat.cast_one, one_mul] at hgrid
    rw [← target_mid, ← hgrid]
    push_cast
    field_simp
  have hpos : 0 < (target m e).den * (gridPoint 1 k).1 :=
    Nat.mul_pos (target_den_pos m e) (gridPoint_num_pos Nat.one_pos k)
  constructor
  · have hfloor := (@Binary64.le_div_iff_ratio
      ((target m e).mid * (gridPoint 1 k).2) _ _ hpos).mp (Nat.le_refl _)
    rwa [hratio, le_div_iff₀ hpow] at hfloor
  · have hceil := mt (@Binary64.le_div_iff_ratio
      ((target m e).mid * (gridPoint 1 k).2) _ _ hpos).mpr (Nat.not_succ_le_self _)
    rw [hratio, not_le, div_lt_iff₀ hpow] at hceil
    exact_mod_cast hceil

/-- A number lies inside its interval, and so does all that is nearer than the ends. -/
theorem roundsTo_of_lt {x : ℚ} (hlow : (m - reachDown m e) * 2 ^ e < x)
    (hhigh : x < (m + 1 / 2) * 2 ^ e) : RoundsTo m e x :=
  ⟨hlow.le, hhigh.le, fun _ => ⟨hlow, hhigh⟩⟩

/-- A grid that is finer than the last place of the number has a candidate: of two points less than
a last place apart one is nearer than half of it. -/
theorem onGrid_isSome (hm : 0 < m) (hdigits : m < 2 ^ 53) {k : Int}
    (hfine : (10 : ℚ) ^ k ≤ m * 2 ^ e / 10 ^ 16) : (onGrid? (target m e) k).isSome = true := by
  obtain ⟨hbelow, habove⟩ := gridBelow_bounds m e k
  have hpow : (0 : ℚ) < 2 ^ e := by positivity
  have hdigits' : (m : ℚ) < 2 ^ 53 := by exact_mod_cast hdigits
  have hunit : (10 : ℚ) ^ k < 2 ^ e := by
    have : m * (2 : ℚ) ^ e < 2 ^ 53 * 2 ^ e := by gcongr
    linarith
  have hcandidate : (target m e).contains (gridPoint (gridBelow m e k) k) = true ∨
      (target m e).contains (gridPoint (gridBelow m e k + 1) k) = true := by
    rw [contains_gridPoint_iff hm, contains_gridPoint_iff hm]
    push_cast
    by_cases hpower : m = 2 ^ 52 ∧ minExponent < e
    -- At a power of two the interval is shorter below, but the grid is finer than half a place.
    · have hreach : reachDown m e = 1 / 4 := if_pos hpower
      have hm' : (m : ℚ) = 2 ^ 52 := by exact_mod_cast hpower.1
      rw [hm'] at hfine habove hbelow
      refine .inr (roundsTo_of_lt ?_ ?_)
      · rw [hreach, hm']
        linarith
      · rw [hm']
        linarith
    · have hreach : reachDown m e = 1 / 2 := if_neg hpower
      by_cases hnear : (m - 1 / 2) * 2 ^ e < gridBelow m e k * (10 : ℚ) ^ k
      · exact .inl (roundsTo_of_lt (by rwa [hreach]) (by linarith))
      · refine .inr (roundsTo_of_lt ?_ ?_)
        · rw [hreach]
          linarith
        · linarith
  unfold onGrid?
  dsimp only
  rw [← gridBelow]
  cases hb : (target m e).contains (gridPoint (gridBelow m e k) k) with
  | true =>
    cases ha : (target m e).contains (gridPoint (gridBelow m e k + 1) k) with
    | true =>
      dsimp only
      split <;> [rfl; split <;> rfl]
    | false => rfl
  | false =>
    cases ha : (target m e).contains (gridPoint (gridBelow m e k + 1) k) with
    | true => rfl
    | false => simp [hb, ha] at hcandidate

end Target

section Digits

/-- A fraction is not below the power of ten of the first digit of its whole part, also when that is
taken some places further on. -/
theorem pow_places_le {num den : Nat} (hden : 0 < den) (places : Nat)
    (hsmall : ((10 : ℚ) ^ places)⁻¹ ≤ num / den) :
    (10 : ℚ) ^ ((Numeral.digits (num * Nat.pow 10 places / den)).length - (places : Int) - 1) ≤
      num / den := by
  rw [Nat.pow_eq]
  have hplaces : (0 : ℚ) < 10 ^ places := by positivity
  have hdpos : (0 : ℚ) < den := by exact_mod_cast hden
  have hwhole : 0 < num * 10 ^ places / den := by
    rw [le_div_iff₀ hdpos, inv_mul_le_iff₀ hplaces, mul_comm] at hsmall
    exact Nat.div_pos (by exact_mod_cast hsmall) hden
  have hpow := Numeral.pow_length_digits_le hwhole
  have hdigits := Numeral.length_digits_pos (num * 10 ^ places / den)
  generalize (Numeral.digits (num * 10 ^ places / den)).length = count at *
  rw [Binary64.le_div_iff_ratio hden] at hpow
  push_cast at hpow
  rw [show (count : Int) - places - 1 = ((count - 1 : Nat) : Int) - places by omega,
    zpow_sub₀ (by norm_num), zpow_natCast, zpow_natCast, div_le_iff₀ hplaces]
  exact hpow.trans_eq (by ring)

/-- The magnitude of a fraction that is not too small is not above it. -/
theorem pow_magnitude_le {num den : Nat} (hden : 0 < den)
    (hsmall : ((10 : ℚ) ^ 400)⁻¹ ≤ num / den) :
    (10 : ℚ) ^ (magnitude num den - 1) ≤ num / den := by
  unfold magnitude
  split
  · next hle =>
    have hone : ((10 : ℚ) ^ 0)⁻¹ ≤ num / den := by
      have := (Binary64.le_div_iff_ratio hden).mp (Nat.div_pos hle hden)
      simpa using this
    have hplaces := pow_places_le hden 0 hone
    simpa using hplaces
  · have hplaces := pow_places_le hden 400 hsmall
    rwa [Nat.cast_ofNat] at hplaces

/-- The search finds a candidate if there is one on the last of its grids. -/
theorem roundsTo_search {m : Nat} {e : Int} (hm : 0 < m) (top : Int) (fuel n : Nat)
    (hlast : (onGrid? (target m e) (top - (n + fuel : Nat))).isSome = true) :
    RoundsTo m e ((search (target m e) top (fuel + 1) n).1 *
      10 ^ (search (target m e) top (fuel + 1) n).2) := by
  induction fuel generalizing n with
  | zero =>
    rw [Nat.add_zero] at hlast
    obtain ⟨c, hc⟩ := Option.isSome_iff_exists.mp hlast
    rw [search, hc]
    exact roundsTo_of_onGrid hm hc
  | succ fuel ih =>
    rw [search]
    cases hc : onGrid? (target m e) (top - n) with
    | some c => exact roundsTo_of_onGrid hm hc
    | none =>
      refine ih (n + 1) ?_
      rwa [show n + 1 + fuel = n + (fuel + 1) by omega]

/-- Zeros are stripped off without a change of value. -/
theorem stripZeros_spec (fuel c : Nat) (k : Int) (hc : 0 < c) :
    0 < (stripZeros fuel c k).1 ∧
      ((stripZeros fuel c k).1 * 10 ^ (stripZeros fuel c k).2 : ℚ) = c * 10 ^ k := by
  induction fuel generalizing c k with
  | zero => exact ⟨hc, rfl⟩
  | succ fuel ih =>
    rw [stripZeros]
    split
    · next hzero =>
      have hpos : 0 < c / 10 := by omega
      obtain ⟨hrest, hvalue⟩ := ih (c / 10) (k + 1) hpos
      refine ⟨hrest, hvalue.trans ?_⟩
      have htens : (c : ℚ) = 10 * (c / 10 : Nat) := by exact_mod_cast (by omega : c = 10 * (c / 10))
      rw [htens, zpow_add₀ (by norm_num), zpow_one]
      ring
    · exact ⟨hc, rfl⟩

/-- A grid of 400 places below the point is finer than any number of the format. -/
theorem two_pow_le_ten_pow : (2 : ℚ) ^ (1200 : Int) ≤ 10 ^ 400 := by
  rw [zpow_ofNat, show 1200 = 3 * 400 by rfl, pow_mul]
  gcongr
  norm_num

/-- The positive numbers of the format are not too small for the search. -/
theorem small_le {m : Nat} {e : Int} (hm : 0 < m) (he : -1200 ≤ e) :
    ((10 : ℚ) ^ 400)⁻¹ ≤ m * 2 ^ e := by
  have hone : (1 : ℚ) ≤ m := by exact_mod_cast hm
  calc ((10 : ℚ) ^ 400)⁻¹ ≤ (2 ^ (1200 : Int))⁻¹ := by
        have := two_pow_le_ten_pow
        gcongr
    _ = 2 ^ (-1200 : Int) := (zpow_neg _ _).symm
    _ ≤ 2 ^ e := zpow_le_zpow_right₀ (by norm_num) he
    _ ≤ m * 2 ^ e := le_mul_of_one_le_left (by positivity) hone

/-- The digits of a positive number of the format spell a decimal that rounds to it. -/
theorem roundsTo_decimal {negative : Bool} {m : Nat} {e : Int} (hm : 0 < m)
    (hnumber : IsNumber (.finite negative m e)) :
    0 < (decimal m e).1 ∧ RoundsTo m e ((decimal m e).1 * 10 ^ (decimal m e).2) := by
  have hmid := target_mid m e
  have hmagnitude := @pow_magnitude_le (target m e).mid _ (target_den_pos m e)
  rw [hmid] at hmagnitude
  have hlast : (onGrid? (target m e) (magnitude (target m e).mid (target m e).den -
      (1 + 16 : Nat))).isSome = true := by
    refine onGrid_isSome hm hnumber.1 ?_
    rw [le_div_iff₀ (by positivity)]
    refine le_trans (le_of_eq ?_) (hmagnitude (small_le hm (le_trans (by decide) hnumber.2.1)))
    rw [← zpow_natCast, ← zpow_add₀ (by norm_num)]
    congr 1
    push_cast
    ring
  have hfound := roundsTo_search hm _ 16 1 hlast
  have hpos : 0 < (search (target m e) (magnitude (target m e).mid (target m e).den) 17 1).1 := by
    by_contra hzero
    have := hfound.pos hm
    simp [Nat.le_zero.mp (not_lt.mp hzero)] at this
  obtain ⟨hstripped, hvalue⟩ := stripZeros_spec 20 _
    (search (target m e) (magnitude (target m e).mid (target m e).den) 17 1).2 hpos
  refine ⟨hstripped, ?_⟩
  rw [← hvalue] at hfound
  exact hfound

/-- What rounds to a positive number of the format is between ten to the power -400 and ten to the
power 400. -/
theorem bounds_of_roundsTo {negative : Bool} {m : Nat} {e : Int} {x : ℚ} (hm : 0 < m)
    (hnumber : IsNumber (.finite negative m e)) (h : RoundsTo m e x) :
    ((10 : ℚ) ^ 400)⁻¹ ≤ x ∧ x < 10 ^ 400 := by
  obtain ⟨hdigits, hmin, hmax, -⟩ := hnumber
  have hpow : (0 : ℚ) < 2 ^ e := by positivity
  have hone : (1 : ℚ) ≤ m := by exact_mod_cast hm
  have hdigits' : (m : ℚ) + 1 ≤ 2 ^ 53 := by exact_mod_cast hdigits
  have hreach := Binary64.reachDown_le m e
  constructor
  · have hhalf := small_le (e := e - 1) Nat.one_pos (by unfold minExponent at hmin; omega)
    rw [Nat.cast_one, one_mul, zpow_sub₀ (by norm_num), zpow_one] at hhalf
    calc ((10 : ℚ) ^ 400)⁻¹ ≤ 1 / 2 * 2 ^ e := hhalf.trans_eq (by ring)
      _ ≤ (m - reachDown m e) * 2 ^ e := by
          gcongr
          linarith
      _ ≤ x := h.low
  · calc x ≤ (m + 1 / 2) * 2 ^ e := h.high
      _ < 2 ^ 53 * 2 ^ e := by
          gcongr
          linarith
      _ = 2 ^ (53 + e) := by rw [zpow_add₀ (by norm_num), zpow_ofNat]
      _ ≤ 2 ^ (1200 : Int) :=
          zpow_le_zpow_right₀ (by norm_num) (by unfold maxExponent at hmax; omega)
      _ ≤ 10 ^ 400 := two_pow_le_ten_pow

end Digits

section Signs

/-- A layout of digits has a sign that is none. -/
theorem exists_sign_of_layout (ds : List Char) (k : Int) :
    ∃ c ∈ layout ds k, c.isDigit = false := by
  unfold layout
  dsimp only
  split
  · exact ⟨'.', by simp, rfl⟩
  split
  · exact ⟨'.', by simp, rfl⟩
  · exact ⟨'e', by simp, rfl⟩

/-- The text of a floating-point number is no run of digits. -/
theorem exists_sign (x : Binary64) : ∃ c ∈ (text x).toList, c.isDigit = false := by
  cases x with
  | undefined => exact ⟨'n', by simp [text], rfl⟩
  | infinite negative => exact ⟨'n', by cases negative <;> simp [text], rfl⟩
  | finite negative m e =>
    have hbody : ∃ c ∈ (if m = 0 then ['0', '.', '0'] else
        layout (Numeral.digits (decimal m e).1) (decimal m e).2), c.isDigit = false := by
      split
      · exact ⟨'.', by simp, rfl⟩
      · exact exists_sign_of_layout _ _
    obtain ⟨c, hc, hsign⟩ := hbody
    refine ⟨c, ?_, hsign⟩
    rw [text, String.toList_ofList]
    split
    · exact List.mem_cons_of_mem _ hc
    · exact hc

end Signs

end Shortest

end Remittance

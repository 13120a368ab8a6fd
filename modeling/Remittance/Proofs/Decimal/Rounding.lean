import Remittance.Decimal.Binary64
import Mathlib.Algebra.Order.Field.Power
import Mathlib.Data.Rat.Cast.Order
import Mathlib.Tactic.FieldSimp
import Mathlib.Tactic.Linarith
import Mathlib.Tactic.Positivity
import Mathlib.Tactic.Ring

/-!
# Rounding to floating-point numbers

The positive numbers that round to a given floating-point number form an interval around it, which
reaches half-way to its neighbours on both sides and has its ends if the mantissa is even. Main
statements: a fraction of that interval is rounded to the number (`ofRatio_of_roundsTo`), and what
comes of rounding is always a number of the format (`isNumber_ofRatio`).
-/

set_option autoImplicit false

namespace Remittance.Binary64

/-- A number of the format: the mantissa of a finite one has 53 binary digits, or fewer at the
smallest exponent. -/
def IsNumber : Binary64 → Prop
  | .finite _ m e =>
    m < 2 ^ 53 ∧ minExponent ≤ e ∧ e ≤ maxExponent ∧ (2 ^ 52 ≤ m ∨ e = minExponent)
  | _ => True

/-- How far the interval of a number reaches down, in units of its last place: half-way to the next
smaller number, which is nearer below a power of two. -/
def reachDown (m : Nat) (e : Int) : ℚ := if m = 2 ^ 52 ∧ minExponent < e then 1 / 4 else 1 / 2

/-- A positive number lies in the interval of the floating-point number `m * 2 ^ e`. -/
structure RoundsTo (m : Nat) (e : Int) (x : ℚ) : Prop where
  low : (m - reachDown m e) * 2 ^ e ≤ x
  high : x ≤ (m + 1 / 2) * 2 ^ e
  odd : m % 2 = 1 → (m - reachDown m e) * 2 ^ e < x ∧ x < (m + 1 / 2) * 2 ^ e

/-- An interval reaches down by no more than half a unit of the last place. -/
theorem reachDown_le (m : Nat) (e : Int) : reachDown m e ≤ 1 / 2 := by
  unfold reachDown
  split <;> norm_num

/-- What rounds to a positive number is positive. -/
theorem RoundsTo.pos {m : Nat} {e : Int} {x : ℚ} (h : RoundsTo m e x) (hm : 0 < m) : 0 < x := by
  have hreach := reachDown_le m e
  have hone : (1 : ℚ) ≤ m := by exact_mod_cast hm
  have hend : 0 < (m - reachDown m e) * (2 : ℚ) ^ e := mul_pos (by linarith) (by positivity)
  exact hend.trans_le h.low

section Scale

variable {num den : Nat}

/-- The denominator of a scaled fraction is positive. -/
theorem scaleDown_den_pos (hden : 0 < den) (k : Int) : 0 < (scaleDown num den k).2 := by
  cases k with
  | ofNat k => exact Nat.mul_pos hden (Nat.pow_pos (by decide))
  | negSucc k => exact hden

/-- Scaling divides by the power of two. -/
theorem scaleDown_ratio (num den : Nat) (k : Int) :
    ((scaleDown num den k).1 : ℚ) / (scaleDown num den k).2 = num / den / 2 ^ k := by
  cases k with
  | ofNat k =>
    have hpow : Nat.pow 2 k = 2 ^ k := rfl
    simp only [scaleDown, hpow, Int.ofNat_eq_natCast, zpow_natCast]
    push_cast
    rw [div_div]
  | negSucc k =>
    have hpow : Nat.pow 2 (k + 1) = 2 ^ (k + 1) := rfl
    simp only [scaleDown, hpow, zpow_negSucc]
    push_cast
    field_simp

/-- The exponent at which a fraction has a whole part of 53 binary digits. -/
def fullExponent (num den : Nat) : Int :=
  let low : Int := (Nat.log2 num : Int) - Nat.log2 den - 53
  let first := scaleDown num den low
  if 2 ^ 53 ≤ first.1 / first.2 then low + 1 else low

/-- A number lies between the power of two of its logarithm and the next one. -/
theorem log2_bounds {n : Nat} (hn : 0 < n) :
    (2 : ℚ) ^ (Nat.log2 n : Int) ≤ n ∧ (n : ℚ) < 2 ^ ((Nat.log2 n : Int) + 1) := by
  constructor
  · rw [zpow_natCast]
    exact_mod_cast Nat.log2_self_le (by omega)
  · have hup : n < 2 ^ (Nat.log2 n + 1) := Nat.lt_log2_self
    have hcast : (2 : ℚ) ^ ((Nat.log2 n : Int) + 1) = 2 ^ (Nat.log2 n + 1) := by
      exact_mod_cast zpow_natCast (2 : ℚ) (Nat.log2 n + 1)
    rw [hcast]
    exact_mod_cast hup

/-- The exponents of the two parts of a fraction give that of the fraction up to one. -/
theorem ratio_bounds (hnum : 0 < num) (hden : 0 < den) :
    (2 : ℚ) ^ ((Nat.log2 num : Int) - Nat.log2 den - 1) < num / den ∧
      (num / den : ℚ) < 2 ^ ((Nat.log2 num : Int) - Nat.log2 den + 1) := by
  obtain ⟨hnlow, hnhigh⟩ := log2_bounds hnum
  obtain ⟨hdlow, hdhigh⟩ := log2_bounds hden
  have hdpos : (0 : ℚ) < den := by exact_mod_cast hden
  have htwo : (2 : ℚ) ≠ 0 := by norm_num
  constructor
  · rw [lt_div_iff₀ hdpos]
    calc (2 : ℚ) ^ ((Nat.log2 num : Int) - Nat.log2 den - 1) * den
        < 2 ^ ((Nat.log2 num : Int) - Nat.log2 den - 1) * 2 ^ ((Nat.log2 den : Int) + 1) := by
          gcongr
      _ = 2 ^ (Nat.log2 num : Int) := by
          rw [← zpow_add₀ htwo]
          congr 1
          ring
      _ ≤ num := hnlow
  · rw [div_lt_iff₀ hdpos]
    calc (num : ℚ) < 2 ^ ((Nat.log2 num : Int) + 1) := hnhigh
      _ = 2 ^ ((Nat.log2 num : Int) - Nat.log2 den + 1) * 2 ^ (Nat.log2 den : Int) := by
          rw [← zpow_add₀ htwo]
          congr 1
          ring
      _ ≤ 2 ^ ((Nat.log2 num : Int) - Nat.log2 den + 1) * den := by gcongr

/-- The whole part reaches a bound if and only if the fraction does. -/
theorem le_div_iff_ratio {n : Nat} (hden : 0 < den) : n ≤ num / den ↔ (n : ℚ) ≤ num / den := by
  have hdpos : (0 : ℚ) < den := by exact_mod_cast hden
  rw [Nat.le_div_iff_mul_le hden, le_div_iff₀ hdpos]
  exact_mod_cast Iff.rfl

/-- With the full exponent the mantissa has 53 binary digits. -/
theorem fullExponent_bounds (hnum : 0 < num) (hden : 0 < den) :
    (2 : ℚ) ^ (fullExponent num den + 52) ≤ num / den ∧
      (num / den : ℚ) < 2 ^ (fullExponent num den + 53) := by
  obtain ⟨hlow, hhigh⟩ := ratio_bounds hnum hden
  have htwo : (2 : ℚ) ≠ 0 := by norm_num
  generalize hk : (Nat.log2 num : Int) - Nat.log2 den - 53 = k at *
  have hwhole : 2 ^ 53 ≤ (scaleDown num den k).1 / (scaleDown num den k).2 ↔
      (2 : ℚ) ^ (k + 53) ≤ num / den := by
    rw [le_div_iff_ratio (scaleDown_den_pos hden k), scaleDown_ratio,
      le_div_iff₀ (by positivity), add_comm k, zpow_add₀ htwo]
    norm_num
  have hdiff : (Nat.log2 num : Int) - Nat.log2 den = k + 53 := by omega
  rw [hdiff] at hlow hhigh
  have hfull : fullExponent num den =
      if 2 ^ 53 ≤ (scaleDown num den k).1 / (scaleDown num den k).2 then k + 1 else k := by
    rw [← hk]
    rfl
  rw [hfull]
  split
  · next h =>
    rw [show k + 1 + 52 = k + 53 by ring, show k + 1 + 53 = k + 53 + 1 by ring]
    exact ⟨hwhole.mp h, hhigh⟩
  · next h =>
    rw [show k + 52 = k + 53 - 1 by ring]
    exact ⟨hlow.le, not_le.mp (mt hwhole.mpr h)⟩

/-- Only one exponent gives a whole part of 53 binary digits. -/
theorem fullExponent_eq {e : Int} (hnum : 0 < num) (hden : 0 < den)
    (hlow : (2 : ℚ) ^ (e + 52) ≤ num / den) (hhigh : (num / den : ℚ) < 2 ^ (e + 53)) :
    fullExponent num den = e := by
  obtain ⟨hlow', hhigh'⟩ := fullExponent_bounds hnum hden
  have hone : (1 : ℚ) < 2 := by norm_num
  have hup := (zpow_lt_zpow_iff_right₀ hone).mp (hlow.trans_lt hhigh')
  have hdown := (zpow_lt_zpow_iff_right₀ hone).mp (hlow'.trans_lt hhigh)
  omega

end Scale

section RoundHalfEven

variable {num den n : Nat}

/-- What lies nearer to a natural number than one half is rounded to it, and so is a tie of an even
one. -/
theorem roundHalfEven_eq (hden : 0 < den) (hlow : (n : ℚ) - 1 / 2 ≤ num / den)
    (hhigh : (num / den : ℚ) ≤ n + 1 / 2)
    (hodd : n % 2 = 1 → (n : ℚ) - 1 / 2 < num / den ∧ (num / den : ℚ) < n + 1 / 2) :
    roundHalfEven num den = n := by
  have hdpos : (0 : ℚ) < den := by exact_mod_cast hden
  have hlow' : 2 * (n * den) ≤ 2 * num + den := by
    rw [le_div_iff₀ hdpos] at hlow
    have : 2 * ((n : ℚ) * den) ≤ 2 * num + den := by linarith
    exact_mod_cast this
  have hhigh' : 2 * num ≤ 2 * (n * den) + den := by
    rw [div_le_iff₀ hdpos] at hhigh
    have : (2 : ℚ) * num ≤ 2 * (n * den) + den := by linarith
    exact_mod_cast this
  have hodd' : n % 2 = 1 → 2 * (n * den) < 2 * num + den ∧ 2 * num < 2 * (n * den) + den := by
    intro hn
    obtain ⟨hl, hh⟩ := hodd hn
    rw [lt_div_iff₀ hdpos] at hl
    rw [div_lt_iff₀ hdpos] at hh
    have hl' : 2 * ((n : ℚ) * den) < 2 * num + den := by linarith
    have hh' : (2 : ℚ) * num < 2 * (n * den) + den := by linarith
    exact ⟨by exact_mod_cast hl', by exact_mod_cast hh'⟩
  have hparts : num / den * den + num % den = num := by
    rw [Nat.mul_comm]
    exact Nat.div_add_mod num den
  have hrest : num % den < den := Nat.mod_lt _ hden
  generalize hq : num / den = q at *
  generalize hr : num % den = r at *
  have hcases : n = q ∨ n = q + 1 := by
    by_contra hne
    rcases Nat.lt_or_ge n q with hless | hmore
    · have := Nat.mul_le_mul_right den (show n + 1 ≤ q by omega)
      rw [Nat.add_mul] at this
      omega
    · have := Nat.mul_le_mul_right den (show q + 2 ≤ n by omega)
      rw [Nat.add_mul] at this
      omega
  simp only [roundHalfEven, hq, hr]
  rcases hcases with rfl | rfl
  · split <;> [rfl; split <;> omega]
  · rw [Nat.add_mul] at hlow' hhigh' hodd'
    split <;> [omega; split <;> omega]

/-- Rounding does not go below the quotient. -/
theorem div_le_roundHalfEven (num den : Nat) : num / den ≤ roundHalfEven num den := by
  unfold roundHalfEven
  dsimp only
  split <;> [exact Nat.le_refl _; split <;> exact Nat.le_add_right _ _]

/-- Rounding goes up by no more than one. -/
theorem roundHalfEven_le (num den : Nat) : roundHalfEven num den ≤ num / den + 1 := by
  unfold roundHalfEven
  dsimp only
  split <;> [exact Nat.le_succ _; split <;> omega]

end RoundHalfEven

/-- A rounded mantissa with its exponent; a mantissa of 54 digits is a power of two. -/
def pack (negative : Bool) (m : Nat) (e : Int) : Binary64 :=
  let mantissa := if m = 2 ^ 53 then 2 ^ 52 else m
  let exponent := if m = 2 ^ 53 then e + 1 else e
  if maxExponent < exponent then .infinite negative else .finite negative mantissa exponent

/-- Rounding a fraction is rounding a mantissa at the exponent that the fraction has in the
format. -/
theorem ofRatio_eq {negative : Bool} {num den : Nat} (hnum : 0 < num) :
    ofRatio negative num den =
      let e := max minExponent (fullExponent num den)
      pack negative (roundHalfEven (scaleDown num den e).1 (scaleDown num den e).2) e := by
  simp only [ofRatio, if_neg hnum.ne', pack, fullExponent, decide_eq_true_eq]
  rfl

/-- The interval of a number in terms of the mantissa at the number's own exponent. -/
theorem RoundsTo.roundHalfEven {m : Nat} {e : Int} {num den : Nat} (hden : 0 < den)
    (h : RoundsTo m e (num / den)) :
    roundHalfEven (scaleDown num den e).1 (scaleDown num den e).2 = m := by
  have hpow : (0 : ℚ) < 2 ^ e := by positivity
  have hreach := reachDown_le m e
  refine roundHalfEven_eq (scaleDown_den_pos hden e) ?_ ?_ fun hm => ?_
  · rw [scaleDown_ratio, le_div_iff₀ hpow]
    refine le_trans ?_ h.low
    gcongr
  · rw [scaleDown_ratio, div_le_iff₀ hpow]
    exact h.high
  · obtain ⟨hlow, hhigh⟩ := h.odd hm
    rw [scaleDown_ratio, lt_div_iff₀ hpow, div_lt_iff₀ hpow]
    refine ⟨lt_of_le_of_lt ?_ hlow, hhigh⟩
    gcongr

/-- What rounds to a mantissa of 53 digits and is below all of them rounds to the least. -/
theorem RoundsTo.eq_of_lt {m : Nat} {e : Int} {x : ℚ} (h : RoundsTo m e x) (hm : 2 ^ 52 ≤ m)
    (he : minExponent < e) (hx : x < 2 ^ (e + 52)) : m = 2 ^ 52 ∧ reachDown m e = 1 / 4 := by
  have hpow : (0 : ℚ) < 2 ^ e := by positivity
  have hreach := reachDown_le m e
  have hlow := h.low.trans_lt hx
  rw [add_comm, zpow_add₀ (by norm_num : (2 : ℚ) ≠ 0), mul_lt_mul_iff_left₀ hpow] at hlow
  have hupper : (m : ℚ) < 2 ^ 52 + 1 := by
    rw [zpow_ofNat] at hlow
    linarith
  have hleast : m = 2 ^ 52 := by
    have : m < 2 ^ 52 + 1 := by exact_mod_cast hupper
    omega
  exact ⟨hleast, if_pos ⟨hleast, he⟩⟩

/-- Below a power of two the interval of it is the upper end of the mantissas of 53 digits at the
next smaller exponent. -/
theorem RoundsTo.finer {e : Int} {x : ℚ} (h : RoundsTo (2 ^ 52) e x)
    (hreach : reachDown (2 ^ 52) e = 1 / 4) (hx : x < 2 ^ (e + 52)) :
    RoundsTo (2 ^ 53) (e - 1) x := by
  have htwo : (2 : ℚ) ≠ 0 := by norm_num
  have hpow : (0 : ℚ) < 2 ^ e := by positivity
  have hhalf : (2 : ℚ) ^ (e - 1) = 2 ^ e / 2 := by rw [zpow_sub₀ htwo, zpow_one]
  have hreach' : reachDown (2 ^ 53) (e - 1) = 1 / 2 := if_neg fun hc => absurd hc.1 (by decide)
  have hlow := h.low
  rw [hreach] at hlow
  rw [add_comm, zpow_add₀ htwo] at hx
  refine ⟨?_, ?_, fun hodd => absurd hodd (by decide)⟩
  · rw [hreach', hhalf]
    push_cast at hlow ⊢
    linarith
  · rw [hhalf]
    norm_num at hx ⊢
    linarith

/-- A number is rounded to the number of the format in whose interval it lies. -/
theorem ofRatio_of_roundsTo {negative : Bool} {m : Nat} {e : Int} {num den : Nat} (hden : 0 < den)
    (hm : 0 < m) (hnumber : IsNumber (.finite negative m e)) (h : RoundsTo m e (num / den)) :
    ofRatio negative num den = .finite negative m e := by
  obtain ⟨hdigits, hmin, hmax, hfull⟩ := hnumber
  have hone : (1 : ℚ) < 2 := by norm_num
  have htwo : (2 : ℚ) ≠ 0 := by norm_num
  have hpow : (0 : ℚ) < 2 ^ e := by positivity
  have hnum : 0 < num := by
    have hpos := h.pos hm
    by_contra hzero
    simp [Nat.le_zero.mp (not_lt.mp hzero)] at hpos
  obtain ⟨hlow, hhigh⟩ := fullExponent_bounds hnum hden
  have hle : fullExponent num den ≤ e := by
    have hdigits' : (m : ℚ) + 1 ≤ 2 ^ 53 := by exact_mod_cast hdigits
    have hbelow : (num / den : ℚ) < 2 ^ (e + 53) := by
      rw [add_comm, zpow_add₀ htwo]
      refine h.high.trans_lt ?_
      gcongr
      norm_num at hdigits' ⊢
      linarith
    have := (zpow_lt_zpow_iff_right₀ hone).mp (hlow.trans_lt hbelow)
    omega
  rw [ofRatio_eq hnum]
  by_cases hexp : max minExponent (fullExponent num den) = e
  · simp only [hexp, h.roundHalfEven hden, pack]
    rw [if_neg (by omega), if_neg (by omega), if_neg (by omega)]
  · -- The fraction lies just below a power of two: it is rounded at the next smaller exponent.
    have hlarge : 2 ^ 52 ≤ m := by
      rcases hfull with hlarge | hleast
      · exact hlarge
      · omega
    have hsmall : (num / den : ℚ) < 2 ^ (e + 52) := by
      by_contra hge
      have := (zpow_lt_zpow_iff_right₀ hone).mp ((not_lt.mp hge).trans_lt hhigh)
      omega
    obtain ⟨rfl, hreach⟩ := h.eq_of_lt hlarge (by omega) hsmall
    have hexact : RoundsTo (2 ^ 53) (e - 1) (num / den) := h.finer hreach hsmall
    have hpred : fullExponent num den = e - 1 := by
      refine fullExponent_eq hnum hden ?_ ?_
      · refine le_trans ?_ h.low
        rw [hreach, show e - 1 + 52 = 51 + e by ring, zpow_add₀ htwo]
        gcongr
        norm_num
      · rw [show e - 1 + 53 = e + 52 by ring]
        exact hsmall
    have hmax' : max minExponent (e - 1) = e - 1 := by omega
    simp only [hpred, hmax', hexact.roundHalfEven hden, pack]
    rw [if_pos trivial, if_pos trivial, sub_add_cancel, if_neg (by omega)]

/-- What is packed is a number of the format. -/
theorem isNumber_pack {negative : Bool} {m : Nat} {e : Int} (hm : m ≤ 2 ^ 53)
    (hmin : minExponent ≤ e) (hfull : 2 ^ 52 ≤ m ∨ e = minExponent) :
    IsNumber (pack negative m e) := by
  unfold pack
  dsimp only
  by_cases htop : m = 2 ^ 53
  · rw [if_pos htop, if_pos htop]
    split
    · trivial
    · exact ⟨by decide, by omega, by omega, .inl (Nat.le_refl _)⟩
  · rw [if_neg htop, if_neg htop]
    split
    · trivial
    · exact ⟨by omega, hmin, by omega, hfull⟩

/-- Zero is a number of the format. -/
theorem isNumber_zero (negative : Bool) : IsNumber (zero negative) :=
  ⟨by decide, by decide, by decide, .inr rfl⟩

/-- What comes of rounding a fraction is a number of the format. -/
theorem isNumber_ofRatio (negative : Bool) (num : Nat) {den : Nat} (hden : 0 < den) :
    IsNumber (ofRatio negative num den) := by
  have htwo : (2 : ℚ) ≠ 0 := by norm_num
  rcases Nat.eq_zero_or_pos num with rfl | hnum
  · exact isNumber_zero negative
  obtain ⟨hlow, hhigh⟩ := fullExponent_bounds hnum hden
  rw [ofRatio_eq hnum]
  generalize hk : fullExponent num den = k at *
  generalize he : max minExponent k = e
  have hscaled : 0 < (scaleDown num den e).2 := scaleDown_den_pos hden e
  have hke : k ≤ e := by omega
  refine isNumber_pack ?_ (by omega) ?_
  · have hwhole : (scaleDown num den e).1 / (scaleDown num den e).2 < 2 ^ 53 := by
      rw [← not_le, le_div_iff_ratio hscaled, not_le, scaleDown_ratio,
        div_lt_iff₀ (by positivity)]
      refine hhigh.trans_le ?_
      rw [add_comm, zpow_add₀ htwo]
      push_cast
      gcongr
      norm_num
    have := roundHalfEven_le (scaleDown num den e).1 (scaleDown num den e).2
    omega
  · rcases eq_or_ne e minExponent with hleast | hmore
    · exact .inr hleast
    · have hsame : e = k := by omega
      refine .inl (le_trans ?_ (div_le_roundHalfEven _ _))
      rw [le_div_iff_ratio hscaled, scaleDown_ratio, le_div_iff₀ (by positivity), hsame]
      refine le_trans (le_of_eq ?_) hlow
      rw [add_comm, zpow_add₀ htwo]
      norm_num

/-- What comes of reading a decimal is a number of the format. -/
theorem isNumber_ofDecimal (negative : Bool) (digits width : Nat) (exponent : Int) :
    IsNumber (ofDecimal negative digits width exponent) := by
  unfold ofDecimal
  split
  · exact isNumber_zero negative
  split
  · trivial
  split
  · exact isNumber_zero negative
  cases exponent with
  | ofNat e => exact isNumber_ofRatio _ _ Nat.one_pos
  | negSucc e => exact isNumber_ofRatio _ _ (Nat.pow_pos (by decide))

/-- A decimal that is neither too large nor too small to be worked out is rounded like the number
that it spells. -/
theorem ofDecimal_of_roundsTo {negative : Bool} {m : Nat} {e : Int} {digits width : Nat}
    {exponent : Int} (hm : 0 < m) (hnumber : IsNumber (.finite negative m e))
    (hdigits : 0 < digits) (hlarge : exponent ≤ 400) (hsmall : -400 ≤ exponent + width)
    (h : RoundsTo m e (digits * 10 ^ exponent)) :
    ofDecimal negative digits width exponent = .finite negative m e := by
  unfold ofDecimal
  rw [if_neg hdigits.ne', if_neg (by omega), if_neg (by omega)]
  cases exponent with
  | ofNat k =>
    refine ofRatio_of_roundsTo Nat.one_pos hm hnumber ?_
    have hpow : Nat.pow 10 k = 10 ^ k := rfl
    rw [hpow]
    push_cast
    rwa [div_one, ← zpow_natCast]
  | negSucc k =>
    refine ofRatio_of_roundsTo (Nat.pow_pos (by decide)) hm hnumber ?_
    have hpow : Nat.pow 10 (k + 1) = 10 ^ (k + 1) := rfl
    rw [hpow, div_eq_mul_inv]
    push_cast
    rwa [zpow_negSucc] at h

end Remittance.Binary64

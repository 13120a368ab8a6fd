import Remittance.Ledger.Amount
import Remittance.Ledger.Admission
import Remittance.Proofs.Decimal.Numeral
import Mathlib.Data.List.TakeWhile
import Mathlib.Tactic.FieldSimp
import Mathlib.Data.Rat.Cast.Order

/-!
# What an amount says

The number that the text of an amount spells, and the two ways in which it is read: the strict one
of a payment request, and the wide one of the ledger. Where the strict one gives units, these are
exactly the number in units of 10^-7, and the wide one gives the same.
-/

set_option autoImplicit false

namespace Remittance

namespace Amount

/-- The characters of digits and of others that may come after a point. -/
def spelt (whole part : List Char) : List Char := whole ++ if part = [] then [] else '.' :: part

/-- A text is plain decimal: digits, and perhaps a point with digits after it. -/
structure Plain (t : Text) (whole part : List Char) : Prop where
  text : t = String.ofList (spelt whole part)
  whole_ne : whole ≠ []
  whole_digits : ∀ c ∈ whole, c.isDigit = true
  part_digits : ∀ c ∈ part, c.isDigit = true
  part_length : part.length ≤ places

/-- The number that digits before and after a point spell. -/
def number (whole part : List Char) : ℚ :=
  (Numeral.value whole : ℚ) + (Numeral.value part : ℚ) / 10 ^ part.length

/-- A text that can be split has the form of an amount. -/
theorem plain_of_split? {t : Text} {whole part : List Char}
    (hsplit : split? t = some (whole, part)) : Plain t whole part := by
  obtain ⟨s, hs, hrest⟩ := Option.bind_eq_some_iff.mp hsplit
  obtain rfl := Text.string?_eq_some_iff.mp hs
  have hdigits : ∀ c ∈ s.toList.takeWhile Char.isDigit, c.isDigit = true := by
    intro c hmem
    exact List.all_eq_true.mp List.all_takeWhile c hmem
  have htext := List.takeWhile_append_dropWhile (p := Char.isDigit) (l := s.toList)
  dsimp only at hrest
  split at hrest
  · cases hrest
  rename_i hsome
  have hne : s.toList.takeWhile Char.isDigit ≠ [] := by simpa using hsome
  split at hrest
  · rename_i hend
    cases hrest
    rw [hend] at htext
    exact ⟨by rw [spelt, if_pos rfl, htext, String.ofList_toList], hne, hdigits, by simp, by simp⟩
  · rename_i rest hpoint
    split at hrest
    · rename_i hpart
      cases hrest
      simp only [Bool.and_eq_true, Bool.not_eq_true', List.isEmpty_eq_false_iff, decide_eq_true_eq,
        List.all_eq_true] at hpart
      obtain ⟨⟨hpart, hlength⟩, hall⟩ := hpart
      rw [hpoint] at htext
      exact ⟨by rw [spelt, if_neg hpart, htext, String.ofList_toList], hne, hdigits, hall, hlength⟩
    · cases hrest
  · cases hrest

/-- The units of digits before and after a point are the number that they spell, times 10^7. -/
theorem units_eq_number {whole part : List Char} (hpart : part.length ≤ places) :
    (units (Numeral.value whole) part : ℚ) = number whole part * 10 ^ 7 := by
  have hsplit : (10 : ℚ) ^ 7 = 10 ^ part.length * 10 ^ (7 - part.length) := by
    rw [← pow_add, Nat.add_sub_cancel' (show part.length ≤ 7 from hpart)]
  have hne : (10 : ℚ) ^ part.length ≠ 0 := pow_ne_zero _ (by norm_num)
  rw [units, number, Numeral.value_append, Numeral.value_zeros, List.length_replicate, Nat.pow_eq]
  push_cast
  rw [show places = 7 from rfl, hsplit]
  field_simp
  ring

/-- An amount that is given in units is the number of its text, times 10^7, and in range. -/
theorem parse_eq_ok {t : Text} {n : Nat} (hparse : parse t = .ok n) :
    ∃ whole part, Plain t whole part ∧ n = units (Numeral.value whole) part ∧
      0 < n ∧ n ≤ maximum := by
  unfold parse at hparse
  split at hparse
  · cases hparse
  · rename_i whole part hsplit
    split at hparse
    · cases hparse
    · rename_i w hread
      dsimp only at hparse
      split at hparse
      · cases hparse
      · rename_i hrange
        cases hparse
        have hw : w = Numeral.value whole := by
          unfold Numeral.read at hread
          split at hread <;> cases hread
          rfl
        subst hw
        exact ⟨whole, part, plain_of_split? hsplit, rfl, by omega, by omega⟩

/-- The digits before the point of a plain text end where it ends or at the point. -/
theorem Plain.span {t : Text} {whole part : List Char} (hplain : Plain t whole part) :
    (spelt whole part).takeWhile Char.isDigit = whole ∧
      (spelt whole part).dropWhile Char.isDigit = if part = [] then [] else '.' :: part := by
  rw [spelt, List.takeWhile_append_of_pos hplain.whole_digits,
    List.dropWhile_append_of_pos hplain.whole_digits]
  by_cases hpart : part = []
  · simp [hpart]
  · simp [hpart]

/-- A text of the form of an amount can be split. -/
theorem split?_of_plain {t : Text} {whole part : List Char} (hplain : Plain t whole part) :
    split? t = some (whole, part) := by
  obtain ⟨htake, hdrop⟩ := hplain.span
  have hwhole : whole.isEmpty = false := by simpa using hplain.whole_ne
  rw [hplain.text, split?, Text.string?_ofString, Option.bind_eq_bind, Option.bind_some]
  dsimp only
  rw [String.toList_ofList, htake, hdrop, hwhole]
  by_cases hpart : part = []
  · rw [hpart]
    rfl
  · have hmany : part.isEmpty = false := by simpa using hpart
    have hdigits : part.all Char.isDigit = true := List.all_eq_true.mpr hplain.part_digits
    simp [hpart, hmany, hdigits, hplain.part_length]

/-- A text has the form of an amount in one way at most. -/
theorem Plain.unique {t : Text} {whole whole' part part' : List Char}
    (hplain : Plain t whole part) (hplain' : Plain t whole' part') :
    whole = whole' ∧ part = part' := by
  have hsplit := split?_of_plain hplain
  rw [split?_of_plain hplain'] at hsplit
  exact ⟨(congrArg Prod.fst (Option.some.inj hsplit)).symm,
    (congrArg Prod.snd (Option.some.inj hsplit)).symm⟩

/-- There are no more digits before the point than code points. -/
theorem Plain.length_whole_le {t : Text} {whole part : List Char} (hplain : Plain t whole part) :
    whole.length ≤ t.codes.length := by
  rw [hplain.text, Text.codes_ofString, String.toList_ofList, List.length_map, spelt,
    List.length_append]
  exact Nat.le_add_right _ _

/-- A text is an amount of a payment: it has the form, and says a number of units of 10^-7 that is
not zero and fits 63 bits. -/
def Valid (t : Text) : Prop :=
  ∃ whole part, Plain t whole part ∧
    1 ≤ number whole part * 10 ^ 7 ∧ number whole part * 10 ^ 7 ≤ 2 ^ 63 - 1

/-- A text has the form of an amount, but more digits before its point than are read. -/
def Overlong (t : Text) : Prop :=
  ∃ whole part, Plain t whole part ∧ Numeral.maxDigits < whole.length

/-- A plain text that is not overlong has no more digits before the point than are read. -/
theorem length_whole_le {t : Text} {whole part : List Char} (hshort : ¬ Overlong t)
    (hplain : Plain t whole part) : whole.length ≤ Numeral.maxDigits := by
  by_contra hlong
  exact hshort ⟨whole, part, hplain, Nat.not_le.mp hlong⟩

/-- A text of no more code points than digits are read is not overlong. -/
theorem not_overlong {t : Text} (hfew : t.codes.length ≤ Numeral.maxDigits) : ¬ Overlong t := by
  rintro ⟨whole, part, hplain, hlong⟩
  have hle := hplain.length_whole_le
  omega

/-- The units of an amount are in range exactly if its number is. -/
theorem units_range {whole part : List Char} (hpart : part.length ≤ places) :
    (1 ≤ number whole part * 10 ^ 7 ∧ number whole part * 10 ^ 7 ≤ 2 ^ 63 - 1) ↔
      ¬ (units (Numeral.value whole) part = 0 ∨ maximum < units (Numeral.value whole) part) := by
  have hmaximum : (2 : ℚ) ^ 63 - 1 = (maximum : ℚ) := by norm_num [maximum]
  rw [← units_eq_number hpart, hmaximum, Nat.one_le_cast, Nat.cast_le]
  omega

/-- The number of an amount that is read is given in units if it is in range, and refused else. -/
theorem parse_of_plain {t : Text} {whole part : List Char} (hplain : Plain t whole part)
    (hlength : whole.length ≤ Numeral.maxDigits) :
    parse t = if units (Numeral.value whole) part = 0 ∨
        maximum < units (Numeral.value whole) part then .error (.outOfRange t)
      else .ok (units (Numeral.value whole) part) := by
  rw [parse, split?_of_plain hplain]
  dsimp only
  rw [Numeral.read, if_pos hlength]

/-- An overlong text is refused for its digits. -/
theorem parse_of_overlong {t : Text} (hlong : Overlong t) :
    ∃ e, parse t = .error (.digits e) := by
  obtain ⟨whole, part, hplain, hlength⟩ := hlong
  refine ⟨⟨whole.length⟩, ?_⟩
  rw [parse, split?_of_plain hplain]
  dsimp only
  rw [Numeral.read, if_neg (Nat.not_le.mpr hlength)]

/-- A text without the form of an amount is refused as unreadable. -/
theorem parse_of_not_plain {t : Text} (hform : ∀ whole part, ¬ Plain t whole part) :
    parse t = .error (.unreadable t) := by
  rw [parse]
  split
  · rfl
  · rename_i whole part hsplit
    exact absurd (plain_of_split? hsplit) (hform whole part)

/-- An amount of which not too many digits are to be read is given in units exactly if it is one of
a payment; the others are refused as unreadable or as out of range. -/
theorem parse_of_not_overlong {t : Text} (hshort : ¬ Overlong t) :
    (Valid t ∧ ∃ n, parse t = .ok n) ∨
      (¬ Valid t ∧ (parse t = .error (.unreadable t) ∨ parse t = .error (.outOfRange t))) := by
  by_cases hform : ∃ whole part, Plain t whole part
  · obtain ⟨whole, part, hplain⟩ := hform
    rw [parse_of_plain hplain (length_whole_le hshort hplain)]
    by_cases hrange : units (Numeral.value whole) part = 0 ∨
        maximum < units (Numeral.value whole) part
    · refine .inr ⟨?_, .inr (if_pos hrange)⟩
      rintro ⟨whole', part', hplain', hnumber⟩
      obtain ⟨rfl, rfl⟩ := hplain.unique hplain'
      exact (units_range hplain.part_length).mp hnumber hrange
    · refine .inl ⟨⟨whole, part, hplain, (units_range hplain.part_length).mpr hrange⟩, _,
        if_neg hrange⟩
  · have hnone : ∀ whole part, ¬ Plain t whole part := fun whole part hplain =>
      hform ⟨whole, part, hplain⟩
    refine .inr ⟨?_, .inl (parse_of_not_plain hnone)⟩
    rintro ⟨whole, part, hplain, -⟩
    exact hnone whole part hplain

end Amount

namespace Admission

open Amount

/-- A character of an amount: a digit or a point. -/
def IsPlain (c : Char) : Prop := c.isDigit = true ∨ c = '.'

/-- No character of an amount is a blank. -/
theorem IsPlain.not_isBlank {c : Char} (hc : IsPlain c) : Blank.isBlank c = false := by
  rcases hc with hdigit | rfl
  · rw [Numeral.isDigit_iff] at hdigit
    unfold Blank.isBlank Blank.isWhiteSpace
    simp only [Bool.or_eq_false_iff, Bool.and_eq_false_iff, decide_eq_false_iff_not,
      beq_eq_false_iff_ne]
    omega
  · rfl

/-- The characters of an amount are those of ASCII already. -/
theorem IsPlain.toAscii_eq {c : Char} (hc : IsPlain c) : Digit.toAscii c = c := by
  rcases hc with hdigit | rfl
  · rw [Numeral.isDigit_iff] at hdigit
    have hzero : Digit.value? c = some (c.toNat - 48) := by
      unfold Digit.value? Digit.zeros
      rw [List.find?_cons_of_pos (by simp; omega)]
      rfl
    rw [Digit.toAscii, hzero]
    dsimp only
    rw [Nat.add_sub_cancel' hdigit.1, Char.ofNat_toNat]
  · decide

/-- The characters of an amount have no other case. -/
theorem IsPlain.toLower_eq {c : Char} (hc : IsPlain c) : c.toLower = c := by
  rcases hc with hdigit | rfl
  · rw [Numeral.isDigit_iff] at hdigit
    unfold Char.toLower
    rw [dif_neg]
    rintro ⟨hupper, -⟩
    have hlow : 65 ≤ c.toNat := hupper
    omega
  · rfl

/-- Where nothing is blank, nothing is trimmed. -/
theorem trim_of_not_blank {p : Char → Bool} {cs : List Char} (hall : ∀ c ∈ cs, p c = false) :
    Blank.trim p cs = cs := by
  have hkeep : ∀ l : List Char, (∀ c ∈ l, p c = false) → l.dropWhile p = l := by
    intro l hl
    cases l with
    | nil => rfl
    | cons c l => rw [List.dropWhile_cons_of_neg (by simp [hl c])]
  rw [Blank.trim, hkeep cs hall, hkeep cs.reverse (by simpa using hall), List.reverse_reverse]

/-- The digits of a plain text are found as they stand. -/
theorem digits_of_plain {t : Text} {whole part : List Char} (hplain : Plain t whole part) :
    digits (spelt whole part) = (whole, part, []) := by
  obtain ⟨htake, hdrop⟩ := hplain.span
  unfold digits
  rw [htake, hdrop]
  by_cases hpart : part = []
  · rw [if_pos hpart, hpart]
  · rw [if_neg hpart]
    show (whole, part.takeWhile Char.isDigit, part.dropWhile Char.isDigit) = _
    rw [List.takeWhile_eq_self_iff.mpr hplain.part_digits,
      List.dropWhile_eq_nil_iff.mpr hplain.part_digits]

/-- A plain text consists of characters of an amount. -/
theorem isPlain_of_mem {t : Text} {whole part : List Char} (hplain : Plain t whole part) {c : Char}
    (hmem : c ∈ spelt whole part) : IsPlain c := by
  rw [spelt, List.mem_append] at hmem
  rcases hmem with hmem | hmem
  · exact .inl (hplain.whole_digits c hmem)
  · split at hmem
    · cases hmem
    · rcases List.mem_cons.mp hmem with rfl | hmem
      · exact .inr rfl
      · exact .inl (hplain.part_digits c hmem)

/-- A plain text begins with a digit. -/
theorem head_of_plain {t : Text} {whole part : List Char} (hplain : Plain t whole part) :
    ∃ c rest, spelt whole part = c :: rest ∧ c.isDigit = true := by
  obtain ⟨c, ds, hwhole⟩ := List.exists_cons_of_ne_nil hplain.whole_ne
  refine ⟨c, _, by rw [spelt, hwhole]; rfl, hplain.whole_digits c ?_⟩
  rw [hwhole]
  exact List.mem_cons_self

/-- A plain text is read as its digits, the last of them as many places behind the point as there
are digits behind it. -/
theorem decimal?_of_plain {t : Text} {whole part : List Char} (hplain : Plain t whole part)
    (hcount : isCountable (Numeral.value (whole ++ part)) (-part.length) = true) :
    decimal? t = some (.finite false (Numeral.value (whole ++ part)) (-part.length)) := by
  have hmem := fun c => isPlain_of_mem hplain (c := c)
  -- Blanks, separators, foreign digits and capitals are taken care of first; here are none of them.
  have htrim : Blank.trim Blank.isBlank (spelt whole part) = spelt whole part :=
    trim_of_not_blank fun c hc => (hmem c hc).not_isBlank
  have hkeep : (spelt whole part).filter (· ≠ '_') = spelt whole part := by
    rw [List.filter_eq_self]
    intro c hc
    rcases hmem c hc with hdigit | rfl
    · rw [Numeral.isDigit_iff] at hdigit
      simp only [ne_eq, decide_eq_true_eq]
      rintro rfl
      exact absurd hdigit.2 (by decide)
    · decide
  have hascii : (spelt whole part).map Digit.toAscii = spelt whole part := by
    rw [List.map_congr_left (g := id) fun c hc => (hmem c hc).toAscii_eq, List.map_id]
  have hlower : (spelt whole part).map Char.toLower = spelt whole part := by
    rw [List.map_congr_left (g := id) fun c hc => (hmem c hc).toLower_eq, List.map_id]
  obtain ⟨c, rest, hcons, hdigit⟩ := head_of_plain hplain
  rw [Numeral.isDigit_iff] at hdigit
  have hne : ∀ d : Char, 57 < d.toNat ∨ d.toNat < 48 → c ≠ d := by
    rintro d hd rfl
    omega
  have hunsigned : decimal? t = unsigned? false (spelt whole part) := by
    rw [hplain.text, decimal?, Text.string?_ofString, Option.bind_eq_bind, Option.bind_some,
      String.toList_ofList, htrim, hkeep, hascii]
    split
    · rename_i ds heq
      rw [hcons, List.cons.injEq] at heq
      exact absurd heq.1 (hne '-' (by decide))
    · rename_i ds heq
      rw [hcons, List.cons.injEq] at heq
      exact absurd heq.1 (hne '+' (by decide))
    · rfl
  -- A text that begins with a digit is none of the words for what is not finite.
  have hword : ∀ word : String, ∀ d ds, word.toList = d :: ds → c ≠ d →
      String.ofList (spelt whole part) ≠ word := by
    rintro word d ds hd hcd rfl
    rw [String.toList_ofList, hcons, List.cons.injEq] at hd
    exact hcd hd.1
  have hs : (spelt whole part).head? ≠ some 's' := by
    rw [hcons]
    simpa using hne 's' (by decide)
  have hnan : (spelt whole part).take 3 ≠ ['n', 'a', 'n'] := by
    rw [hcons]
    simp [hne 'n' (by decide)]
  rw [hunsigned, unsigned?]
  simp only [hlower]
  rw [if_neg (not_or.mpr ⟨hword "inf" 'i' _ rfl (hne 'i' (by decide)),
      hword "infinity" 'i' _ rfl (hne 'i' (by decide))⟩), if_neg hs,
      if_neg (not_and_of_not_left _ hnan),
    digits_of_plain hplain]
  simp only [List.isEmpty_iff, hplain.whole_ne, false_and, if_false, exponent?]
  simp [hcount]

/-- Units counted from all digits at once are those counted before and after the point. -/
theorem units_append {whole part : List Char} (hpart : part.length ≤ places) :
    units (Numeral.value (whole ++ part)) (-part.length) =
      Amount.units (Numeral.value whole) part := by
  have hexponent : (-(part.length : Int) + 7).toNat = 7 - part.length := by omega
  have hsplit : 10 ^ part.length * 10 ^ (7 - part.length) = 10 ^ 7 := by
    rw [← pow_add, Nat.add_sub_cancel' (show part.length ≤ 7 from hpart)]
  rw [units, Amount.units, hexponent, Numeral.value_append, Numeral.value_append,
    Numeral.value_zeros, List.length_replicate, Nat.pow_eq, Nat.pow_eq, Nat.add_mul, Nat.mul_assoc]
  rw [hsplit]
  rfl

/-- The ledger reads an amount of a payment request as the same number of units. -/
theorem amount_of_parse {t : Text} {n : Nat} (role : AmountRole) (hparse : parse t = .ok n) :
    amount role t = .ok n := by
  obtain ⟨whole, part, hplain, hunits, hpos, hmax⟩ := parse_eq_ok hparse
  have hlength : part.length ≤ 7 := hplain.part_length
  have hscaled : units (Numeral.value (whole ++ part)) (-part.length) = n :=
    (units_append hplain.part_length).trans hunits.symm
  have hlow : Numeral.value (whole ++ part) ≤ n := by
    rw [← hscaled, units]
    exact Nat.le_mul_of_pos_right _ (Nat.pow_pos (by decide))
  have hmaximum : maximum < 10 ^ 19 := by decide
  have hdigits : (Numeral.digits (Numeral.value (whole ++ part))).length ≤ 19 :=
    (Nat.length_toDigits_le_iff (by decide) (by decide)).mpr (by omega)
  have hcount : isCountable (Numeral.value (whole ++ part)) (-part.length) = true := by
    simp only [isCountable, Bool.and_eq_true, decide_eq_true_eq]
    omega
  have hinside : ¬ (-(part.length : Int) < -7 ∨ 7 < -(part.length : Int)) := by omega
  have hsmall : ¬ 0x8000000000000000 ≤ n := by
    rw [maximum] at hmax
    omega
  rw [amount, decimal?_of_plain hplain hcount]
  dsimp only
  rw [if_neg hinside, hscaled, if_neg (by simpa using hsmall)]

end Admission

end Remittance

import Remittance.Proofs.Decimal.Numeral
import Remittance.Proofs.Json.Soundness

/-!
# What is spelt is read

Whatever characters spell a value is read as that value, and nothing more is taken; whatever goes
beyond the room stops the reader there. Main statements: `read_eq_ok_iff` and `read_eq_nested_iff`,
by which the reader and the grammar agree. Each part is read in front of what may follow it; the
fuel is bounded by the characters that spell it.
-/

set_option autoImplicit false

namespace Remittance.Json

/-- Nothing follows, or a blank, a comma or a closing bracket. -/
def EndsPart (rest : List Char) : Prop :=
  ∀ c ∈ rest.head?, isBlank c = true ∨ c = ',' ∨ c = ']' ∨ c = '}'

/-- What does not begin with a digit. -/
def NoDigitFirst (rest : List Char) : Prop := ∀ c ∈ rest.head?, c.isDigit = false

section Ends

variable {rest : List Char}

/-- The blanks are space, tab, line feed and carriage return. -/
theorem isBlank_iff {c : Char} :
    isBlank c = true ↔ c = ' ' ∨ c = '\t' ∨ c = '\n' ∨ c = '\r' := by
  simp [isBlank, or_assoc]

/-- The end of the text ends a part. -/
theorem endsPart_nil : EndsPart [] := by
  intro c hc
  cases hc

/-- Blanks may stand between a part and what ends it. -/
theorem endsPart_blanks {bs : List Char} (hbs : Blanks bs) (hrest : EndsPart rest) :
    EndsPart (bs ++ rest) := by
  cases bs with
  | nil => exact hrest
  | cons b bs =>
    intro c hc
    rw [List.cons_append, List.head?_cons, Option.mem_some] at hc
    exact .inl (hc ▸ hbs b List.mem_cons_self)

/-- A comma and the closing brackets end a part. -/
theorem endsPart_cons {c : Char} (hc : c = ',' ∨ c = ']' ∨ c = '}') : EndsPart (c :: rest) := by
  intro d hd
  rw [List.head?_cons, Option.mem_some] at hd
  exact .inr (hd ▸ hc)

/-- A character that is no digit ends the digits before it. -/
theorem noDigitFirst_cons {c : Char} {rest : List Char} (hc : c.isDigit = false) :
    NoDigitFirst (c :: rest) := by
  intro d hd
  rw [List.head?_cons, Option.mem_some] at hd
  rwa [← hd]

/-- What ends a part cannot be more of a number. -/
theorem EndsPart.no_number (h : EndsPart rest) :
    NoDigitFirst rest ∧ fractionDigits? rest = none ∧ exponent? rest = none := by
  cases rest with
  | nil =>
    refine ⟨fun c hc => ?_, rfl, rfl⟩
    cases hc
  | cons c cs =>
    have hc := h c rfl
    rw [isBlank_iff] at hc
    rcases hc with (rfl | rfl | rfl | rfl) | rfl | rfl | rfl <;>
      exact ⟨noDigitFirst_cons rfl, rfl, rfl⟩

end Ends

section Blanks

variable {bs cs : List Char}

/-- What begins with no blank is left as it is. -/
theorem skipBlanks_cons {c : Char} (hc : isBlank c = false) : skipBlanks (c :: cs) = c :: cs :=
  List.dropWhile_cons_of_neg (by simp [hc])

/-- Blanks are skipped. -/
theorem skipBlanks_blanks (hbs : Blanks bs) : skipBlanks (bs ++ cs) = skipBlanks cs :=
  List.dropWhile_append_of_pos hbs

/-- The first character is one that a value or a name may begin with: neither a blank, nor a closing
bracket, nor a byte order mark. -/
def Opens (cs : List Char) : Prop :=
  ∃ c more, cs = c :: more ∧ isBlank c = false ∧ c ≠ ']' ∧ c ≠ '}' ∧ c ≠ Char.ofNat 0xFEFF

/-- What follows does not matter for the first character. -/
theorem Opens.append (h : Opens cs) (rest : List Char) : Opens (cs ++ rest) := by
  obtain ⟨c, more, rfl, hc⟩ := h
  exact ⟨c, more ++ rest, rfl, hc⟩

/-- Blanks are skipped up to a first character that opens. -/
theorem Opens.skipBlanks_eq (h : Opens cs) (hbs : Blanks bs) : skipBlanks (bs ++ cs) = cs := by
  obtain ⟨c, more, rfl, hblank, -⟩ := h
  rw [skipBlanks_blanks hbs, skipBlanks_cons hblank]

end Blanks

section Texts

variable {cs rest : List Char} {text : List CodePoint}

/-- Where spelt characters begin an escape by number, its four digits are there. -/
theorem SpellsText.quad_of_escape (h : SpellsText cs text) {behind : List Char}
    (hescape : cs ++ '"' :: rest = '\\' :: 'u' :: behind) :
    ∃ n after, quad? behind = some (n, after) ∧ (IsLow n → BeginsLow cs) := by
  cases h with
  | nil => cases hescape
  | plain c hplain hmore =>
    rw [List.cons_append, List.cons.injEq] at hescape
    exact absurd hescape.1 hplain.2.2
  | letter e c hletter hmore =>
    rw [List.cons_append, List.cons_append, List.cons.injEq, List.cons.injEq] at hescape
    obtain ⟨-, rfl, -⟩ := hescape
    cases hletter
  | @number ds cs text n hquad halone hmore =>
    rw [List.cons_append, List.cons_append, List.append_assoc, List.cons.injEq,
      List.cons.injEq] at hescape
    obtain ⟨-, -, rfl⟩ := hescape
    exact ⟨n, _, hquad.quad_append _, fun hlow => ⟨ds, n, cs, rfl, hquad, hlow⟩⟩
  | @pair ds es cs text high low hhigh hfirst hlow hsecond hmore =>
    rw [List.cons_append, List.cons_append, List.append_assoc, List.cons.injEq,
      List.cons.injEq] at hescape
    obtain ⟨-, -, rfl⟩ := hescape
    exact ⟨high, _, hhigh.quad_append _, fun hlow => ⟨ds, high, _, rfl, hhigh, hlow⟩⟩

/-- A number alone: no first half, or no second half behind it. -/
theorem numberEscape_alone {ds : List Char} {n : Nat} (hquad : Quad ds n)
    (halone : IsHigh n → ¬ BeginsLow cs) (hmore : SpellsText cs text) :
    numberEscape (ds ++ (cs ++ '"' :: rest)) = .ok (.ofNat n, cs ++ '"' :: rest) := by
  have henough : ((ds ++ (cs ++ '"' :: rest)).drop 4).isEmpty = false := by
    have := hquad.length_eq
    simp [List.isEmpty_eq_false_iff, this]
  rw [numberEscape, henough, if_neg Bool.false_ne_true]
  simp only [hquad.quad_append]
  split
  · next hhigh =>
    split
    · next behind hescape =>
      obtain ⟨low, after, hlow, hbegins⟩ := hmore.quad_of_escape hescape
      have hother : ¬ IsLow low := fun h => halone ⟨hhigh.1, hhigh.2.1⟩ (hbegins h)
      rw [hlow, hescape]
      exact if_neg hother
    · rfl
  · rfl

/-- Two numbers that are a surrogate pair. -/
theorem numberEscape_pair {ds es : List Char} {high low : Nat} (hhigh : Quad ds high)
    (hfirst : IsHigh high) (hlow : Quad es low) (hsecond : IsLow low) (hmore : cs ≠ []) :
    numberEscape (ds ++ '\\' :: 'u' :: (es ++ cs)) =
      .ok (.char (Char.ofNat (0x10000 + (high - 0xD800) * 0x400 + (low - 0xDC00))), cs) := by
  have hds := hhigh.length_eq
  have hes := hlow.length_eq
  have henough : ((ds ++ '\\' :: 'u' :: (es ++ cs)).drop 4).isEmpty = false := by
    simp [hds]
  have hlonger : (('\\' :: 'u' :: (es ++ cs)).drop 6).isEmpty = false := by
    simp [List.isEmpty_eq_false_iff, hes, hmore]
  rw [numberEscape, henough, if_neg Bool.false_ne_true]
  simp only [hhigh.quad_append]
  rw [if_pos ⟨hfirst.1, hfirst.2, hlonger⟩]
  simp only [hlow.quad_append]
  exact if_pos hsecond

/-- A character that stands for itself: it neither ends the text nor begins an escape, and it is no
control. -/
theorem closeQuote_plain (start fuel : Nat) (seen : List CodePoint) {c : Char}
    (hplain : 0x20 ≤ c.toNat ∧ c ≠ '"' ∧ c ≠ '\\') (cs : List Char) :
    closeQuote start (fuel + 1) seen (c :: cs) = closeQuote start fuel (c :: seen) cs := by
  obtain ⟨hcontrol, hquote, hslash⟩ := hplain
  rw [closeQuote.eq_def]
  dsimp only
  split
  · next heq => cases heq
  · next heq =>
    cases heq
    exact absurd rfl hquote
  · next heq =>
    cases heq
    exact absurd rfl hslash
  · next heq =>
    cases heq
    rw [if_neg (by omega)]

/-- An escape by letter gives its character. -/
theorem closeQuote_letter (start fuel : Nat) (seen : List CodePoint) {e c : Char}
    (hletter : letterEscape? e = some c) (cs : List Char) :
    closeQuote start (fuel + 1) seen ('\\' :: e :: cs) = closeQuote start fuel (c :: seen) cs := by
  simp only [closeQuote]
  split
  · next heq => cases heq
  · next heq =>
    cases heq
    cases hletter
  · next heq =>
    cases heq
    rw [hletter]

/-- An escape by number gives its code point. -/
theorem closeQuote_number (start fuel : Nat) (seen : List CodePoint) {c : CodePoint}
    {cs more : List Char}
    (hescape : numberEscape more = .ok (c, cs)) :
    closeQuote start (fuel + 1) seen ('\\' :: 'u' :: more) =
      closeQuote start fuel (c :: seen) cs := by
  simp only [closeQuote, hescape]
  rfl

/-- What spells a text is read up to the closing quote, behind what was read before. -/
theorem closeQuote_spelt (h : SpellsText cs text) (start fuel : Nat) (seen : List CodePoint)
    (hfuel : cs.length < fuel) :
    closeQuote start fuel seen (cs ++ '"' :: rest) =
      .ok (⟨seen.reverse ++ text⟩, rest) := by
  induction h generalizing fuel seen with
  | nil =>
    obtain ⟨fuel, rfl⟩ : ∃ f, fuel = f + 1 := ⟨fuel - 1, by omega⟩
    rw [List.append_nil]
    rfl
  | plain c hplain hmore ih =>
    obtain ⟨fuel, rfl⟩ : ∃ f, fuel = f + 1 := ⟨fuel - 1, by omega⟩
    rw [List.length_cons] at hfuel
    rw [List.cons_append, closeQuote_plain start fuel seen hplain, ih fuel _ (by omega),
      List.reverse_cons, List.append_assoc, List.singleton_append]
  | letter e c hletter hmore ih =>
    obtain ⟨fuel, rfl⟩ : ∃ f, fuel = f + 1 := ⟨fuel - 1, by omega⟩
    simp only [List.length_cons] at hfuel
    rw [List.cons_append, List.cons_append, closeQuote_letter start fuel seen hletter,
      ih fuel _ (by omega), List.reverse_cons, List.append_assoc, List.singleton_append]
  | number hquad halone hmore ih =>
    obtain ⟨fuel, rfl⟩ : ∃ f, fuel = f + 1 := ⟨fuel - 1, by omega⟩
    simp only [List.length_cons, List.length_append] at hfuel
    rw [List.cons_append, List.cons_append, List.append_assoc,
      closeQuote_number start fuel seen (numberEscape_alone hquad halone hmore),
      ih fuel _ (by omega), List.reverse_cons, List.append_assoc, List.singleton_append]
  | @pair ds es cs text high low hhigh hfirst hlow hsecond hmore ih =>
    obtain ⟨fuel, rfl⟩ : ∃ f, fuel = f + 1 := ⟨fuel - 1, by omega⟩
    simp only [List.length_cons, List.length_append] at hfuel
    have hclosed : cs ++ '"' :: rest ≠ [] :=
      List.append_ne_nil_of_right_ne_nil _ (List.cons_ne_nil _ _)
    have hescape := numberEscape_pair hhigh hfirst hlow hsecond hclosed
    generalize CodePoint.char (Char.ofNat (0x10000 + (high - 0xD800) * 0x400 + (low - 0xDC00))) = c
      at hescape ⊢
    simp only [List.cons_append, List.append_assoc]
    rw [closeQuote_number start fuel seen hescape, ih fuel _ (by omega), List.reverse_cons,
      List.append_assoc, List.singleton_append]

/-- What spells a text between two quotes is read as it. -/
theorem readText_spelt (h : SpellsText cs text) :
    readText (cs ++ '"' :: rest) = .ok (⟨text⟩, rest) := by
  refine closeQuote_spelt h _ _ [] ?_
  rw [List.length_append]
  omega

end Texts

section Numbers

variable {ds cs rest : List Char}

/-- What does not begin with a digit loses no digits. -/
theorem dropWhile_digits_rest (hrest : NoDigitFirst rest) : rest.dropWhile Char.isDigit = rest := by
  cases rest with
  | nil => rfl
  | cons c cs => exact List.dropWhile_cons_of_neg (by simp [hrest c rfl])

/-- What does not begin with a digit has no digits in front. -/
theorem takeWhile_digits_rest (hrest : NoDigitFirst rest) : rest.takeWhile Char.isDigit = [] := by
  cases rest with
  | nil => rfl
  | cons c cs => exact List.takeWhile_cons_of_neg (by simp [hrest c rfl])

/-- Digits are taken up to what follows them. -/
theorem takeWhile_digits (hds : AllDigits ds) (hrest : NoDigitFirst rest) :
    (ds ++ rest).takeWhile Char.isDigit = ds := by
  rw [List.takeWhile_append_of_pos hds, takeWhile_digits_rest hrest, List.append_nil]

/-- Digits are dropped up to what follows them. -/
theorem dropWhile_digits (hds : AllDigits ds) (hrest : NoDigitFirst rest) :
    (ds ++ rest).dropWhile Char.isDigit = rest := by
  rw [List.dropWhile_append_of_pos hds, dropWhile_digits_rest hrest]

/-- A whole number is read up to what follows it. -/
theorem wholeDigits_append (h : IsWhole ds) (hrest : NoDigitFirst rest) :
    wholeDigits (ds ++ rest) = (ds, rest) := by
  rcases h with rfl | ⟨c, cs, rfl, hc, hds⟩
  · rfl
  · rw [List.cons_append, wholeDigits.eq_def]
    split
    · next heq =>
      rw [List.cons.injEq] at heq
      exact absurd heq.1 hc
    · rw [← List.cons_append, takeWhile_digits hds hrest, dropWhile_digits hds hrest]

/-- The digits behind a point are read up to what follows them. -/
theorem fractionDigits_append (hds : AllDigits ds) (hne : ds ≠ []) (hrest : NoDigitFirst rest) :
    fractionDigits? ('.' :: (ds ++ rest)) = some (ds, rest) := by
  simp only [fractionDigits?, takeWhile_digits hds hrest, dropWhile_digits hds hrest]
  rw [if_neg (by simpa using hne)]

/-- The sign of a number is read first. -/
theorem readNumber_withSign (negative : Bool) {whole after : List Char} (hwhole : IsWhole whole)
    (hafter : NoDigitFirst after) :
    readNumber (withSign negative whole ++ after) =
      let fraction := fractionDigits? after
      let exponent := exponent? (fraction.getD ([], after)).2
      let part := (fraction.getD ([], after)).1
      let power := (exponent.getD (0, (fraction.getD ([], after)).2)).1
      let rest := (exponent.getD (0, (fraction.getD ([], after)).2)).2
      if fraction.isSome || exponent.isSome then
        .ok (.real (.ofDecimal negative (Numeral.value (whole ++ part)) (whole ++ part).length
          (power - part.length)), rest)
      else match Numeral.read whole with
        | .ok n => .ok (.int (if negative then -(n : Int) else n), rest)
        | .error e => .error (.numeral e) := by
  have hread := wholeDigits_append hwhole hafter
  have hne : whole.isEmpty = false := by simpa using hwhole.ne_nil
  cases negative with
  | true =>
    simp only [withSign, if_true, List.cons_append, readNumber, hread, hne]
    rfl
  | false =>
    obtain ⟨c, cs, rfl, hdigit⟩ := hwhole.exists_cons
    have hsign : c ≠ '-' := by
      rintro rfl
      cases hdigit
    simp only [withSign, Bool.false_eq_true, if_false, List.cons_append] at hread ⊢
    rw [readNumber.eq_def]
    split
    next heq =>
      split at heq
      · next hminus =>
        rw [List.cons.injEq] at hminus
        exact absurd hminus.1 hsign
      · cases heq
        simp only [hread, hne]
        rfl

/-- A fraction begins with a point, so it ends the digits before it. -/
theorem fraction_head {part : List Char} (h : Fraction cs part) (hrest : NoDigitFirst rest) :
    NoDigitFirst (cs ++ rest) := by
  cases h with
  | none => exact hrest
  | digits hdigits hne => exact noDigitFirst_cons rfl

/-- A fraction is read, if there is one. -/
theorem fraction_spelt {part : List Char} (h : Fraction cs part) (hrest : NoDigitFirst rest)
    (hnone : fractionDigits? rest = none) :
    (fractionDigits? (cs ++ rest)).getD ([], cs ++ rest) = (part, rest) ∧
      ((fractionDigits? (cs ++ rest)).isSome = true ↔ cs ≠ []) := by
  cases h with
  | none => simp [hnone]
  | digits hdigits hne =>
    rw [List.cons_append, fractionDigits_append hdigits hne hrest]
    exact ⟨rfl, by simp⟩

/-- An exponent begins with a letter, so what is in front of it is read whole. -/
theorem exponent_head {power : Int} (h : Exponent cs power) (hrest : EndsPart rest) :
    NoDigitFirst (cs ++ rest) ∧ fractionDigits? (cs ++ rest) = none := by
  have hletter (e : Char) (more : List Char) (he : e = 'e' ∨ e = 'E') :
      NoDigitFirst (e :: more) ∧ fractionDigits? (e :: more) = none := by
    rcases he with rfl | rfl <;> exact ⟨noDigitFirst_cons rfl, rfl⟩
  cases h with
  | none => exact ⟨hrest.no_number.1, hrest.no_number.2.1⟩
  | unsigned he hdigits hne => exact hletter _ _ he
  | plus he hdigits hne => exact hletter _ _ he
  | minus he hdigits hne => exact hletter _ _ he

/-- An exponent is read, if there is one. -/
theorem exponent_spelt {power : Int} (h : Exponent cs power) (hrest : EndsPart rest) :
    (exponent? (cs ++ rest)).getD (0, cs ++ rest) = (power, rest) ∧
      ((exponent? (cs ++ rest)).isSome = true ↔ cs ≠ []) := by
  obtain ⟨hdigit, -, hnone⟩ := hrest.no_number
  cases h with
  | none => simp [hnone]
  | @unsigned e ds he hdigits hne =>
    have hread : exponent? (e :: (ds ++ rest)) = some ((Numeral.value ds : Int), rest) := by
      have hsign : ∀ body, ds ++ rest ≠ '-' :: body ∧ ds ++ rest ≠ '+' :: body := by
        cases ds with
        | nil => exact absurd rfl hne
        | cons d ds =>
          have hd := hdigits d List.mem_cons_self
          intro body
          constructor <;>
          · intro heq
            rw [List.cons_append, List.cons.injEq] at heq
            rw [heq.1] at hd
            cases hd
      rw [exponent?.eq_def]
      dsimp only
      rw [if_pos he]
      split
      · next hminus => exact absurd hminus (hsign _).1
      · next hplus => exact absurd hplus (hsign _).2
      · simp only [takeWhile_digits hdigits hdigit, dropWhile_digits hdigits hdigit,
          Bool.false_eq_true, if_false]
        exact if_neg (by simpa using hne)
    rw [List.cons_append, hread]
    exact ⟨rfl, by simp⟩
  | @plus e ds he hdigits hne =>
    have hread : exponent? (e :: '+' :: (ds ++ rest)) = some ((Numeral.value ds : Int), rest) := by
      simp only [exponent?, if_pos he, takeWhile_digits hdigits hdigit,
        dropWhile_digits hdigits hdigit, Bool.false_eq_true, if_false]
      exact if_neg (by simpa using hne)
    rw [List.cons_append, List.cons_append, hread]
    exact ⟨rfl, by simp⟩
  | @minus e ds he hdigits hne =>
    have hread : exponent? (e :: '-' :: (ds ++ rest)) = some (-(Numeral.value ds : Int), rest) := by
      simp only [exponent?, if_pos he, takeWhile_digits hdigits hdigit,
        dropWhile_digits hdigits hdigit, if_true]
      exact if_neg (by simpa using hne)
    rw [List.cons_append, List.cons_append, hread]
    exact ⟨rfl, by simp⟩

/-- What spells a number is read as it. -/
theorem readNumber_spelt {j : Json} (h : SpellsNumber Limited cs j) (hrest : EndsPart rest) :
    readNumber (cs ++ rest) = .ok (j, rest) := by
  cases h with
  | @int negative whole hwhole hadmits =>
    have hlength : whole.length ≤ Numeral.maxDigits := hadmits
    obtain ⟨hdigit, hfraction, hexponent⟩ := hrest.no_number
    rw [readNumber_withSign negative hwhole hdigit]
    simp only [hfraction, hexponent, Option.getD_none, Option.isSome_none, Bool.or_self,
      Bool.false_eq_true, if_false, Numeral.read, if_pos hlength]
  | @real negative whole fraction part exponent power hwhole hfraction hexponent hsome =>
    obtain ⟨hdigit, hnone⟩ := exponent_head hexponent hrest
    obtain ⟨hpart, hpartSome⟩ := fraction_spelt hfraction hdigit hnone
    obtain ⟨hpower, hpowerSome⟩ := exponent_spelt hexponent hrest
    rw [List.append_assoc, List.append_assoc,
      readNumber_withSign negative hwhole (fraction_head hfraction hdigit)]
    simp only [hpart, hpower]
    rw [if_pos]
    rw [Bool.or_eq_true, hpartSome, hpowerSome]
    exact hsome

/-- An integer of too many digits stops the reader. -/
theorem readNumber_long {whole : List Char} (hwhole : IsWhole whole)
    (hlong : ¬ Limited whole.length) (hrest : EndsPart rest) :
    readNumber (whole ++ rest) = .error (.numeral ⟨whole.length⟩) := by
  obtain ⟨hdigit, hfraction, hexponent⟩ := hrest.no_number
  have hlength : ¬ whole.length ≤ Numeral.maxDigits := hlong
  have hread := readNumber_withSign false hwhole hdigit
  simp only [withSign, Bool.false_eq_true, if_false, hfraction, hexponent, Option.getD_none,
    Option.isSome_none, Bool.or_self, Numeral.read, if_neg hlength] at hread
  exact hread

end Numbers

section Values

/-- The decimal digits. -/
def digitChars : List Char := ['0', '1', '2', '3', '4', '5', '6', '7', '8', '9']

/-- A digit is one of the ten. -/
theorem mem_digitChars {c : Char} (h : c.isDigit = true) : c ∈ digitChars := by
  have hrange := (Numeral.isDigit_iff c).mp h
  have hall : ∀ n : Fin 10, Char.ofNat (48 + n.val) ∈ digitChars := by decide
  have hmem := hall ⟨c.toNat - 48, by omega⟩
  rwa [show 48 + (c.toNat - 48) = c.toNat by omega, Char.ofNat_toNat] at hmem

/-- A number begins with a digit, which a minus sign may precede. -/
theorem SpellsNumber.exists_digit {admits : Nat → Prop} {cs : List Char} {j : Json}
    (h : SpellsNumber admits cs j) :
    ∃ c more, c ∈ digitChars ∧ (cs = c :: more ∨ cs = '-' :: c :: more) := by
  have hwhole (negative : Bool) {whole : List Char} (rest : List Char) (h : IsWhole whole) :
      ∃ c more, c ∈ digitChars ∧ (withSign negative whole ++ rest = c :: more ∨
        withSign negative whole ++ rest = '-' :: c :: more) := by
    obtain ⟨c, more, rfl, hc⟩ := h.exists_cons
    refine ⟨c, more ++ rest, mem_digitChars hc, ?_⟩
    cases negative with
    | true => exact .inr rfl
    | false => exact .inl rfl
  cases h with
  | int negative h =>
    have hfirst := hwhole negative [] h
    rwa [List.append_nil] at hfirst
  | real negative h => exact hwhole negative _ h

/-- A number begins with a digit or a sign. -/
theorem opens_of_number {admits : Nat → Prop} {cs : List Char} {j : Json}
    (h : SpellsNumber admits cs j) : Opens cs := by
  have hdigits : digitChars.all (fun c => !isBlank c && c != ']' && c != '}' &&
      c != Char.ofNat 0xFEFF) = true := by decide
  obtain ⟨c, more, hc, rfl | rfl⟩ := h.exists_digit
  · have hother := List.all_eq_true.mp hdigits c hc
    simp only [Bool.and_eq_true, Bool.not_eq_true', bne_iff_ne, and_assoc] at hother
    exact ⟨c, more, rfl, hother⟩
  · exact ⟨'-', c :: more, rfl, by decide⟩

/-- A value begins with a character that opens. -/
theorem opens_of_spelt {admits : Nat → Prop} {room : Nat} {cs : List Char} {j : Json}
    (h : Spells admits room cs j) : Opens cs := by
  cases h with
  | word hw =>
    simp only [words, List.mem_cons, List.not_mem_nil, or_false] at hw
    rcases hw with rfl | rfl | rfl | rfl | rfl | rfl
    · exact ⟨'n', _, rfl, by decide⟩
    · exact ⟨'t', _, rfl, by decide⟩
    · exact ⟨'f', _, rfl, by decide⟩
    · exact ⟨'N', _, rfl, by decide⟩
    · exact ⟨'I', _, rfl, by decide⟩
    · exact ⟨'-', _, rfl, by decide⟩
  | number hnumber => exact opens_of_number hnumber
  | text => exact ⟨'"', _, rfl, by decide⟩
  | emptyList => exact ⟨'[', _, rfl, by decide⟩
  | list => exact ⟨'[', _, rfl, by decide⟩
  | emptyObject => exact ⟨'{', _, rfl, by decide⟩
  | object => exact ⟨'{', _, rfl, by decide⟩

/-- Items begin as their first one does. -/
theorem opens_of_items {admits : Nat → Prop} {room : Nat} {cs : List Char} {items : List Json}
    (h : SpellsItems admits room cs items) : Opens cs := by
  cases h with
  | last hitem => exact (opens_of_spelt hitem).append _
  | more hitem => exact (opens_of_spelt hitem).append _

/-- Members begin with a quote. -/
theorem opens_of_members {admits : Nat → Prop} {room : Nat} {cs : List Char}
    {read members : Members} (h : SpellsMembers admits room read cs members) : Opens cs := by
  cases h with
  | last => exact ⟨'"', _, rfl, by decide⟩
  | more => exact ⟨'"', _, rfl, by decide⟩

variable {fuel room : Nat} {cs rest : List Char}

/-- A word is read as what it stands for. -/
theorem readValue_word {w : List Char × Json} (hw : w ∈ words) :
    readValue (fuel + 1) room (w.1 ++ rest) = .ok (w.2, rest) := by
  simp only [words, List.mem_cons, List.not_mem_nil, or_false] at hw
  rcases hw with rfl | rfl | rfl | rfl | rfl | rfl <;> rfl

/-- What begins like a number is no word. -/
theorem word_of_digit {c : Char} (hc : c ∈ digitChars) (more : List Char) :
    word? (c :: more) = none ∧ word? ('-' :: c :: more) = none := by
  simp only [digitChars, List.mem_cons, List.not_mem_nil, or_false] at hc
  rcases hc with rfl | rfl | rfl | rfl | rfl | rfl | rfl | rfl | rfl | rfl <;> exact ⟨rfl, rfl⟩

/-- What begins with a digit or a minus sign before one is read as a number. -/
theorem readValue_of_digit {c : Char} (hc : c ∈ digitChars) {more : List Char}
    (hcs : cs = c :: more ∨ cs = '-' :: c :: more) :
    readValue (fuel + 1) room (cs ++ rest) = readNumber (cs ++ rest) := by
  have hopening : digitChars.all (fun c => c != '"' && c != '{' && c != '[') = true := by decide
  have hnone := List.all_eq_true.mp hopening c hc
  simp only [Bool.and_eq_true, bne_iff_ne] at hnone
  obtain ⟨⟨hquote, hbrace⟩, hbracket⟩ := hnone
  have hword : word? (cs ++ rest) = none := by
    rcases hcs with rfl | rfl
    · exact (word_of_digit hc _).1
    · exact (word_of_digit hc _).2
  rw [readValue.eq_def]
  dsimp only
  rcases hcs with rfl | rfl
  · split
    · next heq => exact absurd (List.cons.inj heq).1 hquote
    · next heq => exact absurd (List.cons.inj heq).1 hbrace
    · next heq => exact absurd (List.cons.inj heq).1 hbracket
    · rw [hword]
  · rw [List.cons_append] at hword ⊢
    rw [hword]
    rfl

/-- What spells a number is read as a number. -/
theorem readValue_number {j : Json} (h : SpellsNumber Limited cs j) (hrest : EndsPart rest) :
    readValue (fuel + 1) room (cs ++ rest) = .ok (j, rest) := by
  obtain ⟨c, more, hc, hcs⟩ := h.exists_digit
  rw [readValue_of_digit hc hcs, readNumber_spelt h hrest]

/-- What spells the parts of a value is read with so much fuel. -/
structure Respells (fuel : Nat) : Prop where
  value : ∀ room cs j rest, Spells Limited room cs j → EndsPart rest → cs.length ≤ fuel →
    readValue fuel room (cs ++ rest) = .ok (j, rest)
  items : ∀ room cs items rest, SpellsItems Limited room cs items → cs.length ≤ fuel →
    readItems fuel room (cs ++ rest) = .ok (items, rest)
  members : ∀ room read cs members rest, SpellsMembers Limited room read cs members →
    cs.length ≤ fuel → readMembers fuel room read (cs ++ rest) = .ok (members, rest)

/-- What opens has a first character. -/
theorem Opens.length_pos (h : Opens cs) : 0 < cs.length := by
  obtain ⟨c, more, rfl, -⟩ := h
  exact Nat.succ_pos _

/-- Without fuel there are no characters. -/
theorem respells_zero : Respells 0 := by
  constructor
  · intro room cs j rest hspells _ hfuel
    exact absurd (opens_of_spelt hspells).length_pos (Nat.not_lt.mpr hfuel)
  · intro room cs items rest hspells hfuel
    exact absurd (opens_of_items hspells).length_pos (Nat.not_lt.mpr hfuel)
  · intro room read cs members rest hspells hfuel
    exact absurd (opens_of_members hspells).length_pos (Nat.not_lt.mpr hfuel)

/-- One more step reads the value whose parts are read. -/
theorem Respells.value_succ (ih : Respells fuel) {j : Json} (h : Spells Limited room cs j)
    (hrest : EndsPart rest) (hfuel : cs.length ≤ fuel + 1) :
    readValue (fuel + 1) room (cs ++ rest) = .ok (j, rest) := by
  cases h with
  | word hw => exact readValue_word hw
  | number hnumber => exact readValue_number hnumber hrest
  | text htext =>
    simp only [List.cons_append, List.append_assoc, List.nil_append, readValue,
      readText_spelt htext]
    rfl
  | emptyList hbs =>
    simp only [List.cons_append, List.append_assoc, List.nil_append, readValue,
      skipBlanks_blanks hbs]
    rfl
  | @list room bs cs items hbs hitems =>
    rw [List.length_cons, List.length_append] at hfuel
    have hread := ih.items _ cs items rest hitems (by omega)
    have hopens := (opens_of_items hitems).append rest
    simp only [List.cons_append, List.append_assoc, readValue, hopens.skipBlanks_eq hbs]
    obtain ⟨c, more, hcs, -, hclose, -⟩ := hopens
    rw [hcs] at hread ⊢
    split
    · next heq =>
      rw [List.cons.injEq] at heq
      exact absurd heq.1 hclose
    · rw [hread]
      rfl
  | emptyObject hbs =>
    simp only [List.cons_append, List.append_assoc, List.nil_append, readValue,
      skipBlanks_blanks hbs]
    rfl
  | @object room bs cs members hbs hmembers =>
    rw [List.length_cons, List.length_append] at hfuel
    have hread := ih.members _ [] cs members rest hmembers (by omega)
    have hopens := (opens_of_members hmembers).append rest
    simp only [List.cons_append, List.append_assoc, readValue, hopens.skipBlanks_eq hbs]
    obtain ⟨c, more, hcs, -, -, hclose, -⟩ := hopens
    rw [hcs] at hread ⊢
    split
    · next heq =>
      rw [List.cons.injEq] at heq
      exact absurd heq.1 hclose
    · rw [hread]
      rfl

/-- Blanks are skipped up to a mark. -/
theorem skipBlanks_mark {bs : List Char} {c : Char} (hbs : Blanks bs) (hc : isBlank c = false) :
    skipBlanks (bs ++ c :: rest) = c :: rest := by
  rw [skipBlanks_blanks hbs, skipBlanks_cons hc]

/-- One more step reads the first item, and the others behind it. -/
theorem Respells.items_succ (ih : Respells fuel) {items : List Json}
    (h : SpellsItems Limited room cs items) (hfuel : cs.length ≤ fuel + 1) :
    readItems (fuel + 1) room (cs ++ rest) = .ok (items, rest) := by
  cases h with
  | @last _ cs bs item hitem hbs =>
    simp only [List.length_append, List.length_cons] at hfuel
    have hends : EndsPart (bs ++ ']' :: rest) := endsPart_blanks hbs (endsPart_cons (by simp))
    have hclose : skipBlanks (bs ++ ']' :: rest) = ']' :: rest := skipBlanks_mark hbs rfl
    have hread := ih.value _ cs item _ hitem hends (by omega)
    simp only [List.append_assoc, List.cons_append, List.nil_append]
    rw [readItems, hread]
    simp only [bind, Except.bind, hclose]
    rfl
  | @more _ cs bs bs' cs' item items hitem hbs hbs' hitems =>
    simp only [List.length_append, List.length_cons] at hfuel
    have hends : EndsPart (bs ++ ',' :: (bs' ++ (cs' ++ rest))) :=
      endsPart_blanks hbs (endsPart_cons (by simp))
    have hcomma : skipBlanks (bs ++ ',' :: (bs' ++ (cs' ++ rest))) =
        ',' :: (bs' ++ (cs' ++ rest)) := skipBlanks_mark hbs rfl
    have hread := ih.value _ cs item _ hitem hends (by omega)
    have hmore := ih.items _ cs' items rest hitems (by omega)
    have hopens := (opens_of_items hitems).append rest
    simp only [List.append_assoc, List.cons_append]
    rw [readItems, hread]
    simp only [bind, Except.bind, hcomma, hopens.skipBlanks_eq hbs', hmore]
    rfl

/-- One more step reads the first member, and the others behind it. -/
theorem Respells.members_succ (ih : Respells fuel) {read members : Members}
    (h : SpellsMembers Limited room read cs members) (hfuel : cs.length ≤ fuel + 1) :
    readMembers (fuel + 1) room read (cs ++ rest) = .ok (members, rest) := by
  cases h with
  | @last _ _ name bs₁ bs₂ cs bs₃ text value hname hbs₁ hbs₂ hvalue hbs₃ =>
    simp only [List.length_append, List.length_cons] at hfuel
    have hends : EndsPart (bs₃ ++ '}' :: rest) := endsPart_blanks hbs₃ (endsPart_cons (by simp))
    have hread := ih.value _ cs value _ hvalue hends (by omega)
    have hopens := (opens_of_spelt hvalue).append (bs₃ ++ '}' :: rest)
    have hcolon : skipBlanks (bs₁ ++ ':' :: (bs₂ ++ (cs ++ (bs₃ ++ '}' :: rest)))) =
        ':' :: (bs₂ ++ (cs ++ (bs₃ ++ '}' :: rest))) := skipBlanks_mark hbs₁ rfl
    have hclose : skipBlanks (bs₃ ++ '}' :: rest) = '}' :: rest := skipBlanks_mark hbs₃ rfl
    simp only [List.append_assoc, List.cons_append, List.nil_append]
    rw [readMembers, readText_spelt hname]
    simp only [bind, Except.bind, hcolon, hopens.skipBlanks_eq hbs₂, hread, hclose]
    rfl
  | @more _ _ _ name bs₁ bs₂ cs bs₃ bs₄ cs' text value hname hbs₁ hbs₂ hvalue hbs₃ hbs₄ hmembers =>
    simp only [List.length_append, List.length_cons] at hfuel
    have hends : EndsPart (bs₃ ++ ',' :: (bs₄ ++ (cs' ++ rest))) :=
      endsPart_blanks hbs₃ (endsPart_cons (by simp))
    have hread := ih.value _ cs value _ hvalue hends (by omega)
    have hopens := (opens_of_spelt hvalue).append (bs₃ ++ ',' :: (bs₄ ++ (cs' ++ rest)))
    have hcolon :
        skipBlanks (bs₁ ++ ':' :: (bs₂ ++ (cs ++ (bs₃ ++ ',' :: (bs₄ ++ (cs' ++ rest)))))) =
          ':' :: (bs₂ ++ (cs ++ (bs₃ ++ ',' :: (bs₄ ++ (cs' ++ rest))))) := skipBlanks_mark hbs₁ rfl
    have hcomma : skipBlanks (bs₃ ++ ',' :: (bs₄ ++ (cs' ++ rest))) =
        ',' :: (bs₄ ++ (cs' ++ rest)) := skipBlanks_mark hbs₃ rfl
    have hmore := ih.members _ _ cs' members rest hmembers (by omega)
    have hopens' := (opens_of_members hmembers).append rest
    simp only [List.append_assoc, List.cons_append]
    rw [readMembers, readText_spelt hname]
    simp only [bind, Except.bind, hcolon, hopens.skipBlanks_eq hbs₂, hread, hcomma,
      hopens'.skipBlanks_eq hbs₄, hmore]

/-- What is spelt is read, by induction on the fuel. -/
theorem respells (fuel : Nat) : Respells fuel := by
  induction fuel with
  | zero => exact respells_zero
  | succ fuel ih =>
    constructor
    · exact fun _ _ _ _ h hrest hfuel => ih.value_succ h hrest hfuel
    · exact fun _ _ _ _ h hfuel => ih.items_succ h hfuel
    · exact fun _ _ _ _ _ h hfuel => ih.members_succ h hfuel

end Values

section Room

variable {admits : Nat → Prop} {fuel room : Nat} {e : Nested} {cs : List Char}

/-- What goes beyond the room begins with a bracket. -/
theorem opens_of_exceeds (h : Exceeds admits room e cs) : Opens cs := by
  cases h with
  | list => exact ⟨'[', _, rfl, by decide⟩
  | object => exact ⟨'{', _, rfl, by decide⟩
  | inList => exact ⟨'[', _, rfl, by decide⟩
  | inObject => exact ⟨'{', _, rfl, by decide⟩

/-- Items that go beyond the room begin like a value. -/
theorem opens_of_exceedsItems (h : ExceedsItems admits room e cs) : Opens cs := by
  cases h with
  | item hitem => exact opens_of_exceeds hitem
  | more hitem => exact (opens_of_spelt hitem).append _

/-- Members that go beyond the room begin with a quote. -/
theorem opens_of_exceedsMembers (h : ExceedsMembers admits room e cs) : Opens cs := by
  cases h with
  | member => exact ⟨'"', _, rfl, by decide⟩
  | more => exact ⟨'"', _, rfl, by decide⟩

/-- What goes beyond the room stops the readers there with so much fuel. A bracket that is not
closed takes two steps, one for the value and one for its first part. -/
structure Halts (fuel : Nat) : Prop where
  value : ∀ room e cs, Exceeds Limited room e cs → 2 * cs.length ≤ fuel + 1 →
    readValue fuel room cs = .error (.nested e)
  items : ∀ room e cs, ExceedsItems Limited room e cs → 2 * cs.length ≤ fuel →
    readItems fuel room cs = .error (.nested e)
  members : ∀ room e read cs, ExceedsMembers Limited room e cs → 2 * cs.length ≤ fuel →
    readMembers fuel room read cs = .error (.nested e)

/-- Without fuel there are no characters. -/
theorem halts_zero : Halts 0 := by
  constructor
  · intro room e cs hexceeds hfuel
    have := (opens_of_exceeds hexceeds).length_pos
    omega
  · intro room e cs hexceeds hfuel
    have := (opens_of_exceedsItems hexceeds).length_pos
    omega
  · intro room e read cs hexceeds hfuel
    have := (opens_of_exceedsMembers hexceeds).length_pos
    omega

/-- A value stops at its own opening, or where its parts do. -/
theorem Halts.value_succ (ih : Halts fuel) (h : Exceeds Limited room e cs)
    (hfuel : 2 * cs.length ≤ fuel + 2) : readValue (fuel + 1) room cs = .error (.nested e) := by
  cases h with
  | list => rfl
  | object => rfl
  | @inList room _ bs cs hbs hitems =>
    rw [List.length_cons, List.length_append] at hfuel
    have hread := ih.items room e cs hitems (by omega)
    have hopens := opens_of_exceedsItems hitems
    simp only [readValue, hopens.skipBlanks_eq hbs]
    obtain ⟨c, more, rfl, -, hclose, -⟩ := hopens
    split
    · next heq => exact absurd (List.cons.inj heq).1 hclose
    · rw [hread]
      rfl
  | @inObject room _ bs cs hbs hmembers =>
    rw [List.length_cons, List.length_append] at hfuel
    have hread := ih.members room e [] cs hmembers (by omega)
    have hopens := opens_of_exceedsMembers hmembers
    simp only [readValue, hopens.skipBlanks_eq hbs]
    obtain ⟨c, more, rfl, -, -, hclose, -⟩ := hopens
    split
    · next heq => exact absurd (List.cons.inj heq).1 hclose
    · rw [hread]
      rfl

/-- The items of a list stop at the first of them that goes beyond the room. -/
theorem Halts.items_succ (ih : Halts fuel) (h : ExceedsItems Limited room e cs)
    (hfuel : 2 * cs.length ≤ fuel + 1) : readItems (fuel + 1) room cs = .error (.nested e) := by
  cases h with
  | item hitem =>
    rw [readItems, ih.value room e cs hitem hfuel]
    rfl
  | @more _ _ cs bs bs' cs' item hitem hbs hbs' hitems =>
    simp only [List.length_append, List.length_cons] at hfuel
    have hends : EndsPart (bs ++ ',' :: (bs' ++ cs')) :=
      endsPart_blanks hbs (endsPart_cons (by simp))
    have hcomma : skipBlanks (bs ++ ',' :: (bs' ++ cs')) = ',' :: (bs' ++ cs') :=
      skipBlanks_mark hbs rfl
    have hread := (respells fuel).value room cs item _ hitem hends (by omega)
    have hmore := ih.items room e cs' hitems (by omega)
    rw [readItems, hread]
    simp only [bind, Except.bind, hcomma, (opens_of_exceedsItems hitems).skipBlanks_eq hbs', hmore]

/-- The members of an object stop at the first of them that goes beyond the room. -/
theorem Halts.members_succ (ih : Halts fuel) {read : Members}
    (h : ExceedsMembers Limited room e cs) (hfuel : 2 * cs.length ≤ fuel + 1) :
    readMembers (fuel + 1) room read cs = .error (.nested e) := by
  cases h with
  | @member _ _ name bs₁ bs₂ cs text hname hbs₁ hbs₂ hvalue =>
    simp only [List.length_append, List.length_cons] at hfuel
    have hread := ih.value room e cs hvalue (by omega)
    have hcolon : skipBlanks (bs₁ ++ ':' :: (bs₂ ++ cs)) = ':' :: (bs₂ ++ cs) :=
      skipBlanks_mark hbs₁ rfl
    rw [readMembers, readText_spelt hname]
    simp only [bind, Except.bind, hcolon, (opens_of_exceeds hvalue).skipBlanks_eq hbs₂, hread]
  | @more _ _ name bs₁ bs₂ cs bs₃ bs₄ cs' text value hname hbs₁ hbs₂ hvalue hbs₃ hbs₄ hmembers =>
    simp only [List.length_append, List.length_cons] at hfuel
    have hends : EndsPart (bs₃ ++ ',' :: (bs₄ ++ cs')) :=
      endsPart_blanks hbs₃ (endsPart_cons (by simp))
    have hread := (respells fuel).value room cs value _ hvalue hends (by omega)
    have hopens := (opens_of_spelt hvalue).append (bs₃ ++ ',' :: (bs₄ ++ cs'))
    have hcolon : skipBlanks (bs₁ ++ ':' :: (bs₂ ++ (cs ++ (bs₃ ++ ',' :: (bs₄ ++ cs'))))) =
        ':' :: (bs₂ ++ (cs ++ (bs₃ ++ ',' :: (bs₄ ++ cs')))) := skipBlanks_mark hbs₁ rfl
    have hcomma : skipBlanks (bs₃ ++ ',' :: (bs₄ ++ cs')) = ',' :: (bs₄ ++ cs') :=
      skipBlanks_mark hbs₃ rfl
    have hmore := ih.members room e (read.put ⟨text⟩ value) cs' hmembers (by omega)
    rw [readMembers, readText_spelt hname]
    simp only [bind, Except.bind, hcolon, hopens.skipBlanks_eq hbs₂, hread, hcomma,
      (opens_of_exceedsMembers hmembers).skipBlanks_eq hbs₄, hmore]

/-- What goes beyond the room stops the readers, by induction on the fuel. -/
theorem halts (fuel : Nat) : Halts fuel := by
  induction fuel with
  | zero => exact halts_zero
  | succ fuel ih =>
    constructor
    · exact fun _ _ _ h hfuel => ih.value_succ h hfuel
    · exact fun _ _ _ h hfuel => ih.items_succ h hfuel
    · exact fun _ _ _ _ h hfuel => ih.members_succ h hfuel

end Room

section Documents

variable {room : Nat} {s : String}

/-- Blanks in front of a value are left out, and the value is read with enough fuel. -/
theorem readAll_blanks {before inner : List Char} (hbefore : Blanks before) (hopens : Opens inner) :
    readAll room (before ++ inner) =
      readValue (2 * (before ++ inner).length + 1) room inner >>= fun read =>
        match skipBlanks read.2 with
        | [] => .ok read.1
        | rest => stopAt .extra rest := by
  have hmark : (before ++ inner).head? ≠ some (Char.ofNat 0xFEFF) := by
    cases before with
    | nil =>
      obtain ⟨c, more, rfl, -, -, -, hc⟩ := hopens
      exact fun h => hc (Option.some.inj h)
    | cons b before =>
      have hb := hbefore b List.mem_cons_self
      intro h
      rw [Option.some.inj h] at hb
      exact absurd hb (by decide)
  rw [readAll, if_neg hmark, hopens.skipBlanks_eq hbefore]
  rfl

/-- A text that spells a value is read as that value. -/
theorem read_of_document {j : Json} (h : Document Limited room s.toList j) :
    read room s = .ok j := by
  obtain ⟨before, inner, after, hbefore, hspells, hafter, hcs⟩ := h
  have hends : EndsPart after := by
    have hends := endsPart_blanks hafter endsPart_nil
    rwa [List.append_nil] at hends
  have hnothing : skipBlanks after = [] := by
    have hskipped : skipBlanks (after ++ []) = skipBlanks [] := skipBlanks_blanks hafter
    rwa [List.append_nil] at hskipped
  have hvalue := (respells (2 * s.toList.length + 1)).value room inner j after hspells hends (by
    have := congrArg List.length hcs
    simp only [List.length_append] at this
    omega)
  have hall : readAll room s.toList = .ok j := by
    rw [hcs] at hvalue ⊢
    rw [readAll_blanks hbefore ((opens_of_spelt hspells).append after), hvalue]
    simp only [bind, Except.bind, hnothing]
  rw [read, hall]

/-- A text that goes beyond the room stops the reader. -/
theorem read_of_tooDeep {e : Nested} (h : TooDeep Limited room e s.toList) :
    read room s = .error (.nested e) := by
  obtain ⟨before, inner, hbefore, hexceeds, hcs⟩ := h
  have hvalue := (halts (2 * s.toList.length + 1)).value room e inner hexceeds (by
    have := congrArg List.length hcs
    rw [List.length_append] at this
    omega)
  have hall : readAll room s.toList = .error (.nested e) := by
    rw [hcs] at hvalue ⊢
    rw [readAll_blanks hbefore (opens_of_exceeds hexceeds), hvalue]
    rfl
  rw [read, hall]
  rfl

/-- The reader and the grammar agree. -/
theorem read_eq_ok_iff {j : Json} : read room s = .ok j ↔ Document Limited room s.toList j :=
  ⟨document_of_read, read_of_document⟩

/-- The reader finds no room exactly where the text goes beyond it. -/
theorem read_eq_nested_iff {e : Nested} :
    read room s = .error (.nested e) ↔ TooDeep Limited room e s.toList :=
  ⟨tooDeep_of_read, read_of_tooDeep⟩

/-- A text that spells an object stops the reader if its first member is an integer of too many
digits, whatever follows. -/
theorem read_of_long_first {name whole rest : List Char} {text : List CodePoint}
    (hname : SpellsText name text) (hwhole : IsWhole whole) (hlong : ¬ Limited whole.length)
    (hrest : EndsPart rest)
    (hs : s.toList = '{' :: '"' :: (name ++ '"' :: ':' :: (whole ++ rest))) :
    read (room + 1) s = .error (.error (.numeral ⟨whole.length⟩)) := by
  obtain ⟨c, ds, hcs, hdigit⟩ := hwhole.exists_cons
  have hblank : isBlank c = false := by
    rw [← Bool.not_eq_true, isBlank_iff]
    rintro (rfl | rfl | rfl | rfl) <;> cases hdigit
  have hvalue (fuel : Nat) : readValue (fuel + 1) room (skipBlanks (whole ++ rest)) =
      .error (.numeral ⟨whole.length⟩) := by
    have hskip : skipBlanks (whole ++ rest) = whole ++ rest := by
      rw [hcs, List.cons_append, skipBlanks_cons hblank]
    rw [hskip, readValue_of_digit (mem_digitChars hdigit) (.inl hcs),
      readNumber_long hwhole hlong hrest]
  have hmembers (fuel : Nat) : readMembers (fuel + 2) room []
      ('"' :: (name ++ '"' :: ':' :: (whole ++ rest))) = .error (.numeral ⟨whole.length⟩) := by
    have hcolon : skipBlanks (':' :: (whole ++ rest)) = ':' :: (whole ++ rest) :=
      skipBlanks_cons rfl
    rw [readMembers, readText_spelt hname]
    simp only [bind, Except.bind, hcolon, hvalue]
  have hobject (fuel : Nat) : readValue (fuel + 3) (room + 1) s.toList =
      .error (.numeral ⟨whole.length⟩) := by
    rw [hs, readValue, skipBlanks_cons rfl]
    show (readMembers (fuel + 2) room [] _ >>= _) = _
    rw [hmembers]
    rfl
  obtain ⟨fuel, hfuel⟩ : ∃ fuel, 2 * s.toList.length + 1 = fuel + 3 := by
    refine ⟨2 * s.toList.length - 2, ?_⟩
    rw [hs]
    simp only [List.length_cons]
    omega
  have hall : readAll (room + 1) s.toList = .error (.numeral ⟨whole.length⟩) := by
    have hopens : Opens s.toList := ⟨'{', _, hs, by decide⟩
    have hread := @readAll_blanks (room + 1) [] s.toList (fun _ hc => by cases hc) hopens
    rw [List.nil_append, hfuel, hobject] at hread
    exact hread
  rw [read, hall]
  rfl

end Documents

end Remittance.Json

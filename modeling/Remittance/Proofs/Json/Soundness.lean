import Remittance.Proofs.Computation
import Remittance.Proofs.Json.Grammar

/-!
# What is read is spelt

Whatever the reader gives, the characters that it has taken spell it, and where it finds no room,
the characters go beyond the room. Main statements: `document_of_read` and `tooDeep_of_read`. Each
part of the reader is inverted apart: its input is what spells its result, and then what it has
left.
-/

set_option autoImplicit false

namespace Remittance.Json

/-- Blanks stand in front of what is left when they are skipped. -/
theorem exists_blanks (cs : List Char) : ∃ bs, Blanks bs ∧ cs = bs ++ skipBlanks cs :=
  ⟨cs.takeWhile isBlank, fun _ hc => List.all_eq_true.mp List.all_takeWhile _ hc,
    List.takeWhile_append_dropWhile.symm⟩

section Texts

variable {cs rest : List Char}

/-- Four digits that are read spell their number. -/
theorem spelt_of_quad {n : Nat} (h : quad? cs = some (n, rest)) :
    ∃ ds, cs = ds ++ rest ∧ Quad ds n := by
  rw [quad?.eq_def] at h
  split at h
  · next a b c d more =>
    simp only [Option.bind_eq_bind, Option.bind_eq_some_iff, Option.pure_def] at h
    obtain ⟨w, hw, x, hx, y, hy, z, hz, heq⟩ := h
    cases heq
    exact ⟨[a, b, c, d], rfl, .digits hw hx hy hz⟩
  · cases h

/-- An escape by number is one number, or two that are a surrogate pair. A first half that is left
alone has no second half behind it, unless the input ends with that. -/
theorem spelt_of_numberEscape {c : CodePoint} (h : numberEscape cs = .ok (c, rest)) :
    (∃ ds n, cs = ds ++ rest ∧ Quad ds n ∧ c = .ofNat n ∧
        (IsHigh n → BeginsLow rest → rest.length ≤ 6)) ∨
      ∃ ds high es low, cs = ds ++ '\\' :: 'u' :: (es ++ rest) ∧ Quad ds high ∧ IsHigh high ∧
        Quad es low ∧ IsLow low ∧
        c = .char (Char.ofNat (0x10000 + (high - 0xD800) * 0x400 + (low - 0xDC00))) := by
  rw [numberEscape] at h
  split at h
  · cases h
  split at h
  · cases h
  next high after hquad =>
  obtain ⟨ds, rfl, hds⟩ := spelt_of_quad hquad
  split at h
  · next hhigh =>
    obtain ⟨hfirst, hlast, -⟩ := hhigh
    split at h
    · next more =>
      split at h
      · cases h
      next low behind hlow =>
      obtain ⟨es, rfl, hes⟩ := spelt_of_quad hlow
      split at h
      · next hsecond =>
        rw [Except.ok.injEq, Prod.mk.injEq] at h
        obtain ⟨rfl, rfl⟩ := h
        exact .inr ⟨ds, high, es, low, rfl, hds, ⟨hfirst, hlast⟩, hes, hsecond, rfl⟩
      · next hother =>
        cases h
        refine .inl ⟨ds, high, rfl, hds, rfl, fun _ hbegins => ?_⟩
        obtain ⟨es', low', rest', heq, hes', hlow'⟩ := hbegins
        rw [List.cons.injEq, List.cons.injEq] at heq
        have hsame := hes.quad_append behind
        rw [heq.2.2, hes'.quad_append] at hsame
        cases hsame
        exact absurd hlow' hother
    · next hnone =>
      cases h
      refine .inl ⟨ds, high, rfl, hds, rfl, fun _ hbegins => ?_⟩
      obtain ⟨es, low, rest', rfl, -, -⟩ := hbegins
      exact absurd rfl (hnone _)
  · next hnot =>
    cases h
    refine .inl ⟨ds, high, rfl, hds, rfl, fun hhigh _ => ?_⟩
    refine Decidable.byContradiction fun hlong => hnot ⟨hhigh.1, hhigh.2, ?_⟩
    rw [List.isEmpty_eq_false_iff, Ne, List.drop_eq_nil_iff]
    exact hlong

/-- The characters up to the closing quote spell what is read behind what has been read. -/
theorem spelt_of_closeQuote {start fuel : Nat} {seen : List CodePoint} {t : Text}
    (h : closeQuote start fuel seen cs = .ok (t, rest)) :
    ∃ inner text, cs = inner ++ '"' :: rest ∧ SpellsText inner text ∧
      t = ⟨seen.reverse ++ text⟩ := by
  induction fuel generalizing seen cs with
  | zero => cases h
  | succ fuel ih =>
    have hnext (c : CodePoint) (text : List CodePoint) :
        (⟨(c :: seen).reverse ++ text⟩ : Text) = ⟨seen.reverse ++ c :: text⟩ := by
      rw [List.reverse_cons, List.append_assoc, List.singleton_append]
    rw [closeQuote.eq_def] at h
    dsimp only at h
    split at h
    · cases h
    · cases h
      exact ⟨[], [], rfl, .nil, by rw [List.append_nil]⟩
    · split at h
      · cases h
      · obtain ⟨⟨c, after⟩, hescape, hmore⟩ := bind_eq_ok_iff.mp h
        obtain ⟨inner, text, rfl, hspells, rfl⟩ := ih hmore
        rcases spelt_of_numberEscape hescape with
          ⟨ds, n, rfl, hds, rfl, halone⟩ | ⟨ds, high, es, low, rfl, hds, hhigh, hes, hlow, hc⟩
        · refine ⟨_, _, ?_, .number hds (fun hhigh hbegins => ?_) hspells, hnext _ _⟩
          · simp only [List.cons_append, List.append_assoc]
          · have := halone hhigh (hbegins.of_prefix (List.prefix_append _ _))
            have := hbegins.length_le
            simp only [List.length_append, List.length_cons] at *
            omega
        · have hpair := SpellsText.pair hds hhigh hes hlow hspells
          rw [← hc] at hpair
          refine ⟨_, _, ?_, hpair, hnext _ _⟩
          simp only [List.cons_append, List.append_assoc]
      · split at h
        · next c hletter =>
          obtain ⟨inner, text, rfl, hspells, rfl⟩ := ih h
          exact ⟨_, _, rfl, .letter _ c hletter hspells, hnext _ _⟩
        · cases h
    · next c after hquote hslash =>
      split at h
      · cases h
      next hcontrol =>
      obtain ⟨inner, text, rfl, hspells, rfl⟩ := ih h
      refine ⟨_, _, rfl, .plain c ⟨Nat.le_of_not_lt hcontrol, ?_, ?_⟩ hspells, hnext _ _⟩
      · rintro rfl
        exact hquote rfl
      · rintro rfl
        exact hslash rfl

/-- A text that is read was spelt up to its closing quote. -/
theorem spelt_of_readText {t : Text} (h : readText cs = .ok (t, rest)) :
    ∃ inner text, cs = inner ++ '"' :: rest ∧ SpellsText inner text ∧ t = ⟨text⟩ :=
  spelt_of_closeQuote h

end Texts

section Numbers

variable {cs : List Char}

/-- The digits in front are digits. -/
theorem allDigits_takeWhile (cs : List Char) : AllDigits (cs.takeWhile Char.isDigit) :=
  fun _ hc => List.all_eq_true.mp List.all_takeWhile _ hc

/-- The digits that are read first are a whole number, if there are any. -/
theorem spelt_of_wholeDigits (hne : (wholeDigits cs).1 ≠ []) :
    IsWhole (wholeDigits cs).1 ∧ cs = (wholeDigits cs).1 ++ (wholeDigits cs).2 := by
  rw [wholeDigits.eq_def] at hne ⊢
  split at hne
  · exact ⟨.inl rfl, rfl⟩
  · next hzero =>
    dsimp only at hne ⊢
    refine ⟨.inr ?_, List.takeWhile_append_dropWhile.symm⟩
    cases cs with
    | nil => exact absurd rfl hne
    | cons c more =>
      by_cases hc : c.isDigit = true
      · have hall := allDigits_takeWhile (c :: more)
        rw [List.takeWhile_cons_of_pos hc] at hall ⊢
        refine ⟨c, _, rfl, ?_, hall⟩
        rintro rfl
        exact hzero more rfl
      · rw [List.takeWhile_cons_of_neg hc] at hne
        exact absurd rfl hne

/-- What is taken as a fraction is one, or nothing. -/
theorem spelt_of_fraction (cs : List Char) :
    ∃ fraction, Fraction fraction ((fractionDigits? cs).getD ([], cs)).1 ∧
      cs = fraction ++ ((fractionDigits? cs).getD ([], cs)).2 ∧
      ((fractionDigits? cs).isSome = true → fraction ≠ []) := by
  rw [fractionDigits?.eq_def]
  split
  · next rest =>
    split
    · exact ⟨[], .none, rfl, fun h => by cases h⟩
    · next hne =>
      refine ⟨_, .digits (allDigits_takeWhile rest) (by simpa using hne), ?_,
        fun _ => List.cons_ne_nil _ _⟩
      exact congrArg ('.' :: ·) List.takeWhile_append_dropWhile.symm
  · exact ⟨[], .none, rfl, fun h => by cases h⟩

/-- What is taken as an exponent is one, or nothing. -/
theorem spelt_of_exponent (cs : List Char) :
    ∃ exponent, Exponent exponent ((exponent? cs).getD (0, cs)).1 ∧
      cs = exponent ++ ((exponent? cs).getD (0, cs)).2 ∧
      ((exponent? cs).isSome = true → exponent ≠ []) := by
  have hnone (cs : List Char) : ∃ exponent, Exponent exponent 0 ∧ cs = exponent ++ cs ∧
      (false = true → exponent ≠ []) := ⟨[], .none, rfl, fun h => by cases h⟩
  have hdigits (body : List Char) :
      body = body.takeWhile Char.isDigit ++ body.dropWhile Char.isDigit :=
    List.takeWhile_append_dropWhile.symm
  rw [exponent?.eq_def]
  split
  · next e rest =>
    split
    · next he =>
      split
      next negative body hsign =>
      dsimp only
      split
      · exact hnone _
      · next hne =>
        rw [List.isEmpty_iff] at hne
        split at hsign
        · cases hsign
          exact ⟨_, .minus he (allDigits_takeWhile body) hne,
            congrArg (e :: '-' :: ·) (hdigits body), fun _ => List.cons_ne_nil _ _⟩
        · cases hsign
          exact ⟨_, .plus he (allDigits_takeWhile body) hne,
            congrArg (e :: '+' :: ·) (hdigits body), fun _ => List.cons_ne_nil _ _⟩
        · cases hsign
          exact ⟨_, .unsigned he (allDigits_takeWhile rest) hne,
            congrArg (e :: ·) (hdigits rest), fun _ => List.cons_ne_nil _ _⟩
    · exact hnone _
  · exact hnone _

/-- A number that is read was spelt. -/
theorem spelt_of_readNumber {rest : List Char} {j : Json} (h : readNumber cs = .ok (j, rest)) :
    ∃ text, cs = text ++ rest ∧ SpellsNumber Limited text j := by
  rw [readNumber.eq_def] at h
  split at h
  next negative body hsign =>
  have hcs : cs = withSign negative body := by
    split at hsign
    · cases hsign
      rfl
    · cases hsign
      rfl
  split at h
  next whole after hwhole =>
  dsimp only at h
  split at h
  · cases h
  next hne =>
  obtain ⟨his, hbody⟩ := @spelt_of_wholeDigits body (by rw [hwhole]; simpa using hne)
  rw [hwhole] at his hbody
  obtain ⟨fraction, hfraction, hafter, hfractionSome⟩ := spelt_of_fraction after
  obtain ⟨exponent, hexponent, hbehind, hexponentSome⟩ :=
    spelt_of_exponent ((fractionDigits? after).getD ([], after)).2
  split at h
  · next hsome =>
    cases h
    refine ⟨_, ?_, .real negative his hfraction hexponent ?_⟩
    · rw [hcs, hbody, withSign_append, List.append_assoc, List.append_assoc, ← hbehind, ← hafter]
    · rw [Bool.or_eq_true] at hsome
      exact hsome.imp hfractionSome hexponentSome
  · next hnone =>
    rw [Bool.or_eq_true, not_or, Option.not_isSome_iff_eq_none, Option.not_isSome_iff_eq_none]
      at hnone
    obtain ⟨hnoFraction, hnoExponent⟩ := hnone
    cases hread : Numeral.read whole with
    | error e =>
      rw [hread] at h
      cases h
    | ok n =>
      rw [hread] at h
      cases h
      rw [Numeral.read] at hread
      split at hread
      · next hlength =>
        cases hread
        refine ⟨_, ?_, .int negative his hlength⟩
        rw [hnoExponent, hnoFraction, hcs, hbody, withSign_append]
        rfl
      · cases hread

end Numbers

section Values

variable {cs rest : List Char}

/-- A word that is found spells what it stands for. -/
theorem spelt_of_word {room : Nat} {j : Json} (h : word? cs = some (j, rest)) :
    ∃ text, cs = text ++ rest ∧ Spells Limited room text j := by
  rw [word?, Option.map_eq_some_iff] at h
  obtain ⟨w, hw, heq⟩ := h
  cases heq
  have hfront : w.1.isPrefixOf cs = true := by simpa using List.find?_some hw
  obtain ⟨after, hafter⟩ := List.isPrefixOf_iff_prefix.mp hfront
  refine ⟨w.1, ?_, .word (List.mem_of_find?_eq_some hw)⟩
  rw [← hafter, List.drop_left]

/-- What the three readers give with some fuel is spelt by the characters that they have taken. -/
structure Spelt (fuel : Nat) : Prop where
  value : ∀ room cs j rest, readValue fuel room cs = .ok (j, rest) →
    ∃ text, cs = text ++ rest ∧ Spells Limited room text j
  items : ∀ room cs items rest, readItems fuel room cs = .ok (items, rest) →
    ∃ text, cs = text ++ rest ∧ SpellsItems Limited room text items
  members : ∀ room read cs members rest, readMembers fuel room read cs = .ok (members, rest) →
    ∃ text, cs = text ++ rest ∧ SpellsMembers Limited room read text members

variable {fuel room : Nat}

/-- A value whose parts were spelt was spelt. -/
theorem Spelt.value_succ (ih : Spelt fuel) {j : Json}
    (h : readValue (fuel + 1) room cs = .ok (j, rest)) :
    ∃ text, cs = text ++ rest ∧ Spells Limited room text j := by
  rw [readValue.eq_def] at h
  dsimp only at h
  split at h
  · obtain ⟨⟨s, after⟩, htext, hend⟩ := bind_eq_ok_iff.mp h
    cases hend
    obtain ⟨inner, text, rfl, hspells, rfl⟩ := spelt_of_readText htext
    exact ⟨_, by simp, .text hspells⟩
  · next after =>
    obtain ⟨bs, hbs, hafter⟩ := exists_blanks after
    split at h
    · cases h
    next room =>
    split at h
    · next hempty =>
      cases h
      rw [hempty] at hafter
      exact ⟨_, by simp [hafter], .emptyObject hbs⟩
    · obtain ⟨⟨members, behind⟩, hmembers, hend⟩ := bind_eq_ok_iff.mp h
      cases hend
      obtain ⟨text, htext, hspells⟩ := ih.members _ _ _ _ _ hmembers
      rw [htext] at hafter
      exact ⟨_, by simp [hafter], .object hbs hspells⟩
  · next after =>
    obtain ⟨bs, hbs, hafter⟩ := exists_blanks after
    split at h
    · cases h
    next room =>
    split at h
    · next hempty =>
      cases h
      rw [hempty] at hafter
      exact ⟨_, by simp [hafter], .emptyList hbs⟩
    · obtain ⟨⟨items, behind⟩, hitems, hend⟩ := bind_eq_ok_iff.mp h
      cases hend
      obtain ⟨text, htext, hspells⟩ := ih.items _ _ _ _ hitems
      rw [htext] at hafter
      exact ⟨_, by simp [hafter], .list hbs hspells⟩
  · split at h
    · next found hword =>
      cases h
      exact spelt_of_word hword
    · obtain ⟨text, htext, hspells⟩ := spelt_of_readNumber h
      exact ⟨text, htext, .number hspells⟩

/-- Items are spelt, as the first and the others are. -/
theorem Spelt.items_succ (ih : Spelt fuel) {items : List Json}
    (h : readItems (fuel + 1) room cs = .ok (items, rest)) :
    ∃ text, cs = text ++ rest ∧ SpellsItems Limited room text items := by
  rw [readItems] at h
  obtain ⟨⟨item, after⟩, hitem, hmore⟩ := bind_eq_ok_iff.mp h
  obtain ⟨text, rfl, hspells⟩ := ih.value _ _ _ _ hitem
  obtain ⟨bs, hbs, hafter⟩ := exists_blanks after
  dsimp only at hmore
  split at hmore
  · next hend =>
    cases hmore
    rw [hend] at hafter
    exact ⟨_, by simp [hafter], .last hspells hbs⟩
  · next behind hcomma =>
    obtain ⟨⟨others, last⟩, hothers, hend⟩ := bind_eq_ok_iff.mp hmore
    cases hend
    obtain ⟨bs', hbs', hbehind⟩ := exists_blanks behind
    obtain ⟨text', htext', hspells'⟩ := ih.items _ _ _ _ hothers
    rw [htext'] at hbehind
    rw [hcomma, hbehind] at hafter
    exact ⟨_, by simp [hafter], .more hspells hbs hbs' hspells'⟩
  · cases hmore

/-- Members are spelt, as the first and the others are. -/
theorem Spelt.members_succ (ih : Spelt fuel) {read members : Members}
    (h : readMembers (fuel + 1) room read cs = .ok (members, rest)) :
    ∃ text, cs = text ++ rest ∧ SpellsMembers Limited room read text members := by
  rw [readMembers.eq_def] at h
  dsimp only at h
  split at h
  · obtain ⟨⟨name, after⟩, hname, hmore⟩ := bind_eq_ok_iff.mp h
    obtain ⟨inner, text, rfl, hspellsName, rfl⟩ := spelt_of_readText hname
    obtain ⟨bs₁, hbs₁, hafter⟩ := exists_blanks after
    dsimp only at hmore
    split at hmore
    · next behind hcolon =>
      obtain ⟨⟨value, later⟩, hvalue, hend⟩ := bind_eq_ok_iff.mp hmore
      obtain ⟨bs₂, hbs₂, hbehind⟩ := exists_blanks behind
      obtain ⟨spelling, hspelling, hspells⟩ := ih.value _ _ _ _ hvalue
      obtain ⟨bs₃, hbs₃, hlater⟩ := exists_blanks later
      rw [hspelling] at hbehind
      rw [hcolon, hbehind] at hafter
      dsimp only at hend
      split at hend
      · next hclose =>
        cases hend
        rw [hclose] at hlater
        exact ⟨_, by simp [hafter, hlater], .last hspellsName hbs₁ hbs₂ hspells hbs₃⟩
      · next last hcomma =>
        obtain ⟨bs₄, hbs₄, hlast⟩ := exists_blanks last
        obtain ⟨others, hothers, hspellsOthers⟩ := ih.members _ _ _ _ _ hend
        rw [hothers] at hlast
        rw [hcomma, hlast] at hlater
        exact ⟨_, by simp [hafter, hlater],
          .more hspellsName hbs₁ hbs₂ hspells hbs₃ hbs₄ hspellsOthers⟩
      · cases hend
    · cases hmore
  · cases h

/-- What is read was spelt, by induction on the fuel. -/
theorem spelt (fuel : Nat) : Spelt fuel := by
  induction fuel with
  | zero =>
    constructor
    · intro room cs j rest h
      cases h
    · intro room cs items rest h
      cases h
    · intro room read cs members rest h
      cases h
  | succ fuel ih =>
    constructor
    · exact fun _ _ _ _ h => ih.value_succ h
    · exact fun _ _ _ _ h => ih.items_succ h
    · exact fun _ _ _ _ _ h => ih.members_succ h

end Values

section Room

variable {cs : List Char} {e : Nested}

/-- An escape takes no room. -/
theorem numberEscape_ne_nested : numberEscape cs ≠ .error (.nested e) := by
  unfold numberEscape
  intro h
  split at h
  · cases h
  split at h
  · cases h
  split at h
  · split at h
    · split at h
      · cases h
      · split at h <;> cases h
    · cases h
  · cases h

/-- A text takes no room. -/
theorem closeQuote_ne_nested {start fuel : Nat} {seen : List CodePoint} :
    closeQuote start fuel seen cs ≠ .error (.nested e) := by
  induction fuel generalizing seen cs with
  | zero => nofun
  | succ fuel ih =>
    intro h
    rw [closeQuote.eq_def] at h
    dsimp only at h
    split at h
    · cases h
    · cases h
    · split at h
      · cases h
      · rcases bind_eq_error_iff.mp h with hescape | ⟨r, -, hmore⟩
        · exact numberEscape_ne_nested hescape
        · exact ih hmore
      · split at h
        · exact ih h
        · cases h
    · split at h
      · cases h
      · exact ih h

/-- A number takes no room. -/
theorem readNumber_ne_nested : readNumber cs ≠ .error (.nested e) := by
  intro h
  rw [readNumber.eq_def] at h
  split at h
  split at h
  dsimp only at h
  split at h
  · cases h
  · split at h
    · cases h
    · split at h <;> cases h

/-- Where the three readers find no room with some fuel, the characters go beyond the room. -/
structure Beyond (fuel : Nat) : Prop where
  value : ∀ room e cs, readValue fuel room cs = .error (.nested e) → Exceeds Limited room e cs
  items : ∀ room e cs, readItems fuel room cs = .error (.nested e) → ExceedsItems Limited room e cs
  members : ∀ room e read cs, readMembers fuel room read cs = .error (.nested e) →
    ExceedsMembers Limited room e cs

variable {fuel room : Nat}

/-- A value finds no room at its own opening, or at one inside it. -/
theorem Beyond.value_succ (ih : Beyond fuel)
    (h : readValue (fuel + 1) room cs = .error (.nested e)) : Exceeds Limited room e cs := by
  rw [readValue.eq_def] at h
  dsimp only at h
  split at h
  · rcases bind_eq_error_iff.mp h with htext | ⟨r, -, hend⟩
    · exact absurd htext closeQuote_ne_nested
    · cases hend
  · next after =>
    obtain ⟨bs, hbs, hafter⟩ := exists_blanks after
    split at h
    · cases h
      exact .object
    next room =>
    split at h
    · cases h
    · rcases bind_eq_error_iff.mp h with hmembers | ⟨r, -, hend⟩
      · rw [hafter]
        exact .inObject hbs (ih.members _ _ _ _ hmembers)
      · cases hend
  · next after =>
    obtain ⟨bs, hbs, hafter⟩ := exists_blanks after
    split at h
    · cases h
      exact .list
    next room =>
    split at h
    · cases h
    · rcases bind_eq_error_iff.mp h with hitems | ⟨r, -, hend⟩
      · rw [hafter]
        exact .inList hbs (ih.items _ _ _ hitems)
      · cases hend
  · split at h
    · cases h
    · exact absurd h readNumber_ne_nested

/-- The items of a list find no room at the first of them, or at a later one. -/
theorem Beyond.items_succ (ih : Beyond fuel)
    (h : readItems (fuel + 1) room cs = .error (.nested e)) : ExceedsItems Limited room e cs := by
  rw [readItems] at h
  rcases bind_eq_error_iff.mp h with hitem | ⟨⟨item, after⟩, hitem, hmore⟩
  · exact .item (ih.value _ _ _ hitem)
  obtain ⟨text, rfl, hspells⟩ := (spelt fuel).value _ _ _ _ hitem
  obtain ⟨bs, hbs, hafter⟩ := exists_blanks after
  dsimp only at hmore
  split at hmore
  · cases hmore
  · next behind hcomma =>
    rcases bind_eq_error_iff.mp hmore with hothers | ⟨r, -, hend⟩
    · obtain ⟨bs', hbs', hbehind⟩ := exists_blanks behind
      rw [hafter, hcomma, hbehind]
      exact .more hspells hbs hbs' (ih.items _ _ _ hothers)
    · cases hend
  · cases hmore

/-- The members of an object find no room at the first of them, or at a later one. -/
theorem Beyond.members_succ (ih : Beyond fuel) {read : Members}
    (h : readMembers (fuel + 1) room read cs = .error (.nested e)) :
    ExceedsMembers Limited room e cs := by
  rw [readMembers.eq_def] at h
  dsimp only at h
  split at h
  · rcases bind_eq_error_iff.mp h with hname | ⟨⟨name, after⟩, hname, hmore⟩
    · exact absurd hname closeQuote_ne_nested
    obtain ⟨inner, text, rfl, hspellsName, rfl⟩ := spelt_of_readText hname
    obtain ⟨bs₁, hbs₁, hafter⟩ := exists_blanks after
    dsimp only at hmore
    split at hmore
    · next behind hcolon =>
      obtain ⟨bs₂, hbs₂, hbehind⟩ := exists_blanks behind
      rcases bind_eq_error_iff.mp hmore with hvalue | ⟨⟨value, later⟩, hvalue, hend⟩
      · rw [hafter, hcolon, hbehind]
        exact .member hspellsName hbs₁ hbs₂ (ih.value _ _ _ hvalue)
      obtain ⟨spelling, hspelling, hspells⟩ := (spelt fuel).value _ _ _ _ hvalue
      obtain ⟨bs₃, hbs₃, hlater⟩ := exists_blanks later
      dsimp only at hend
      split at hend
      · cases hend
      · next last hcomma =>
        obtain ⟨bs₄, hbs₄, hlast⟩ := exists_blanks last
        rw [hafter, hcolon, hbehind, hspelling, hlater, hcomma, hlast]
        exact .more hspellsName hbs₁ hbs₂ hspells hbs₃ hbs₄ (ih.members _ _ _ _ hend)
      · cases hend
    · cases hmore
  · cases h

/-- Where the readers find no room, the characters go beyond it, by induction on the fuel. -/
theorem beyond (fuel : Nat) : Beyond fuel := by
  induction fuel with
  | zero => exact ⟨nofun, nofun, nofun⟩
  | succ fuel ih =>
    constructor
    · exact fun _ _ _ h => ih.value_succ h
    · exact fun _ _ _ h => ih.items_succ h
    · exact fun _ _ _ _ h => ih.members_succ h

end Room

variable {room : Nat} {s : String}

/-- A text that is read spells the value that is read of it. -/
theorem document_of_read {j : Json} (h : read room s = .ok j) :
    Document Limited room s.toList j := by
  rw [read] at h
  split at h
  · next value hall =>
    cases h
    rw [readAll] at hall
    split at hall
    · cases hall
    obtain ⟨⟨value, rest⟩, hvalue, hend⟩ := bind_eq_ok_iff.mp hall
    obtain ⟨before, hbefore, hcs⟩ := exists_blanks s.toList
    obtain ⟨text, htext, hspells⟩ := (spelt _).value _ _ _ _ hvalue
    obtain ⟨after, hafter, hrest⟩ := exists_blanks rest
    dsimp only at hend
    split at hend
    · next hnothing =>
      cases hend
      rw [hnothing, List.append_nil] at hrest
      exact ⟨before, text, after, hbefore, hspells, hafter, by rw [hcs, htext, hrest]⟩
    · cases hend
  · cases h

/-- A text for which there is no room goes beyond it. -/
theorem tooDeep_of_read {e : Nested} (h : read room s = .error (.nested e)) :
    TooDeep Limited room e s.toList := by
  have hall : readAll room s.toList = .error (.nested e) := by
    rw [read] at h
    split at h
    · cases h
    · next stop hall =>
      cases stop <;> cases h
      exact hall
  rw [readAll] at hall
  split at hall
  · cases hall
  obtain ⟨before, hbefore, hcs⟩ := exists_blanks s.toList
  rcases bind_eq_error_iff.mp hall with hvalue | ⟨⟨value, rest⟩, -, hend⟩
  · exact ⟨before, _, hbefore, (beyond _).value _ _ _ hvalue, hcs⟩
  · dsimp only at hend
    split at hend <;> cases hend

end Remittance.Json

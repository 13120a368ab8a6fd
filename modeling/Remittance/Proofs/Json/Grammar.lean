import Remittance.Json.Reader

/-!
# How values are spelt

The notation as a grammar, apart from any reader: which characters spell which value. Every rule
says what one part of a text may look like. The notation leaves the digits of an integer unlimited,
and how deep lists and objects are nested. A reader may not, so the rules take what an integer's
number of digits must satisfy, and for how many levels there is room. Which texts go beyond that
room is said apart from any reader too.
-/

set_option autoImplicit false

namespace Remittance.Json

/-- Characters that may stand between the parts of a text. -/
def Blanks (bs : List Char) : Prop := ∀ c ∈ bs, isBlank c = true

/-- No more digits than a numeral may have. -/
def Limited (n : Nat) : Prop := n ≤ Numeral.maxDigits

/-- A number is the first half of a surrogate pair. -/
def IsHigh (n : Nat) : Prop := 0xD800 ≤ n ∧ n ≤ 0xDBFF

/-- A number is the second half of a surrogate pair. -/
def IsLow (n : Nat) : Prop := 0xDC00 ≤ n ∧ n ≤ 0xDFFF

/-- Four characters are the hexadecimal digits of a number. -/
inductive Quad : List Char → Nat → Prop where
  | digits {a b c d : Char} {w x y z : Nat} (ha : Octets.hexValue? a = some w)
      (hb : Octets.hexValue? b = some x) (hc : Octets.hexValue? c = some y)
      (hd : Octets.hexValue? d = some z) : Quad [a, b, c, d] (((w * 16 + x) * 16 + y) * 16 + z)

/-- Characters begin with the escape of the second half of a surrogate pair. -/
def BeginsLow (cs : List Char) : Prop :=
  ∃ ds n rest, cs = '\\' :: 'u' :: (ds ++ rest) ∧ Quad ds n ∧ IsLow n

/-- The characters between two quotes spell the code points of a text. The escapes of a surrogate
pair spell one character; half of a pair stands for itself. -/
inductive SpellsText : List Char → List CodePoint → Prop where
  | nil : SpellsText [] []
  | plain (c : Char) {cs : List Char} {text : List CodePoint}
      (hplain : 0x20 ≤ c.toNat ∧ c ≠ '"' ∧ c ≠ '\\') (hmore : SpellsText cs text) :
      SpellsText (c :: cs) (.char c :: text)
  | letter (e c : Char) {cs : List Char} {text : List CodePoint}
      (hletter : letterEscape? e = some c)
      (hmore : SpellsText cs text) : SpellsText ('\\' :: e :: cs) (.char c :: text)
  | number {ds cs : List Char} {text : List CodePoint} {n : Nat} (hquad : Quad ds n)
      (halone : IsHigh n → ¬ BeginsLow cs) (hmore : SpellsText cs text) :
      SpellsText ('\\' :: 'u' :: (ds ++ cs)) (.ofNat n :: text)
  | pair {ds es cs : List Char} {text : List CodePoint} {high low : Nat} (hhigh : Quad ds high)
      (hfirst : IsHigh high) (hlow : Quad es low) (hsecond : IsLow low)
      (hmore : SpellsText cs text) :
      SpellsText ('\\' :: 'u' :: (ds ++ '\\' :: 'u' :: (es ++ cs)))
        (.char (Char.ofNat (0x10000 + (high - 0xD800) * 0x400 + (low - 0xDC00))) :: text)

/-- Digits only. -/
def AllDigits (ds : List Char) : Prop := ∀ c ∈ ds, c.isDigit = true

/-- The digits of a whole number in the notation: a zero stands alone. -/
def IsWhole (whole : List Char) : Prop :=
  whole = ['0'] ∨ ∃ c ds, whole = c :: ds ∧ c ≠ '0' ∧ AllDigits whole

/-- A number with a minus sign in front if it is negative. -/
def withSign (negative : Bool) (cs : List Char) : List Char := if negative then '-' :: cs else cs

/-- The fraction of a number, and its digits. -/
inductive Fraction : List Char → List Char → Prop where
  | none : Fraction [] []
  | digits {part : List Char} (hdigits : AllDigits part) (hne : part ≠ []) :
      Fraction ('.' :: part) part

/-- The exponent of a number, and its value. -/
inductive Exponent : List Char → Int → Prop where
  | none : Exponent [] 0
  | unsigned {e : Char} {ds : List Char} (he : e = 'e' ∨ e = 'E') (hdigits : AllDigits ds)
      (hne : ds ≠ []) : Exponent (e :: ds) (Numeral.value ds)
  | plus {e : Char} {ds : List Char} (he : e = 'e' ∨ e = 'E') (hdigits : AllDigits ds)
      (hne : ds ≠ []) : Exponent (e :: '+' :: ds) (Numeral.value ds)
  | minus {e : Char} {ds : List Char} (he : e = 'e' ∨ e = 'E') (hdigits : AllDigits ds)
      (hne : ds ≠ []) : Exponent (e :: '-' :: ds) (-(Numeral.value ds : Int))

/-- Characters spell a number: an integer, or with a fraction or an exponent a floating-point
number. -/
inductive SpellsNumber (admits : Nat → Prop) : List Char → Json → Prop where
  | int (negative : Bool) {whole : List Char} (hwhole : IsWhole whole)
      (hadmits : admits whole.length) :
      SpellsNumber admits (withSign negative whole)
        (.int (if negative then -(Numeral.value whole : Int) else Numeral.value whole))
  | real (negative : Bool) {whole fraction part exponent : List Char} {power : Int}
      (hwhole : IsWhole whole) (hfraction : Fraction fraction part)
      (hexponent : Exponent exponent power) (hsome : fraction ≠ [] ∨ exponent ≠ []) :
      SpellsNumber admits (withSign negative whole ++ (fraction ++ exponent))
        (.real (.ofDecimal negative (Numeral.value (whole ++ part)) (whole ++ part).length
          (power - part.length)))

mutual

/-- Characters spell a value, and nothing stands around it. Lists and objects are nested in it no
more than `room` levels deep. -/
inductive Spells (admits : Nat → Prop) : (room : Nat) → List Char → Json → Prop where
  | word {room : Nat} {w : List Char × Json} (hw : w ∈ words) : Spells admits room w.1 w.2
  | number {room : Nat} {cs : List Char} {value : Json} (hnumber : SpellsNumber admits cs value) :
      Spells admits room cs value
  | text {room : Nat} {cs : List Char} {text : List CodePoint} (htext : SpellsText cs text) :
      Spells admits room ('"' :: (cs ++ ['"'])) (.text ⟨text⟩)
  | emptyList {room : Nat} {bs : List Char} (hbs : Blanks bs) :
      Spells admits (room + 1) ('[' :: (bs ++ [']'])) (.list [])
  | list {room : Nat} {bs cs : List Char} {items : List Json} (hbs : Blanks bs)
      (hitems : SpellsItems admits room cs items) :
      Spells admits (room + 1) ('[' :: (bs ++ cs)) (.list items)
  | emptyObject {room : Nat} {bs : List Char} (hbs : Blanks bs) :
      Spells admits (room + 1) ('{' :: (bs ++ ['}'])) (.object [])
  | object {room : Nat} {bs cs : List Char} {members : Members} (hbs : Blanks bs)
      (hmembers : SpellsMembers admits room [] cs members) :
      Spells admits (room + 1) ('{' :: (bs ++ cs)) (.object members)

/-- Characters spell the items of a list, and the bracket that closes it. -/
inductive SpellsItems (admits : Nat → Prop) : (room : Nat) → List Char → List Json → Prop where
  | last {room : Nat} {cs bs : List Char} {item : Json} (hitem : Spells admits room cs item)
      (hbs : Blanks bs) : SpellsItems admits room (cs ++ (bs ++ [']'])) [item]
  | more {room : Nat} {cs bs bs' cs' : List Char} {item : Json} {items : List Json}
      (hitem : Spells admits room cs item) (hbs : Blanks bs) (hbs' : Blanks bs')
      (hitems : SpellsItems admits room cs' items) :
      SpellsItems admits room (cs ++ (bs ++ ',' :: (bs' ++ cs'))) (item :: items)

/-- Characters spell the members of an object after those that it has already, and the brace that
closes it. Of members with one name the last counts. -/
inductive SpellsMembers (admits : Nat → Prop) :
    (room : Nat) → Members → List Char → Members → Prop where
  | last {room : Nat} {members : Members} {name bs₁ bs₂ cs bs₃ : List Char} {text : List CodePoint}
      {value : Json} (hname : SpellsText name text) (hbs₁ : Blanks bs₁) (hbs₂ : Blanks bs₂)
      (hvalue : Spells admits room cs value) (hbs₃ : Blanks bs₃) :
      SpellsMembers admits room members
        ('"' :: (name ++ '"' :: (bs₁ ++ ':' :: (bs₂ ++ (cs ++ (bs₃ ++ ['}']))))))
        (members.put ⟨text⟩ value)
  | more {room : Nat} {members all : Members} {name bs₁ bs₂ cs bs₃ bs₄ cs' : List Char}
      {text : List CodePoint} {value : Json} (hname : SpellsText name text) (hbs₁ : Blanks bs₁)
      (hbs₂ : Blanks bs₂) (hvalue : Spells admits room cs value) (hbs₃ : Blanks bs₃)
      (hbs₄ : Blanks bs₄)
      (hmembers : SpellsMembers admits room (members.put ⟨text⟩ value) cs' all) :
      SpellsMembers admits room members
        ('"' :: (name ++ '"' :: (bs₁ ++ ':' :: (bs₂ ++ (cs ++ (bs₃ ++ ',' :: (bs₄ ++ cs')))))))
        all

end

/-- A text spells a value in so much room, perhaps with blanks around it. -/
def Document (admits : Nat → Prop) (room : Nat) (cs : List Char) (value : Json) : Prop :=
  ∃ before inner after, Blanks before ∧ Spells admits room inner value ∧ Blanks after ∧
    cs = before ++ (inner ++ after)

/-- A text spells a value, however many digits its integers have and however deep it is nested. -/
def Notation (cs : List Char) (value : Json) : Prop :=
  ∃ room, Document (fun _ => True) room cs value

mutual

/-- Characters begin like a value, up to a list or an object for which there is no room. -/
inductive Exceeds (admits : Nat → Prop) : (room : Nat) → Nested → List Char → Prop where
  | list {cs : List Char} : Exceeds admits 0 .list ('[' :: cs)
  | object {cs : List Char} : Exceeds admits 0 .object ('{' :: cs)
  | inList {room : Nat} {e : Nested} {bs cs : List Char} (hbs : Blanks bs)
      (hitems : ExceedsItems admits room e cs) : Exceeds admits (room + 1) e ('[' :: (bs ++ cs))
  | inObject {room : Nat} {e : Nested} {bs cs : List Char} (hbs : Blanks bs)
      (hmembers : ExceedsMembers admits room e cs) : Exceeds admits (room + 1) e ('{' :: (bs ++ cs))

/-- Characters begin like the items of a list, up to such a place. -/
inductive ExceedsItems (admits : Nat → Prop) : (room : Nat) → Nested → List Char → Prop where
  | item {room : Nat} {e : Nested} {cs : List Char} (hitem : Exceeds admits room e cs) :
      ExceedsItems admits room e cs
  | more {room : Nat} {e : Nested} {cs bs bs' cs' : List Char} {item : Json}
      (hitem : Spells admits room cs item) (hbs : Blanks bs) (hbs' : Blanks bs')
      (hitems : ExceedsItems admits room e cs') :
      ExceedsItems admits room e (cs ++ (bs ++ ',' :: (bs' ++ cs')))

/-- Characters begin like the members of an object, up to such a place. -/
inductive ExceedsMembers (admits : Nat → Prop) : (room : Nat) → Nested → List Char → Prop where
  | member {room : Nat} {e : Nested} {name bs₁ bs₂ cs : List Char} {text : List CodePoint}
      (hname : SpellsText name text) (hbs₁ : Blanks bs₁) (hbs₂ : Blanks bs₂)
      (hvalue : Exceeds admits room e cs) :
      ExceedsMembers admits room e ('"' :: (name ++ '"' :: (bs₁ ++ ':' :: (bs₂ ++ cs))))
  | more {room : Nat} {e : Nested} {name bs₁ bs₂ cs bs₃ bs₄ cs' : List Char} {text : List CodePoint}
      {value : Json} (hname : SpellsText name text) (hbs₁ : Blanks bs₁) (hbs₂ : Blanks bs₂)
      (hvalue : Spells admits room cs value) (hbs₃ : Blanks bs₃) (hbs₄ : Blanks bs₄)
      (hmembers : ExceedsMembers admits room e cs') :
      ExceedsMembers admits room e
        ('"' :: (name ++ '"' :: (bs₁ ++ ':' :: (bs₂ ++ (cs ++ (bs₃ ++ ',' :: (bs₄ ++ cs')))))))

end

/-- A text goes beyond the room: blanks, and then the beginning of a value up to a list or an object
for which there is no room. What follows there may be anything. -/
def TooDeep (admits : Nat → Prop) (room : Nat) (e : Nested) (cs : List Char) : Prop :=
  ∃ before inner, Blanks before ∧ Exceeds admits room e inner ∧ cs = before ++ inner

section Numbers

variable {ds : List Char}

/-- A whole number consists of digits. -/
theorem IsWhole.allDigits (h : IsWhole ds) : AllDigits ds := by
  rcases h with rfl | ⟨c, cs, -, -, hds⟩
  · intro c hc
    rw [List.mem_singleton.mp hc]
    rfl
  · exact hds

/-- A whole number has digits. -/
theorem IsWhole.ne_nil (h : IsWhole ds) : ds ≠ [] := by
  rcases h with rfl | ⟨c, cs, rfl, -, -⟩
  · exact List.cons_ne_nil _ _
  · exact List.cons_ne_nil _ _

/-- The first character of a whole number is a digit. -/
theorem IsWhole.exists_cons (h : IsWhole ds) : ∃ c cs, ds = c :: cs ∧ c.isDigit = true := by
  cases ds with
  | nil => exact absurd rfl h.ne_nil
  | cons c cs => exact ⟨c, cs, rfl, h.allDigits c List.mem_cons_self⟩

/-- Digits after digits are digits. -/
theorem AllDigits.append {ds es : List Char} (hds : AllDigits ds) (hes : AllDigits es) :
    AllDigits (ds ++ es) := by
  intro d hd
  rcases List.mem_append.mp hd with h | h
  · exact hds d h
  · exact hes d h

/-- A sign stands in front of all that follows. -/
theorem withSign_append (negative : Bool) (cs ds : List Char) :
    withSign negative (cs ++ ds) = withSign negative cs ++ ds := by
  cases negative <;> rfl

end Numbers

section Texts

variable {ds cs : List Char} {n : Nat}

/-- The digits of an escape are read in front of anything. -/
theorem Quad.quad_append (h : Quad ds n) (rest : List Char) :
    quad? (ds ++ rest) = some (n, rest) := by
  cases h with
  | digits hw hx hy hz =>
    simp only [List.cons_append, List.nil_append, quad?, hw, hx, hy, hz, Option.bind_eq_bind,
      Option.bind_some, Option.pure_def]

/-- The digits of an escape are four. -/
theorem Quad.length_eq (h : Quad ds n) : ds.length = 4 := by
  cases h
  rfl

/-- What begins with the escape of a second half does so whatever follows. -/
theorem BeginsLow.of_prefix {more : List Char} (h : BeginsLow cs) (hfront : cs <+: more) :
    BeginsLow more := by
  obtain ⟨es, low, rest, rfl, hquad, hlow⟩ := h
  obtain ⟨after, rfl⟩ := hfront
  exact ⟨es, low, rest ++ after, by simp only [List.cons_append, List.append_assoc], hquad, hlow⟩

/-- An escape of a second half takes six characters. -/
theorem BeginsLow.length_le (h : BeginsLow cs) : 6 ≤ cs.length := by
  obtain ⟨es, low, rest, rfl, hquad, -⟩ := h
  have := hquad.length_eq
  simp only [List.length_cons, List.length_append]
  omega

end Texts

section Mono

variable {admits admits' : Nat → Prop}

/-- Where more digits are admitted, a number stays spelt. -/
theorem SpellsNumber.mono (hle : ∀ n, admits n → admits' n) {cs : List Char} {j : Json}
    (h : SpellsNumber admits cs j) : SpellsNumber admits' cs j := by
  cases h with
  | int negative hwhole hadmits => exact .int negative hwhole (hle _ hadmits)
  | real negative hwhole hfraction hexponent hsome =>
    exact .real negative hwhole hfraction hexponent hsome

variable {room room' : Nat}

mutual

/-- Where more is admitted, what is spelt stays so. -/
theorem Spells.mono (hle : ∀ n, admits n → admits' n) {room room' : Nat} (hroom : room ≤ room')
    {cs : List Char} {j : Json} (h : Spells admits room cs j) : Spells admits' room' cs j := by
  match h with
  | .word hw => exact .word hw
  | .number hnumber => exact .number (hnumber.mono hle)
  | .text htext => exact .text htext
  | .emptyList hbs =>
    obtain ⟨room', rfl⟩ := Nat.exists_eq_add_one_of_ne_zero (by omega : room' ≠ 0)
    exact .emptyList hbs
  | .list hbs hitems =>
    obtain ⟨room', rfl⟩ := Nat.exists_eq_add_one_of_ne_zero (by omega : room' ≠ 0)
    exact .list hbs (hitems.mono hle (Nat.le_of_succ_le_succ hroom))
  | .emptyObject hbs =>
    obtain ⟨room', rfl⟩ := Nat.exists_eq_add_one_of_ne_zero (by omega : room' ≠ 0)
    exact .emptyObject hbs
  | .object hbs hmembers =>
    obtain ⟨room', rfl⟩ := Nat.exists_eq_add_one_of_ne_zero (by omega : room' ≠ 0)
    exact .object hbs (hmembers.mono hle (Nat.le_of_succ_le_succ hroom))

/-- Where more is admitted, the items of a list stay so. -/
theorem SpellsItems.mono (hle : ∀ n, admits n → admits' n) {room room' : Nat} (hroom : room ≤ room')
    {cs : List Char} {items : List Json} :
    SpellsItems admits room cs items → SpellsItems admits' room' cs items
  | .last hitem hbs => .last (hitem.mono hle hroom) hbs
  | .more hitem hbs hbs' hitems =>
    .more (hitem.mono hle hroom) hbs hbs' (hitems.mono hle hroom)

/-- Where more is admitted, the members of an object stay so. -/
theorem SpellsMembers.mono (hle : ∀ n, admits n → admits' n) {room room' : Nat}
    (hroom : room ≤ room') {cs : List Char} {read members : Members} :
    SpellsMembers admits room read cs members → SpellsMembers admits' room' read cs members
  | .last hname hbs₁ hbs₂ hvalue hbs₃ => .last hname hbs₁ hbs₂ (hvalue.mono hle hroom) hbs₃
  | .more hname hbs₁ hbs₂ hvalue hbs₃ hbs₄ hmembers =>
    .more hname hbs₁ hbs₂ (hvalue.mono hle hroom) hbs₃ hbs₄ (hmembers.mono hle hroom)

end

/-- Where more is admitted, what is spelt stays so. -/
theorem Document.mono (hle : ∀ n, admits n → admits' n) (hroom : room ≤ room') {cs : List Char}
    {j : Json} (h : Document admits room cs j) : Document admits' room' cs j := by
  obtain ⟨before, inner, after, hbefore, hspells, hafter, hcs⟩ := h
  exact ⟨before, inner, after, hbefore, hspells.mono hle hroom, hafter, hcs⟩

/-- What is spelt within limits is spelt without them. -/
theorem Document.toNotation {cs : List Char} {j : Json} (h : Document admits room cs j) :
    Notation cs j :=
  ⟨room, h.mono (fun _ _ => trivial) (Nat.le_refl room)⟩

end Mono

end Remittance.Json

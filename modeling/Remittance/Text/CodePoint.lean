import Remittance.Text.Octets

/-!
# Texts from outside

A text from outside is a run of code points. Most of them are characters, but half of a surrogate
pair can stand there without the other half. It is no character and has no octets in UTF-8; a text
that holds one is torn, and is refused wherever octets have to be made of it.
-/

set_option autoImplicit false

namespace Remittance

/-- A code point: a character, or half of a surrogate pair, known by its place among the halves. -/
inductive CodePoint where
  | char (c : Char)
  | half (place : Fin 0x800)
deriving DecidableEq

namespace CodePoint

instance : Coe Char CodePoint := ⟨char⟩

/-- The number of a code point. -/
def toNat : CodePoint → Nat
  | .char c => c.toNat
  | .half place => 0xD800 + place

/-- The code point with a number below 0x110000. -/
def ofNat (n : Nat) : CodePoint :=
  if h : 0xD800 ≤ n ∧ n ≤ 0xDFFF then .half ⟨n - 0xD800, by omega⟩ else .char (Char.ofNat n)

/-- The character that a code point is. -/
def char? : CodePoint → Option Char
  | .char c => some c
  | .half _ => none

end CodePoint

/-- A text from outside. -/
structure Text where
  codes : List CodePoint
deriving DecidableEq

namespace Text

/-- The text of characters. -/
def ofChars (cs : List Char) : Text := ⟨cs.map .char⟩

/-- A text of characters alone, as a text from outside. -/
@[coe] def ofString (s : String) : Text := ofChars s.toList

instance : Coe String Text := ⟨ofString⟩

instance : Append Text := ⟨fun s t => ⟨s.codes ++ t.codes⟩⟩

/-- Whether a text has no code points. -/
def isEmpty (t : Text) : Bool := t.codes.isEmpty

/-- The characters of a text, its halves of pairs being passed over. -/
def known (t : Text) : String := String.ofList (t.codes.filterMap CodePoint.char?)

/-- Where a text is torn: the first half of a pair in it, its position, and how many stand there in
a row. -/
structure Torn where
  first : Fin 0x800
  position : Nat
  width : Nat
deriving DecidableEq

/-- The number of halves of pairs at the beginning of a run of code points. -/
def halves : List CodePoint → Nat
  | .half _ :: rest => halves rest + 1
  | _ => 0

/-- The place where a run of code points is torn first, `position` being that of the first one. -/
def tornAt (position : Nat) : List CodePoint → Option Torn
  | [] => none
  | .char _ :: rest => tornAt (position + 1) rest
  | .half place :: rest => some ⟨place, position, halves rest + 1⟩

/-- The characters of a text that is not torn, or where it is torn. -/
def string (t : Text) : Except Torn String :=
  match tornAt 0 t.codes with
  | some e => .error e
  | none => .ok t.known

/-- The characters of a text that is not torn. -/
def string? (t : Text) : Option String := t.string.toOption

/-- The octets of a text in UTF-8, or where it is torn. -/
def octets (t : Text) : Except Torn Octets := t.string.map Octets.ofText

/-- A text that is joined of two has the code points of both. -/
@[simp] theorem codes_append (s t : Text) : (s ++ t).codes = s.codes ++ t.codes := rfl

/-- A string has its characters for code points. -/
@[simp] theorem codes_ofString (s : String) : (s : Text).codes = s.toList.map .char := rfl

/-- Characters are their own code points. -/
theorem filterMap_char? (cs : List Char) : (cs.map .char).filterMap CodePoint.char? = cs := by
  induction cs with
  | nil => rfl
  | cons c rest ih => simp only [List.map_cons, List.filterMap_cons, CodePoint.char?, ih]

/-- A run of characters is not torn. -/
theorem tornAt_map_char (position : Nat) (cs : List Char) :
    tornAt position (cs.map .char) = none := by
  induction cs generalizing position with
  | nil => rfl
  | cons c rest ih => exact ih (position + 1)

/-- A run of code points that is not torn is one of characters. -/
theorem map_char_of_tornAt {position : Nat} {codes : List CodePoint}
    (hwhole : tornAt position codes = none) :
    (codes.filterMap CodePoint.char?).map .char = codes := by
  induction codes generalizing position with
  | nil => rfl
  | cons code rest ih =>
    cases code with
    | char c =>
      simp only [List.filterMap_cons, CodePoint.char?, List.map_cons]
      rw [ih hwhole]
    | half place => cases hwhole

/-- A string is known throughout. -/
@[simp] theorem known_ofString (s : String) : (s : Text).known = s := by
  rw [known, codes_ofString, filterMap_char?, String.ofList_toList]

/-- A string is read back from its text. -/
@[simp] theorem string_ofString (s : String) : (s : Text).string = .ok s := by
  rw [string, codes_ofString, tornAt_map_char]
  exact congrArg Except.ok (known_ofString s)

/-- A string is read back from its text, without a reason for failure. -/
@[simp] theorem string?_ofString (s : String) : (s : Text).string? = some s := by
  rw [string?, string_ofString]
  rfl

/-- A text has the characters `s`, and no code points besides, exactly if it is the text of `s`. -/
theorem string_eq_ok_iff {t : Text} {s : String} : t.string = .ok s ↔ t = s := by
  constructor
  · intro hread
    unfold string at hread
    split at hread
    · cases hread
    · rename_i hwhole
      cases hread
      cases t with
      | mk codes =>
        rw [ofString, ofChars, known, String.toList_ofList, map_char_of_tornAt hwhole]
  · rintro rfl
    exact string_ofString s

/-- The texts that are strings. -/
theorem string?_eq_some_iff {t : Text} {s : String} : t.string? = some s ↔ t = s := by
  rw [← string_eq_ok_iff, string?]
  cases t.string with
  | ok s' => simp [Except.toOption]
  | error e => simp [Except.toOption]

/-- A text is one of characters alone. -/
def Whole (t : Text) : Prop := ∃ s : String, t = s

/-- The text of characters is whole. -/
theorem whole_ofString (s : String) : Whole s := ⟨s, rfl⟩

/-- A whole text is that of its characters. -/
theorem Whole.eq_known {t : Text} (h : t.Whole) : t = t.known := by
  obtain ⟨s, rfl⟩ := h
  rw [known_ofString]

/-- A text is whole exactly if no half of a pair stands in it. -/
theorem whole_iff {t : Text} : t.Whole ↔ ∀ place, .half place ∉ t.codes := by
  constructor
  · rintro ⟨s, rfl⟩ place hmem
    rw [codes_ofString, List.mem_map] at hmem
    obtain ⟨c, -, hc⟩ := hmem
    cases hc
  · intro hnone
    refine ⟨t.known, ?_⟩
    cases t with
    | mk codes =>
      rw [ofString, ofChars, known, String.toList_ofList]
      congr 1
      induction codes with
      | nil => rfl
      | cons code rest ih =>
        cases code with
        | char c =>
          exact congrArg _ (ih fun place hmem => hnone place (List.mem_cons_of_mem _ hmem))
        | half place => exact absurd List.mem_cons_self (hnone place)

/-- A text is one of characters alone, or it is torn. -/
theorem eq_ofString_or_torn (t : Text) : (∃ s : String, t = s) ∨ ∃ e, t.string = .error e := by
  cases h : t.string with
  | ok s => exact .inl ⟨s, string_eq_ok_iff.mp h⟩
  | error e => exact .inr ⟨e, rfl⟩

/-- Two texts of characters are equal exactly if they have the same characters. -/
@[simp] theorem ofString_inj {s s' : String} : (s : Text) = s' ↔ s = s' := by
  constructor
  · intro heq
    have hread := string?_ofString s
    rw [heq, string?_ofString] at hread
    exact (Option.some.inj hread).symm
  · rintro rfl
    rfl

/-- The text of a string is empty exactly if the string is. -/
@[simp] theorem isEmpty_ofString (s : String) : (s : Text).isEmpty = s.isEmpty := by
  rw [Bool.eq_iff_iff, isEmpty, codes_ofString, List.isEmpty_iff, List.map_eq_nil_iff]
  simp

/-- A text without code points is the empty one. -/
theorem isEmpty_iff {t : Text} : t.isEmpty = true ↔ t = "" := by
  cases t with
  | mk codes => simp [isEmpty, ofString, ofChars]

end Text

end Remittance

import Remittance.Proofs.Json.Number

/-!
# No control characters in what is written

Whatever the texts in a value hold, no character below U+0020 stands in what is written of it, so
what is written stays on one line. Main statement: `unbroken_codes`, for every value.
-/

set_option autoImplicit false

namespace Remittance.Json

/-- No character is below U+0020. -/
def NoControl (cs : List Char) : Prop := ∀ c ∈ cs, 0x20 ≤ c.toNat

/-- No code point is below U+0020. -/
def Unbroken (codes : List CodePoint) : Prop := ∀ code ∈ codes, 0x20 ≤ code.toNat

section Parts

variable {c : Char} {cs ds : List Char} {code : CodePoint} {codes more : List CodePoint}

/-- No characters are no controls. -/
@[simp] theorem noControl_nil : NoControl [] := fun _ hc => by cases hc

/-- The first of characters and the others are no controls. -/
@[simp] theorem noControl_cons : NoControl (c :: cs) ↔ 0x20 ≤ c.toNat ∧ NoControl cs :=
  List.forall_mem_cons

/-- Characters and those behind them are no controls. -/
@[simp] theorem noControl_append : NoControl (cs ++ ds) ↔ NoControl cs ∧ NoControl ds :=
  List.forall_mem_append

/-- Characters that are no controls are so as code points. -/
@[simp] theorem unbroken_map_char : Unbroken (cs.map .char) ↔ NoControl cs :=
  List.forall_mem_map

/-- No code points are no controls. -/
@[simp] theorem unbroken_nil : Unbroken [] := fun _ hcode => by cases hcode

/-- The first of code points and the others are no controls. -/
@[simp] theorem unbroken_cons : Unbroken (code :: codes) ↔ 0x20 ≤ code.toNat ∧ Unbroken codes :=
  List.forall_mem_cons

/-- Code points and those behind them are no controls. -/
@[simp] theorem unbroken_append : Unbroken (codes ++ more) ↔ Unbroken codes ∧ Unbroken more :=
  List.forall_mem_append

/-- Digits are no controls. -/
theorem AllDigits.noControl (h : AllDigits ds) : NoControl ds := by
  intro c hc
  have hdigit := (Numeral.isDigit_iff c).mp (h c hc)
  omega

/-- Some of digits are digits. -/
theorem AllDigits.sublist (h : AllDigits ds) (hcs : cs.Sublist ds) : AllDigits cs := by
  intro c hc
  exact h c (hcs.subset hc)

end Parts

section Leaves

/-- An integer is written without controls. -/
theorem noControl_signed (n : Int) : NoControl (Numeral.signed n) := by
  have hdigits (n : Nat) : NoControl (Numeral.digits n) := (allDigits_digits n).noControl
  cases n with
  | ofNat n => exact hdigits n
  | negSucc n => simp [Numeral.signed, hdigits]

/-- Beside digits, the notations of a number hold a point, an exponent and signs. -/
theorem noControl_layout {ds : List Char} (hds : AllDigits ds) (k : Int) :
    NoControl (Shortest.layout ds k) := by
  have htake (n : Nat) : NoControl (ds.take n) := (hds.sublist (List.take_sublist n ds)).noControl
  have hdrop (n : Nat) : NoControl (ds.drop n) := (hds.sublist (List.drop_sublist n ds)).noControl
  have hzeros (n : Nat) : NoControl (List.replicate n '0') := (allDigits_zeros n).noControl
  have hpadded (n : Nat) : NoControl (Numeral.padded 2 n) :=
    AllDigits.noControl fun _ hc => Numeral.isDigit_of_mem_padded hc
  unfold Shortest.layout
  dsimp only
  split
  · simp only [noControl_append, noControl_cons]
    refine ⟨⟨htake _, hzeros _⟩, by simp, ?_⟩
    split
    · simp
    · apply hdrop
  split
  · simp [hzeros, hds.noControl]
  · simp only [noControl_append, noControl_cons]
    refine ⟨⟨htake _, ?_⟩, by simp, ?_, hpadded _⟩
    · split
      · simp
      · exact noControl_cons.mpr ⟨by simp, hdrop 1⟩
    · split <;> simp

/-- A floating-point number is written without controls. -/
theorem noControl_number (x : Binary64) : NoControl (number x) := by
  cases x with
  | undefined => simp [number]
  | infinite negative => cases negative <;> simp [number]
  | finite negative m e =>
    have hbody : NoControl (if m = 0 then ['0', '.', '0'] else
        Shortest.layout (Numeral.digits (Shortest.decimal m e).1) (Shortest.decimal m e).2) := by
      split
      · simp
      · apply noControl_layout
        apply allDigits_digits
    show NoControl (Shortest.text (.finite negative m e)).toList
    rw [Shortest.text, String.toList_ofList]
    cases negative with
    | false => exact hbody
    | true => exact noControl_cons.mpr ⟨by simp, hbody⟩

/-- A control character is written by letter or number. -/
theorem noControl_escape (c : Char) : NoControl (escape c) := by
  have hdigit (n : Nat) (hn : n < 16) : 0x20 ≤ (Octets.hexDigit n).toNat := by
    have hall : ∀ n : Fin 16, 0x20 ≤ (Octets.hexDigit n).toNat := by decide
    exact hall ⟨n, hn⟩
  unfold escape
  split_ifs with hquote hslash hline hreturn htab hback hfeed hcontrol
  iterate 7 simp
  · have hhigh := hdigit (c.toNat / 16) (by omega)
    have hlow := hdigit (c.toNat % 16) (by omega)
    simp [hhigh, hlow]
  · rw [not_lt] at hcontrol
    simp [hcontrol]

/-- A text is written between quotes without controls. -/
theorem unbroken_quoted (t : Text) : Unbroken (quoted t) := by
  have hquote : 0x20 ≤ (CodePoint.char '"').toNat := by decide
  have hinner : Unbroken (t.codes.flatMap escapeCode) := by
    intro code hcode
    obtain ⟨code', -, hmem⟩ := List.mem_flatMap.mp hcode
    cases code' with
    | char c => exact unbroken_map_char.mpr (noControl_escape c) code hmem
    | half place =>
      rw [List.mem_singleton.mp hmem, CodePoint.toNat]
      omega
  simp [quoted, hinner, hquote]

end Leaves

section Values

variable {layout : Layout}

mutual

/-- If a layout sets no control characters between the parts of a value, there are none. -/
theorem unbroken_codes (hcomma : NoControl layout.comma) (hcolon : NoControl layout.colon) :
    ∀ j : Json, Unbroken (codes layout j)
  | .null => by simp [codes, CodePoint.toNat]
  | .bool true => by simp [codes, CodePoint.toNat]
  | .bool false => by simp [codes, CodePoint.toNat]
  | .int n => by simp [codes, noControl_signed]
  | .real x => by simp [codes, noControl_number]
  | .text t => by simp [codes, unbroken_quoted]
  | .list items => by simp [codes, CodePoint.toNat, unbroken_itemCodes hcomma hcolon items]
  | .object members => by
    simp [codes, CodePoint.toNat, unbroken_memberCodes hcomma hcolon members]

/-- The same for the items of a list. -/
theorem unbroken_itemCodes (hcomma : NoControl layout.comma) (hcolon : NoControl layout.colon) :
    ∀ items : List Json, Unbroken (itemCodes layout items)
  | [] => by simp [itemCodes]
  | [item] => by simp [itemCodes, unbroken_codes hcomma hcolon item]
  | item :: next :: rest => by
    have hrest := unbroken_itemCodes hcomma hcolon (next :: rest)
    simp [itemCodes, unbroken_codes hcomma hcolon item, hcomma, hrest]

/-- The same for the members of an object. -/
theorem unbroken_memberCodes (hcomma : NoControl layout.comma)
    (hcolon : NoControl layout.colon) :
    ∀ members : Members, Unbroken (memberCodes layout members)
  | [] => by simp [memberCodes]
  | [(name, value)] => by
    simp [memberCodes, unbroken_quoted, hcolon, unbroken_codes hcomma hcolon value]
  | (name, value) :: next :: rest => by
    have hrest := unbroken_memberCodes hcomma hcolon (next :: rest)
    simp [memberCodes, unbroken_quoted, hcolon, unbroken_codes hcomma hcolon value, hcomma, hrest]

end

end Values

end Remittance.Json

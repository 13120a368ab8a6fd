import Remittance.Text.Percent
import Remittance.Proofs.Text.Utf8

/-!
# Percent encoding and back

An encoded text is ASCII and is decoded to the text. Main statements: `decodeField_encodeField` for
forms, and for segments of a path `isSegment_encodeSegment` and `decodeSegment_encodeSegment`.
-/

set_option autoImplicit false

namespace Remittance.Percent

/-- A character below U+0080 that has no meaning of its own in a form. -/
def isCode (c : Char) : Bool := c.toNat < 128 && c != '&' && c != '=' && c != '+'

/-- What holds of the 256 numbers of octets holds of all octets. -/
theorem forall_octet {P : UInt8 → Prop} (h : ∀ k : Fin 256, P (.ofNat k.val)) (o : UInt8) :
    P o := by
  have hk := h ⟨o.toNat, o.toNat_lt⟩
  rwa [UInt8.ofNat_toNat] at hk

/-- An octet is written in characters of the code. -/
theorem isCode_encodeOctet : ∀ o : UInt8, (encodeOctet o).all isCode = true :=
  forall_octet (by decide +kernel)

/-- The character of an octet has its number. -/
theorem toNat_ofNat_octet : ∀ o : UInt8, (Char.ofNat o.toNat).toNat = o.toNat :=
  forall_octet (by decide +kernel)

/-- A hexadecimal digit has the value that it was written of. -/
theorem hexValue_hexDigit {n : Nat} (hn : n < 16) : Octets.hexValue? (hexDigit n) = some n := by
  have hall : ∀ n : Fin 16, Octets.hexValue? (hexDigit n) = some n.val := by decide
  exact hall ⟨n, hn⟩

/-- A character other than the percent sign stands for itself. -/
theorem decodeOctets_cons {c : Char} (hc : c ≠ '%') (rest : List Char) :
    decodeOctets (c :: rest) = .ofNat c.toNat :: decodeOctets rest := by
  rw [decodeOctets.eq_def]
  split
  · next heq =>
    rw [List.cons.injEq] at heq
    exact absurd heq.1 hc
  · next heq =>
    rw [List.cons.injEq] at heq
    rw [heq.1, heq.2]
  · next heq => cases heq

/-- An escaped octet is read back, whatever follows. -/
theorem decodeOctets_escape (o : UInt8) (rest : List Char) :
    decodeOctets (escape o ++ rest) = o :: decodeOctets rest := by
  have ho : o.toNat < 256 := o.toNat_lt
  have hhigh : Octets.hexValue? (hexDigit (o.toNat / 16)) = some (o.toNat / 16) :=
    hexValue_hexDigit (by omega)
  have hlow : Octets.hexValue? (hexDigit (o.toNat % 16)) = some (o.toNat % 16) :=
    hexValue_hexDigit (by omega)
  simp only [escape, List.cons_append, List.nil_append, decodeOctets, hhigh, hlow]
  rw [show o.toNat / 16 * 16 + o.toNat % 16 = o.toNat by omega, UInt8.ofNat_toNat]

/-- An octet is decoded from how it is written, whatever follows. -/
theorem decodeOctets_encodeOctet (o : UInt8) (rest : List Char) :
    decodeOctets (encodeOctet o ++ rest) = o :: decodeOctets rest := by
  rw [encodeOctet]
  split
  · next h =>
    have hpercent : Char.ofNat o.toNat ≠ '%' := by
      intro heq
      rw [heq] at h
      exact absurd h (by decide)
    rw [List.singleton_append, decodeOctets_cons hpercent, toNat_ofNat_octet, UInt8.ofNat_toNat]
  · exact decodeOctets_escape o rest

/-- Octets are decoded from their codes. -/
theorem decodeOctets_flatMap {f : UInt8 → List Char}
    (hf : ∀ o rest, decodeOctets (f o ++ rest) = o :: decodeOctets rest) (b : Octets) :
    decodeOctets (b.flatMap f) = b := by
  induction b with
  | nil => rfl
  | cons o b ih => rw [List.flatMap_cons, hf, ih]

/-- A run of ASCII is decoded at once. -/
theorem decodeRuns_ascii {cs : List Char} (hcs : ∀ c ∈ cs, c.toNat < 128) (run : List Char) :
    decodeRuns run cs = (Utf8.decodeLossy (decodeOctets (run.reverse ++ cs))).toList := by
  induction cs generalizing run with
  | nil => rw [decodeRuns, List.append_nil]
  | cons c cs ih =>
    rw [decodeRuns, if_pos (hcs c List.mem_cons_self),
      ih (fun d hd => hcs d (List.mem_cons_of_mem _ hd)), List.reverse_cons, List.append_assoc,
      List.singleton_append]

section Segments

/-- A letter or digit of ASCII, or one of four signs. -/
def IsPlain (c : Char) : Prop :=
  ('a' ≤ c ∧ c ≤ 'z') ∨ ('A' ≤ c ∧ c ≤ 'Z') ∨ ('0' ≤ c ∧ c ≤ '9') ∨
    c = '_' ∨ c = '.' ∨ c = '-' ∨ c = '~'

/-- A hexadecimal digit in upper case. -/
def IsHexDigit (c : Char) : Prop := ('0' ≤ c ∧ c ≤ '9') ∨ ('A' ≤ c ∧ c ≤ 'F')

/-- Plain characters and escapes, each a percent sign with two hexadecimal digits. -/
inductive IsSegment : List Char → Prop where
  | nil : IsSegment []
  | plain {c : Char} {cs : List Char} (hc : IsPlain c) (hmore : IsSegment cs) : IsSegment (c :: cs)
  | escape {h l : Char} {cs : List Char} (hh : IsHexDigit h) (hl : IsHexDigit l)
      (hmore : IsSegment cs) : IsSegment ('%' :: h :: l :: cs)

variable {c : Char} {cs : List Char}

/-- What need not be escaped may stand in a segment. -/
theorem isPlain_of_isUnreserved (hc : isUnreserved c = true) : IsPlain c := by
  have hupper (h : c.isUpper = true) : 'A' ≤ c ∧ c ≤ 'Z' := of_decide_eq_true h
  have hlower (h : c.isLower = true) : 'a' ≤ c ∧ c ≤ 'z' :=
    (Bool.and_eq_true_iff.mp h).imp of_decide_eq_true of_decide_eq_true
  have hdigit (h : c.isDigit = true) : '0' ≤ c ∧ c ≤ '9' :=
    (Bool.and_eq_true_iff.mp h).imp of_decide_eq_true of_decide_eq_true
  simp only [isUnreserved, Bool.or_eq_true, beq_iff_eq] at hc
  rcases hc with (((halphanum | rfl) | rfl) | rfl) | rfl
  · rcases Bool.or_eq_true_iff.mp halphanum with halpha | h
    · rcases Bool.or_eq_true_iff.mp halpha with h | h
      · exact .inr (.inl (hupper h))
      · exact .inl (hlower h)
    · exact .inr (.inr (.inl (hdigit h)))
  all_goals simp [IsPlain]

/-- A hexadecimal digit may stand in a segment. -/
theorem IsHexDigit.isPlain (hc : IsHexDigit c) : IsPlain c := by
  rcases hc with hdigit | ⟨hlow, hhigh⟩
  · exact .inr (.inr (.inl hdigit))
  · exact .inr (.inl ⟨hlow, Char.le_trans hhigh (by decide)⟩)

/-- What is written as a hexadecimal digit is one. -/
theorem isHexDigit_hexDigit {n : Nat} (hn : n < 16) : IsHexDigit (hexDigit n) := by
  have hall : ∀ n : Fin 16, ('0' ≤ hexDigit n ∧ hexDigit n ≤ '9') ∨
      ('A' ≤ hexDigit n ∧ hexDigit n ≤ 'F') := by decide
  exact hall ⟨n, hn⟩

/-- Of signs, a segment has no other than those that are plain and the percent sign. -/
theorem IsSegment.of_mem (hcs : IsSegment cs) (hc : c ∈ cs) : IsPlain c ∨ c = '%' := by
  induction hcs with
  | nil => cases hc
  | plain hplain hmore ih =>
    rcases List.mem_cons.mp hc with rfl | hc
    · exact .inl hplain
    · exact ih hc
  | escape hh hl hmore ih =>
    simp only [List.mem_cons] at hc
    rcases hc with rfl | rfl | rfl | hc
    · exact .inr rfl
    · exact .inl hh.isPlain
    · exact .inl hl.isPlain
    · exact ih hc

/-- No other character stands in a segment. -/
theorem IsSegment.notMem (hcs : IsSegment cs) (hplain : ¬ IsPlain c) (hsign : c ≠ '%') :
    c ∉ cs := by
  intro hc
  exact (hcs.of_mem hc).elim hplain hsign

/-- One octet more, as it is written, leaves a segment a segment. -/
theorem isSegment_encodeOctet (o : UInt8) (hcs : IsSegment cs) :
    IsSegment (encodeOctet o ++ cs) := by
  have ho : o.toNat < 256 := o.toNat_lt
  rw [encodeOctet]
  split
  · next h => exact .plain (isPlain_of_isUnreserved h) hcs
  · apply IsSegment.escape _ _ hcs
    · exact isHexDigit_hexDigit (by omega)
    · exact isHexDigit_hexDigit (by omega)

/-- A text is written as a segment. -/
theorem isSegment_encodeSegment (s : String) : IsSegment (encodeSegment s).toList := by
  rw [encodeSegment, String.toList_ofList]
  induction Octets.ofText s with
  | nil => exact .nil
  | cons o b ih =>
    rw [List.flatMap_cons]
    exact isSegment_encodeOctet o ih

/-- A segment that a text is written as is decoded to the octets of the text. -/
theorem decodeOctets_encodeSegment (s : String) :
    decodeOctets (encodeSegment s).toList = Octets.ofText s := by
  rw [encodeSegment, String.toList_ofList, decodeOctets_flatMap decodeOctets_encodeOctet]

/-- A segment is written in ASCII. -/
theorem IsSegment.toNat_lt (hcs : IsSegment cs) (hc : c ∈ cs) : c.toNat < 128 := by
  have hlt {d : Char} (hle : c ≤ d) (hd : d.toNat < 128) : c.toNat < 128 :=
    Nat.lt_of_le_of_lt hle hd
  rcases hcs.of_mem hc with (⟨-, hle⟩ | ⟨-, hle⟩ | ⟨-, hle⟩ | rfl | rfl | rfl | rfl) | rfl
  · exact hlt hle (by decide)
  · exact hlt hle (by decide)
  · exact hlt hle (by decide)
  all_goals decide

/-- A segment that a text is written as stands for the text. -/
theorem decodeSegment_encodeSegment (s : String) : decodeSegment (encodeSegment s) = s := by
  have hascii : ∀ c ∈ (encodeSegment s).toList, c.toNat < 128 := by
    intro c hc
    exact (isSegment_encodeSegment s).toNat_lt hc
  rw [decodeSegment, decodeRuns_ascii hascii, List.reverse_nil, List.nil_append,
    decodeOctets_encodeSegment, Utf8.decodeLossy_ofText, String.ofList_toList]

end Segments

/-- An octet as it is written in a form. -/
def fieldCode (o : UInt8) : List Char := if o = 32 then ['+'] else encodeOctet o

/-- An octet as it is written in a form, without the plus sign. -/
def spacedCode (o : UInt8) : List Char := if o = 32 then [' '] else encodeOctet o

/-- A field is written octet by octet. -/
theorem encodeField_eq (s : String) :
    (encodeField s).toList = (Octets.ofText s).flatMap fieldCode := by
  rw [encodeField, String.toList_ofList]
  rfl

/-- Where plus signs are turned into spaces, the code is that of a segment. -/
theorem plus_to_space (o : UInt8) :
    (fieldCode o).map (fun c => if c = '+' then ' ' else c) = spacedCode o := by
  rw [fieldCode, spacedCode]
  split
  · rfl
  · have hcodes := List.all_eq_true.mp (isCode_encodeOctet o)
    rw [List.map_congr_left (g := id), List.map_id]
    intro c hc
    have hcode := hcodes c hc
    simp only [isCode, Bool.and_eq_true, bne_iff_ne] at hcode
    exact if_neg hcode.2

/-- Such a code is read back, whatever follows. -/
theorem decodeOctets_spacedCode (o : UInt8) (rest : List Char) :
    decodeOctets (spacedCode o ++ rest) = o :: decodeOctets rest := by
  rw [spacedCode]
  split
  · next h =>
    rw [h, List.singleton_append, decodeOctets_cons (by decide)]
    rfl
  · exact decodeOctets_encodeOctet o rest

/-- Such a code is written in ASCII. -/
theorem ascii_spacedCode : ∀ o : UInt8, (spacedCode o).all (fun c => c.toNat < 128) = true :=
  forall_octet (by decide +kernel)

/-- A name or value of a form is decoded to the text that it was. -/
theorem decodeField_encodeField (s : String) : decodeField (encodeField s).toList = s := by
  have hcodes : (encodeField s).toList.map (fun c => if c = '+' then ' ' else c) =
      (Octets.ofText s).flatMap spacedCode := by
    rw [encodeField_eq, List.map_flatMap]
    exact congrArg (List.flatMap · (Octets.ofText s)) (funext plus_to_space)
  have hascii : ∀ c ∈ (Octets.ofText s).flatMap spacedCode, c.toNat < 128 := by
    intro c hc
    obtain ⟨o, -, hmem⟩ := List.mem_flatMap.mp hc
    exact of_decide_eq_true (List.all_eq_true.mp (ascii_spacedCode o) c hmem)
  rw [decodeField, hcodes, decodeRuns_ascii hascii, List.reverse_nil, List.nil_append,
    decodeOctets_flatMap decodeOctets_spacedCode, Utf8.decodeLossy_ofText, String.ofList_toList]

end Remittance.Percent

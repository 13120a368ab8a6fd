import Remittance.Text.Form
import Remittance.Proofs.Text.Percent

/-!
# Forms and back

A form is decoded from its URL-encoded text, field by field and in order, whatever names and values
it has. Main statement: `decode_encode`.
-/

set_option autoImplicit false

namespace Remittance.Form

open Percent (decodeField_encodeField encodeField fieldCode isCode)

/-- No character of an encoded name or value is a separator, and all are ASCII. -/
theorem code_of_mem_encodeField {s : String} {c : Char} (hc : c ∈ (encodeField s).toList) :
    c.toNat < 128 ∧ c ≠ '&' ∧ c ≠ '=' := by
  rw [Percent.encodeField_eq] at hc
  obtain ⟨o, -, hmem⟩ := List.mem_flatMap.mp hc
  rw [fieldCode] at hmem
  split at hmem
  · rw [List.mem_singleton.mp hmem]
    decide
  · have hcode := List.all_eq_true.mp (Percent.isCode_encodeOctet o) c hmem
    simp only [isCode, Bool.and_eq_true, bne_iff_ne, decide_eq_true_eq] at hcode
    exact ⟨hcode.1.1.1, hcode.1.1.2, hcode.1.2⟩

/-- A field is written as its name and its value around an equals sign. -/
theorem toList_encodePair (field : String × String) :
    (encodePair field).toList =
      (encodeField field.1).toList ++ '=' :: (encodeField field.2).toList := by
  rw [encodePair, String.toList_append, String.toList_append, List.append_assoc]
  rfl

/-- A field is written in ASCII, without the sign between fields. -/
theorem code_of_mem_encodePair {field : String × String} {c : Char}
    (hc : c ∈ (encodePair field).toList) : c.toNat < 128 ∧ c ≠ '&' := by
  rw [toList_encodePair, List.mem_append, List.mem_cons] at hc
  rcases hc with hname | rfl | hvalue
  · exact ⟨(code_of_mem_encodeField hname).1, (code_of_mem_encodeField hname).2.1⟩
  · decide
  · exact ⟨(code_of_mem_encodeField hvalue).1, (code_of_mem_encodeField hvalue).2.1⟩

/-- The first equals sign parts the name from the value. -/
theorem decodePair_encodePair (field : String × String) :
    decodePair (encodePair field).toList = field := by
  have hname : ∀ c ∈ (encodeField field.1).toList, decide (c ≠ '=') = true :=
    fun c hc => decide_eq_true (code_of_mem_encodeField hc).2.2
  rw [toList_encodePair, decodePair, List.takeWhile_append_of_pos hname,
    List.dropWhile_append_of_pos hname, List.takeWhile_cons_of_neg (by decide),
    List.dropWhile_cons_of_neg (by decide), List.append_nil, List.drop_succ_cons, List.drop_zero,
    decodeField_encodeField, decodeField_encodeField]

section Split

variable {sep : Char} {part : List Char}

/-- What holds no separator is one part. -/
theorem splitAt_self (hpart : sep ∉ part) : splitAt sep part = [part] := by
  induction part with
  | nil => rfl
  | cons c part ih =>
    rw [List.mem_cons, not_or] at hpart
    rw [splitAt, if_neg (Ne.symm hpart.1), ih hpart.2]

/-- A separator ends the part before it. -/
theorem splitAt_append (hpart : sep ∉ part) (rest : List Char) :
    splitAt sep (part ++ sep :: rest) = part :: splitAt sep rest := by
  induction part with
  | nil => rw [List.nil_append, splitAt, if_pos rfl]
  | cons c part ih =>
    rw [List.mem_cons, not_or] at hpart
    rw [List.cons_append, splitAt, if_neg (Ne.symm hpart.1), ih hpart.2]

/-- Parts without a separator in them are found again. -/
theorem splitAt_intercalate {parts : List (List Char)} (hne : parts ≠ [])
    (hparts : ∀ part ∈ parts, sep ∉ part) :
    splitAt sep (List.intercalate [sep] parts) = parts := by
  induction parts with
  | nil => exact absurd rfl hne
  | cons part more ih =>
    have hpart := hparts part List.mem_cons_self
    cases more with
    | nil => rw [List.intercalate_singleton, splitAt_self hpart]
    | cons next more =>
      rw [List.intercalate_cons_cons, List.append_assoc, List.singleton_append,
        splitAt_append hpart,
        ih (List.cons_ne_nil _ _) fun p hp => hparts p (List.mem_cons_of_mem _ hp)]

end Split

/-- Parts that are fields are taken one by one. -/
theorem ofParts_eq_map {parts : List (List Char)} (hparts : ∀ part ∈ parts, '=' ∈ part) :
    ofParts parts = parts.map decodePair := by
  induction parts with
  | nil => rfl
  | cons part more ih =>
    have hpart := hparts part List.mem_cons_self
    have hmore := ih fun p hp => hparts p (List.mem_cons_of_mem _ hp)
    cases more with
    | nil => rw [ofParts, if_pos (List.contains_iff_mem.mpr hpart), List.map_singleton]
    | cons next more =>
      have hfull : part.isEmpty = false :=
        List.isEmpty_eq_false_iff.mpr (List.ne_nil_of_mem hpart)
      rw [ofParts, hfull, if_neg Bool.false_ne_true, hmore]
      · rfl
      · exact List.cons_ne_nil _ _

/-- A form is written as its fields with a sign between them. -/
theorem toList_encode (form : Form) : (encode form).toList =
    List.intercalate ['&'] (form.map fun field => (encodePair field).toList) := by
  rw [encode, String.toList_intercalate, List.map_map]
  rfl

/-- A form is read back from what is written of it. -/
theorem decodeChars_encode (form : Form) : decodeChars (encode form).toList = form := by
  by_cases hempty : form = []
  · rw [hempty]
    rfl
  have hparts : ∀ part ∈ form.map fun field => (encodePair field).toList,
      '&' ∉ part ∧ '=' ∈ part := by
    intro part hpart
    obtain ⟨field, -, rfl⟩ := List.mem_map.mp hpart
    refine ⟨fun hsep => (code_of_mem_encodePair hsep).2 rfl, ?_⟩
    rw [toList_encodePair]
    exact List.mem_append_right _ List.mem_cons_self
  have hpairs : decodePair ∘ (fun field => (encodePair field).toList) = id :=
    funext decodePair_encodePair
  rw [decodeChars, toList_encode,
    splitAt_intercalate (by simpa using hempty) fun part hpart => (hparts part hpart).1,
    ofParts_eq_map fun part hpart => (hparts part hpart).2, List.map_map, hpairs, List.map_id]

/-- A character between parts is the separator's, or one of a part. -/
theorem mem_intercalate {sep : List Char} {parts : List (List Char)} {c : Char}
    (hc : c ∈ List.intercalate sep parts) : c ∈ sep ∨ ∃ part ∈ parts, c ∈ part := by
  induction parts with
  | nil => cases hc
  | cons part more ih =>
    cases more with
    | nil =>
      rw [List.intercalate_singleton] at hc
      exact .inr ⟨part, List.mem_cons_self, hc⟩
    | cons next more =>
      rw [List.intercalate_cons_cons, List.append_assoc, List.mem_append, List.mem_append] at hc
      rcases hc with hpart | hsep | hmore
      · exact .inr ⟨part, List.mem_cons_self, hpart⟩
      · exact .inl hsep
      · rcases ih hmore with hsep | ⟨p, hp, hmem⟩
        · exact .inl hsep
        · exact .inr ⟨p, List.mem_cons_of_mem _ hp, hmem⟩

/-- The octets of an ASCII text are the numbers of its characters. -/
theorem map_ofText {s : String} (hascii : ∀ c ∈ s.toList, c.toNat < 128) :
    (Octets.ofText s).map (fun o => Char.ofNat o.toNat) = s.toList := by
  rw [Octets.ofText]
  generalize s.toList = cs at *
  induction cs with
  | nil => rfl
  | cons c cs ih =>
    have hc : c.toNat < 128 := hascii c List.mem_cons_self
    have hnat : (UInt8.ofNat c.toNat).toNat = c.toNat := by
      rw [UInt8.toNat_ofNat']
      omega
    rw [List.flatMap_cons, Utf8.encodeChar_ascii hc, List.map_append,
      ih fun d hd => hascii d (List.mem_cons_of_mem _ hd), List.map_singleton, hnat,
      Char.ofNat_toNat, List.singleton_append]

/-- A form is decoded from the octets of its URL-encoded text. -/
theorem decode_encode (form : Form) : decode (Octets.ofText (encode form)) = form := by
  have hascii : ∀ c ∈ (encode form).toList, c.toNat < 128 := by
    intro c hc
    rw [toList_encode] at hc
    rcases mem_intercalate hc with hsep | ⟨part, hpart, hmem⟩
    · rw [List.mem_singleton.mp hsep]
      decide
    · obtain ⟨field, -, rfl⟩ := List.mem_map.mp hpart
      exact (code_of_mem_encodePair hmem).1
  rw [decode, map_ofText hascii, decodeChars_encode]

end Remittance.Form

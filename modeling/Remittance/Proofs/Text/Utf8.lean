import Remittance.Text.Utf8

/-!
# Texts as octets and back

The octets of a text are well formed, and both readers give the text back. The strict reader takes
no others: what it reads as a text are the octets of that text. Main statements: `decode_eq_ok_iff`
and `decodeLossy_ofText`.
-/

set_option autoImplicit false

namespace Remittance.Utf8

section Octet

/-- A leading octet and one in its range behind it begin a character, the rest of which is read. -/
theorem step_lead {o o' low high : UInt8} {more : Nat} {rest : Octets} (hlead : ¬ o < 0x80)
    (hrange : lead? o = some (low, high, more)) (hsecond : low ≤ o' ∧ o' ≤ high) :
    step o (o' :: rest) = tail more 2 (leadBits o * 64 + o'.toNat % 64) rest := by
  simp only [step, if_neg hlead, hrange, if_pos hsecond]

/-- An octet that continues a character adds six bits to its number. -/
theorem tail_continuation {o : UInt8} (count width value : Nat) {rest : Octets}
    (ho : isContinuation o = true) :
    tail (count + 1) width value (o :: rest) =
      tail count (width + 1) (value * 64 + o.toNat % 64) rest := by
  rw [tail, if_pos ho]

/-- The octet that carries the last six bits of a number. -/
theorem continuation_spec (n : Nat) :
    isContinuation (.ofNat (n % 64 + 128)) = true ∧
      (UInt8.ofNat (n % 64 + 128)).toNat = n % 64 + 128 := by
  have hall : ∀ k : Fin 64, isContinuation (.ofNat (k.val + 128)) = true ∧
      (UInt8.ofNat (k.val + 128)).toNat = k.val + 128 := by decide
  exact hall ⟨n % 64, Nat.mod_lt _ (by decide)⟩

/-- The first of two octets. -/
theorem lead_two : ∀ k : Fin 32, 2 ≤ k.val → ¬ UInt8.ofNat (k.val + 192) < 0x80 ∧
    lead? (.ofNat (k.val + 192)) = some (0x80, 0xBF, 0) ∧
      leadBits (.ofNat (k.val + 192)) = k.val := by decide

/-- The first of three octets; not all octets may follow the first of them and that of the
surrogates. -/
theorem lead_three : ∀ k : Fin 16, ¬ UInt8.ofNat (k.val + 224) < 0x80 ∧
    lead? (.ofNat (k.val + 224)) =
      some (if k.val = 0 then 0xA0 else 0x80, if k.val = 13 then 0x9F else 0xBF, 1) ∧
      leadBits (.ofNat (k.val + 224)) = k.val := by decide

/-- The first of four octets; not all octets may follow the first and the last of them. -/
theorem lead_four : ∀ k : Fin 5, ¬ UInt8.ofNat (k.val + 240) < 0x80 ∧
    lead? (.ofNat (k.val + 240)) =
      some (if k.val = 0 then 0x90 else 0x80, if k.val = 4 then 0x8F else 0xBF, 2) ∧
      leadBits (.ofNat (k.val + 240)) = k.val := by decide

end Octet

section Character

/-- What the first step reads of octets: a character, of which nothing is left behind. -/
def ReadsChar (octets : Octets) (c : Char) : Prop :=
  ∃ o more, octets = o :: more ∧ ∃ width, ∀ rest, step o (more ++ rest) = (.char width c, rest)

/-- A character of ASCII is its own octet. -/
theorem encodeChar_ascii {c : Char} (hc : c.toNat < 128) :
    String.utf8EncodeChar c = [.ofNat c.toNat] := by
  have hnat : c.val.toNat = c.toNat := rfl
  simp only [String.utf8EncodeChar, hnat]
  rw [if_pos (by omega)]

/-- The character of one octet is read. -/
theorem readsChar_one {c : Char} (hv : c.toNat ≤ 0x7F) : ReadsChar [.ofNat c.toNat] c := by
  have hall : ∀ k : Fin 128, UInt8.ofNat k.val < 0x80 ∧ (UInt8.ofNat k.val).toNat = k.val := by
    decide
  obtain ⟨hlt, hnat⟩ := hall ⟨c.toNat, by omega⟩
  refine ⟨_, [], rfl, 1, fun rest => ?_⟩
  rw [List.nil_append, step, if_pos hlt, hnat, Char.ofNat_toNat]

/-- The character of two octets is read. -/
theorem readsChar_two {c : Char} (hlow : 0x7F < c.toNat) (hhigh : c.toNat ≤ 0x7FF) :
    ReadsChar [.ofNat (c.toNat / 64 % 32 + 192), .ofNat (c.toNat % 64 + 128)] c := by
  obtain ⟨hlead, hrange, hbits⟩ := lead_two ⟨c.toNat / 64 % 32, by omega⟩ (by simp only; omega)
  obtain ⟨hcontinues, hlast⟩ := continuation_spec c.toNat
  refine ⟨_, _, rfl, 2, fun rest => ?_⟩
  have hsecond : (0x80 : UInt8) ≤ .ofNat (c.toNat % 64 + 128) ∧
      .ofNat (c.toNat % 64 + 128) ≤ (0xBF : UInt8) := by
    rwa [isContinuation, Bool.and_eq_true, decide_eq_true_eq, decide_eq_true_eq] at hcontinues
  rw [List.singleton_append, step_lead hlead hrange hsecond, tail, hbits, hlast,
    show c.toNat / 64 % 32 * 64 + (c.toNat % 64 + 128) % 64 = c.toNat by omega, Char.ofNat_toNat]

/-- The character of three octets is read. -/
theorem readsChar_three {c : Char} (hlow : 0x7FF < c.toNat) (hhigh : c.toNat ≤ 0xFFFF)
    (hvalid : c.toNat < 0xD800 ∨ 0xDFFF < c.toNat) :
    ReadsChar [.ofNat (c.toNat / 4096 % 16 + 224), .ofNat (c.toNat / 64 % 64 + 128),
      .ofNat (c.toNat % 64 + 128)] c := by
  obtain ⟨hlead, hrange, hbits⟩ := lead_three ⟨c.toNat / 4096 % 16, by omega⟩
  obtain ⟨-, hmiddle⟩ := continuation_spec (c.toNat / 64)
  obtain ⟨hcontinues, hlast⟩ := continuation_spec c.toNat
  dsimp only at hlead hrange hbits
  have hsecond : (if c.toNat / 4096 % 16 = 0 then 0xA0 else 0x80 : UInt8) ≤
        .ofNat (c.toNat / 64 % 64 + 128) ∧
      .ofNat (c.toNat / 64 % 64 + 128) ≤
        (if c.toNat / 4096 % 16 = 13 then 0x9F else 0xBF : UInt8) := by
    rw [UInt8.le_iff_toNat_le, UInt8.le_iff_toNat_le, hmiddle]
    constructor
    · split
      · exact (by omega : 160 ≤ c.toNat / 64 % 64 + 128)
      · exact (by omega : 128 ≤ c.toNat / 64 % 64 + 128)
    · split
      · exact (by omega : c.toNat / 64 % 64 + 128 ≤ 159)
      · exact (by omega : c.toNat / 64 % 64 + 128 ≤ 191)
  refine ⟨_, _, rfl, 3, fun rest => ?_⟩
  rw [List.cons_append, List.singleton_append, step_lead hlead hrange hsecond,
    tail_continuation _ _ _ hcontinues, tail, hbits, hmiddle, hlast,
    show (c.toNat / 4096 % 16 * 64 + (c.toNat / 64 % 64 + 128) % 64) * 64 +
      (c.toNat % 64 + 128) % 64 = c.toNat by omega, Char.ofNat_toNat]

/-- The character of four octets is read. -/
theorem readsChar_four {c : Char} (hlow : 0xFFFF < c.toNat) (hhigh : c.toNat < 0x110000) :
    ReadsChar [.ofNat (c.toNat / 262144 % 8 + 240), .ofNat (c.toNat / 4096 % 64 + 128),
      .ofNat (c.toNat / 64 % 64 + 128), .ofNat (c.toNat % 64 + 128)] c := by
  obtain ⟨hlead, hrange, hbits⟩ := lead_four ⟨c.toNat / 262144 % 8, by omega⟩
  obtain ⟨-, hsecond'⟩ := continuation_spec (c.toNat / 4096)
  obtain ⟨hthird, hthird'⟩ := continuation_spec (c.toNat / 64)
  obtain ⟨hlast, hlast'⟩ := continuation_spec c.toNat
  dsimp only at hlead hrange hbits
  have hsecond : (if c.toNat / 262144 % 8 = 0 then 0x90 else 0x80 : UInt8) ≤
        .ofNat (c.toNat / 4096 % 64 + 128) ∧
      .ofNat (c.toNat / 4096 % 64 + 128) ≤
        (if c.toNat / 262144 % 8 = 4 then 0x8F else 0xBF : UInt8) := by
    rw [UInt8.le_iff_toNat_le, UInt8.le_iff_toNat_le, hsecond']
    constructor
    · split
      · exact (by omega : 144 ≤ c.toNat / 4096 % 64 + 128)
      · exact (by omega : 128 ≤ c.toNat / 4096 % 64 + 128)
    · split
      · exact (by omega : c.toNat / 4096 % 64 + 128 ≤ 143)
      · exact (by omega : c.toNat / 4096 % 64 + 128 ≤ 191)
  refine ⟨_, _, rfl, 4, fun rest => ?_⟩
  rw [List.cons_append, List.cons_append, List.singleton_append,
    step_lead hlead hrange hsecond, tail_continuation _ _ _ hthird,
    tail_continuation _ _ _ hlast, tail, hbits, hsecond', hthird', hlast',
    show ((c.toNat / 262144 % 8 * 64 + (c.toNat / 4096 % 64 + 128) % 64) * 64 +
      (c.toNat / 64 % 64 + 128) % 64) * 64 + (c.toNat % 64 + 128) % 64 = c.toNat by omega,
    Char.ofNat_toNat]

/-- The octets of a character are read as that character. -/
theorem readsChar_encode (c : Char) : ReadsChar (String.utf8EncodeChar c) c := by
  have hvalid : c.toNat < 0xD800 ∨ 0xDFFF < c.toNat ∧ c.toNat < 0x110000 := c.valid
  have hnat : c.val.toNat = c.toNat := rfl
  simp only [String.utf8EncodeChar, hnat]
  split
  · next h => exact readsChar_one h
  split
  · next h h' => exact readsChar_two (by omega) h'
  split
  · next h h' h'' => exact readsChar_three (by omega) h'' (by omega)
  · next h h' h'' => exact readsChar_four (by omega) (by omega)

end Character

section Encoded

/-- An octet is known by its number. -/
theorem ofNat_eq {o : UInt8} {n : Nat} (h : o.toNat = n) : UInt8.ofNat n = o := by
  rw [← h, UInt8.ofNat_toNat]

/-- A number that is no surrogate's is that of its character. -/
theorem val_toNat_ofNat {n : Nat} (h : n < 0xD800 ∨ 0xDFFF < n ∧ n < 0x110000) :
    (Char.ofNat n).val.toNat = n := by
  have hvalid : n.isValidChar := h
  rw [Char.ofNat, dif_pos hvalid]
  rfl

variable {n : Nat} {o₁ o₂ o₃ o₄ : UInt8}

/-- The two octets of a character are known by its number. -/
theorem encodeChar_two (hlow : 0x7F < n) (hhigh : n ≤ 0x7FF) (h₁ : o₁.toNat = n / 64 + 192)
    (h₂ : o₂.toNat = n % 64 + 128) : String.utf8EncodeChar (Char.ofNat n) = [o₁, o₂] := by
  have hn : (Char.ofNat n).val.toNat = n := val_toNat_ofNat (by omega)
  simp only [String.utf8EncodeChar, hn]
  rw [if_neg (by omega), if_pos hhigh, Nat.mod_eq_of_lt (by omega), ofNat_eq h₁, ofNat_eq h₂]

/-- The three octets of a character are known by its number. -/
theorem encodeChar_three (hlow : 0x7FF < n) (hhigh : n ≤ 0xFFFF) (hvalid : n < 0xD800 ∨ 0xDFFF < n)
    (h₁ : o₁.toNat = n / 4096 + 224) (h₂ : o₂.toNat = n / 64 % 64 + 128)
    (h₃ : o₃.toNat = n % 64 + 128) :
    String.utf8EncodeChar (Char.ofNat n) = [o₁, o₂, o₃] := by
  have hn : (Char.ofNat n).val.toNat = n := val_toNat_ofNat (by omega)
  simp only [String.utf8EncodeChar, hn]
  have hbits : n / 4096 < 16 := by omega
  rw [if_neg (by omega), if_neg (by omega), if_pos hhigh, Nat.mod_eq_of_lt hbits, ofNat_eq h₁,
    ofNat_eq h₂, ofNat_eq h₃]

/-- The four octets of a character are known by its number. -/
theorem encodeChar_four (hlow : 0xFFFF < n) (hhigh : n < 0x110000)
    (h₁ : o₁.toNat = n / 262144 + 240) (h₂ : o₂.toNat = n / 4096 % 64 + 128)
    (h₃ : o₃.toNat = n / 64 % 64 + 128) (h₄ : o₄.toNat = n % 64 + 128) :
    String.utf8EncodeChar (Char.ofNat n) = [o₁, o₂, o₃, o₄] := by
  have hn : (Char.ofNat n).val.toNat = n := val_toNat_ofNat (by omega)
  simp only [String.utf8EncodeChar, hn]
  have hbits : n / 262144 < 8 := by omega
  rw [if_neg (by omega), if_neg (by omega), if_neg (by omega), Nat.mod_eq_of_lt hbits, ofNat_eq h₁,
    ofNat_eq h₂, ofNat_eq h₃, ofNat_eq h₄]

/-- What the first octet of a character of more than one says: its bits, how many octets come after
the second one, and from where to where that one may be. -/
def Leads (o low high more bits : Nat) : Prop :=
  128 ≤ low ∧ high ≤ 191 ∧
    ((more = 0 ∧ 194 ≤ o ∧ o ≤ 223 ∧ o = bits + 192) ∨
      (more = 1 ∧ o ≤ 239 ∧ o = bits + 224 ∧ (o = 224 → 160 ≤ low) ∧ (o = 237 → high ≤ 159)) ∨
      (more = 2 ∧ o ≤ 244 ∧ o = bits + 240 ∧ (o = 240 → 144 ≤ low) ∧ (o = 244 → high ≤ 143)))

/-- An octet that leads others is in a row of the table. -/
theorem leads_of_lead {o low high : UInt8} {more : Nat} (h : lead? o = some (low, high, more)) :
    Leads o.toNat low.toNat high.toNat more (leadBits o) := by
  have hall : ∀ o : Fin 256, ∀ r ∈ lead? (.ofNat o.val),
      Leads o.val r.1.toNat r.2.1.toNat r.2.2 (leadBits (.ofNat o.val)) := by
    unfold Leads
    decide +kernel
  have hlead := hall ⟨o.toNat, o.toNat_lt⟩ (low, high, more)
  rw [UInt8.ofNat_toNat] at hlead
  exact hlead h

/-- An octet continues a character if its number is in one range. -/
theorem isContinuation_iff {o : UInt8} :
    isContinuation o = true ↔ 128 ≤ o.toNat ∧ o.toNat ≤ 191 := by
  rw [isContinuation, Bool.and_eq_true, decide_eq_true_eq, decide_eq_true_eq,
    UInt8.le_iff_toNat_le, UInt8.le_iff_toNat_le]
  rfl

/-- A continuation octet was read, and the tail behind it. -/
theorem tail_eq_char {count width width' value : Nat} {octets more : Octets} {c : Char}
    (h : tail (count + 1) width value octets = (.char width' c, more)) :
    ∃ o rest, octets = o :: rest ∧ (128 ≤ o.toNat ∧ o.toNat ≤ 191) ∧
      tail count (width + 1) (value * 64 + o.toNat % 64) rest = (.char width' c, more) := by
  cases octets with
  | nil => cases h
  | cons o rest =>
    rw [tail] at h
    split at h
    · next ho => exact ⟨o, rest, rfl, isContinuation_iff.mp ho, h⟩
    · cases h

/-- A character that a step reads is encoded in the octets that it has taken. -/
theorem encodeChar_of_step {o : UInt8} {rest more : Octets} {width : Nat} {c : Char}
    (h : step o rest = (.char width c, more)) : o :: rest = String.utf8EncodeChar c ++ more := by
  rw [step] at h
  split at h
  · next hascii =>
    cases h
    have hlt : o.toNat < 128 := UInt8.lt_iff_toNat_lt.mp hascii
    have hnat : (Char.ofNat o.toNat).toNat = o.toNat := val_toNat_ofNat (.inl (by omega))
    rw [encodeChar_ascii (by omega), hnat, UInt8.ofNat_toNat, List.singleton_append]
  split at h
  · cases h
  next low high count hlead =>
  cases rest with
  | nil => cases h
  | cons o' rest =>
  dsimp only at h
  split at h
  · next hrange =>
    rw [UInt8.le_iff_toNat_le, UInt8.le_iff_toNat_le] at hrange
    obtain ⟨hlow, hhigh, ⟨rfl, ho⟩ | ⟨rfl, ho⟩ | ⟨rfl, ho⟩⟩ := leads_of_lead hlead
    · rw [tail] at h
      cases h
      rw [@encodeChar_two _ o o' (by omega) (by omega) (by omega) (by omega)]
      rfl
    · obtain ⟨o₃, rest, rfl, h₃, h⟩ := tail_eq_char h
      rw [tail] at h
      cases h
      rw [@encodeChar_three _ o o' o₃ (by omega) (by omega) (by omega) (by omega) (by omega)
        (by omega)]
      rfl
    · obtain ⟨o₃, rest, rfl, h₃, h⟩ := tail_eq_char h
      obtain ⟨o₄, rest, rfl, h₄, h⟩ := tail_eq_char h
      rw [tail] at h
      cases h
      rw [@encodeChar_four _ o o' o₃ o₄ (by omega) (by omega) (by omega) (by omega) (by omega)
        (by omega)]
      rfl
  · cases h

end Encoded

/-- A character that is read stands in front of what is read behind it. -/
theorem decodeFrom_cons {offset width : Nat} {o : UInt8} {rest more : Octets} {c : Char}
    {cs : List Char} (hstep : step o rest = (.char width c, more))
    (hmore : decodeFrom (offset + width) more = .ok cs) :
    decodeFrom offset (o :: rest) = .ok (c :: cs) := by
  rw [decodeFrom]
  split
  · next heq _ =>
    rw [hstep] at heq
    cases heq
  · next heq _ =>
    rw [hstep] at heq
    cases heq
    rw [hmore]

/-- The octets of characters are read as these. -/
theorem decodeFrom_flatMap (offset : Nat) (cs : List Char) :
    decodeFrom offset (cs.flatMap String.utf8EncodeChar) = .ok cs := by
  induction cs generalizing offset with
  | nil => rw [List.flatMap_nil, decodeFrom]
  | cons c cs ih =>
    obtain ⟨o, more, hoctets, width, hstep⟩ := readsChar_encode c
    rw [List.flatMap_cons, hoctets, List.cons_append]
    exact decodeFrom_cons (hstep _) (ih _)

/-- A text is read back from its octets. -/
theorem decode_ofText (s : String) : decode (Octets.ofText s) = .ok s := by
  rw [decode, Octets.ofText, decodeFrom_flatMap, Except.map, String.ofList_toList]

/-- What is read as characters is their octets. -/
theorem ofText_of_decodeFrom {offset : Nat} {b : Octets} {cs : List Char}
    (h : decodeFrom offset b = .ok cs) : b = cs.flatMap String.utf8EncodeChar := by
  induction cs generalizing offset b with
  | nil =>
    cases b with
    | nil => rfl
    | cons o rest =>
      rw [decodeFrom] at h
      split at h
      · cases h
      · split at h <;> cases h
  | cons c cs ih =>
    cases b with
    | nil =>
      rw [decodeFrom] at h
      cases h
    | cons o rest =>
      rw [decodeFrom] at h
      split at h
      · cases h
      · next width c' more _ hstep _ =>
        split at h
        · next hmore =>
          cases h
          rw [encodeChar_of_step hstep, ih hmore, List.flatMap_cons]
        · cases h

/-- Octets are read as a text exactly if they are the octets of the text. -/
theorem decode_eq_ok_iff {b : Octets} {s : String} : decode b = .ok s ↔ b = Octets.ofText s := by
  constructor
  · intro h
    rw [decode] at h
    cases hread : decodeFrom 0 b with
    | error e =>
      rw [hread] at h
      cases h
    | ok cs =>
      rw [hread] at h
      cases h
      rw [Octets.ofText, String.toList_ofList]
      exact ofText_of_decodeFrom hread
  · rintro rfl
    exact decode_ofText s

/-- Different texts have different octets. -/
theorem ofText_injective {s s' : String} (h : Octets.ofText s = Octets.ofText s') : s = s' := by
  have hread := decode_ofText s
  rw [h, decode_ofText] at hread
  exact (Except.ok.inj hread).symm

/-- The character that a step is read as by the lenient reader. -/
def Step.lossy : Step → Char
  | .char _ c => c
  | .malformed _ _ => Char.ofNat 0xFFFD

/-- The lenient reader reads each step for itself. -/
theorem decodeLossy_eq (b : Octets) :
    decodeLossy b = String.ofList ((steps b).map Step.lossy) := rfl

/-- The octets of characters are read leniently as these. -/
theorem lossy_flatMap (cs : List Char) :
    (steps (cs.flatMap String.utf8EncodeChar)).map Step.lossy = cs := by
  induction cs with
  | nil => rw [List.flatMap_nil, steps, List.map_nil]
  | cons c cs ih =>
    obtain ⟨o, more, hoctets, width, hstep⟩ := readsChar_encode c
    rw [List.flatMap_cons, hoctets, List.cons_append, steps, hstep, List.map_cons, ih]
    rfl

/-- The lenient reader gives a text back too. -/
theorem decodeLossy_ofText (s : String) : decodeLossy (Octets.ofText s) = s := by
  rw [decodeLossy_eq, Octets.ofText, lossy_flatMap, String.ofList_toList]

end Remittance.Utf8

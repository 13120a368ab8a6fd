import Remittance.Proofs.Payment.Escape
import Remittance.Proofs.Payment.HalfGiven
import Remittance.Proofs.Text.Octets

/-!
# The rules of the memo policy

Which memo a payment has, or why it has none, by three rules in their order: a type and a value come
together, a destination that demands a memo lets the request give none, and one pair of a type and a
value is then read. The main statement `decided_by_rules` says so of every request and every
destination whose pair is not one that escapes the policy: a numeral with too many digits, or a text
that is torn and so has no octets.
-/

set_option autoImplicit false

namespace Remittance.MemoPolicy

/-- Characters are a number of 64 bits in decimal digits. -/
structure IsId (s : String) : Prop where
  nonempty : s.toList ≠ []
  digits : ∀ c ∈ s.toList, c.isDigit = true
  range : Numeral.value s.toList ≤ 2 ^ 64 - 1

/-- A character is a hexadecimal digit of either case. -/
def IsHexDigit (c : Char) : Prop :=
  ('0' ≤ c ∧ c ≤ '9') ∨ ('a' ≤ c ∧ c ≤ 'f') ∨ ('A' ≤ c ∧ c ≤ 'F')

/-- Characters are 64 hexadecimal digits. -/
structure IsHash (s : String) : Prop where
  length : s.toList.length = 64
  digits : ∀ c ∈ s.toList, IsHexDigit c

/-- What a pair of a type and a value is read as. -/
inductive Parsed : Text → Text → Except PaymentCode Memo → Prop where
  | none (value : Text) : Parsed "" value (.ok .none)
  | id (s : String) (n : UInt64) (hid : IsId s) (hnumber : n.toNat = Numeral.value s.toList) :
      Parsed "id" s (.ok (.id n))
  | badId (value : Text) (hbad : ∀ s : String, value = s → ¬ IsId s) :
      Parsed "id" value (.error .invalidMemo)
  | text (s : String) : Parsed "text" s (.ok (.text (Octets.ofText s)))
  | hash (s : String) (b : Block 32) (hhash : IsHash s)
      (hspelt : (Octets.hex b.val).toList = s.toList.map Char.toLower) :
      Parsed "hash" s (.ok (.hash b))
  | badHash (value : Text) (hbad : ∀ s : String, value = s → ¬ IsHash s) :
      Parsed "hash" value (.error .invalidMemo)
  | unsupported (type value : Text) (hother : type ∉ (["", "id", "text", "hash"] : List Text)) :
      Parsed type value (.error .unsupportedMemoType)

/-- What a caller learns: the memo or a code, and neither where something escapes. -/
def outcome? : Except Refusal Memo → Option (Except PaymentCode Memo)
  | .ok m => some (.ok m)
  | .error (.cause c) => some (.error c.code)
  | .error (.escape _) => none

/-- The characters that are read as hexadecimal digits. -/
theorem isSome_hexValue?_iff {c : Char} : (Octets.hexValue? c).isSome ↔ IsHexDigit c := by
  unfold Octets.hexValue? IsHexDigit
  split_ifs with hdigit hlower hupper
  · simp [hdigit]
  · simp [hlower]
  · simp [hupper]
  · simp [hdigit, hlower, hupper]

/-- The octets of a hash are those that are written with its digits. -/
theorem ofHex?_eq_some_iff {s : String} (b : Block 32) :
    Octets.ofHex? s = some b.val ↔ (Octets.hex b.val).toList = s.toList.map Char.toLower :=
  ⟨Octets.toList_hex_of_ofHexDigits?, Octets.ofHexDigits?_of_toList_hex⟩

/-- The octets of a hash are read exactly from 64 hexadecimal digits. -/
theorem exists_ofHex?_iff {s : String} :
    (∃ b : Block 32, Octets.ofHex? s = some b.val) ↔ IsHash s := by
  constructor
  · rintro ⟨b, hread⟩
    obtain ⟨hlength, hdigits⟩ := Octets.digits_of_ofHexDigits? hread
    refine ⟨by rw [hlength, b.property], ?_⟩
    intro c hc
    exact isSome_hexValue?_iff.mp (hdigits c hc)
  · intro hhash
    obtain ⟨b, hread, hcount⟩ := Octets.exists_ofHexDigits? (n := 32) hhash.length
      fun c hc => isSome_hexValue?_iff.mpr (hhash.digits c hc)
    exact ⟨⟨b, hcount⟩, hread⟩

/-- Digits of a hash are parsed as the hash. -/
theorem parseHash_of_ofHex? {s : String} {b : Block 32} (hread : Octets.ofHex? s = some b.val) :
    parseHash s = .ok (.hash b) := by
  rw [parseHash, Text.string?_ofString, Option.bind_some, hread]
  exact dif_pos b.property

/-- What is no hash is refused as one. -/
theorem parseHash_of_not_isHash {value : Text} (hbad : ∀ s : String, value = s → ¬ IsHash s) :
    parseHash value = .error (.cause (.memoHash value)) := by
  rw [parseHash]
  split
  · next octets hread =>
    obtain ⟨s, hs, hdigits⟩ := Option.bind_eq_some_iff.mp hread
    split
    · next hlength =>
      exact absurd (exists_ofHex?_iff.mp ⟨⟨octets, hlength⟩, hdigits⟩)
        (hbad s (Text.string?_eq_some_iff.mp hs))
    · rfl
  · rfl

/-- Digits of a number are parsed as the number. -/
theorem parseId_of_isId {s : String} (hid : IsId s) (hshort : s.toList.length ≤ Numeral.maxDigits) :
    parseId s = .ok (.id (UInt64.ofNat (Numeral.value s.toList))) := by
  rw [parseId, Text.string?_ofString]
  dsimp only
  rw [if_pos (Numeral.isNumeral_iff.mpr ⟨hid.nonempty, hid.digits⟩), Numeral.read, if_pos hshort]
  exact if_pos hid.range

/-- What is no number is refused as one, unless it escapes. -/
theorem parseId_of_not_isId {value : Text} (hbad : ∀ s : String, value = s → ¬ IsId s)
    (hcaught : ∀ e, ¬ Escapes "id" value e) : parseId value = .error (.cause (.memoId value)) := by
  unfold parseId
  split
  · next s hs =>
    obtain rfl := Text.string?_eq_some_iff.mp hs
    split_ifs with hnumeral
    · have hshort : s.toList.length ≤ Numeral.maxDigits := by
        by_contra hlong
        exact hcaught _ (.digits s hnumeral (Nat.lt_of_not_le hlong))
      obtain ⟨hne, hdigits⟩ := Numeral.isNumeral_iff.mp hnumeral
      rw [Numeral.read, if_pos hshort]
      apply if_neg
      intro hrange
      exact hbad s rfl ⟨hne, hdigits, hrange⟩
    · rfl
  · rfl

/-- A text is parsed as its octets. -/
theorem parseText_ofString (s : String) : parseText s = .ok (.text (Octets.ofText s)) := by
  rw [parseText, Text.octets, Text.string_ofString]
  rfl

/-- What is left of the rules for one pair, where the type is that of a number. -/
theorem outcome?_parseId_iff {value : Text} {r : Except PaymentCode Memo}
    (hcaught : ∀ e, ¬ Escapes "id" value e) :
    outcome? (parseId value) = some r ↔ Parsed "id" value r := by
  have hshort {s : String} (hid : IsId s) (hs : value = s) :
      s.toList.length ≤ Numeral.maxDigits := by
    subst hs
    by_contra hlong
    exact hcaught _ (.digits s (Numeral.isNumeral_iff.mpr ⟨hid.nonempty, hid.digits⟩)
      (Nat.lt_of_not_le hlong))
  constructor
  · intro hr
    by_cases hvalue : ∃ s : String, value = s ∧ IsId s
    · obtain ⟨s, rfl, hid⟩ := hvalue
      rw [parseId_of_isId hid (hshort hid rfl)] at hr
      cases hr
      have hlt : Numeral.value s.toList < 2 ^ 64 := by
        have hrange := hid.range
        omega
      exact .id s _ hid (UInt64.toNat_ofNat_of_lt' hlt)
    · have hbad : ∀ s : String, value = s → ¬ IsId s := fun s hs hid => hvalue ⟨s, hs, hid⟩
      rw [parseId_of_not_isId hbad hcaught] at hr
      cases hr
      exact .badId value hbad
  · intro hparsed
    generalize htype : ("id" : Text) = type at hparsed
    cases hparsed with
    | none => cases htype
    | id s n hid hnumber =>
      rw [parseId_of_isId hid (hshort hid rfl), ← hnumber, UInt64.ofNat_toNat]
      rfl
    | badId _ hbad =>
      rw [parseId_of_not_isId hbad hcaught]
      rfl
    | text s => cases htype
    | hash s b hhash hspelt => cases htype
    | badHash _ hbad => cases htype
    | unsupported _ _ hother =>
      subst htype
      simp at hother

/-- What is left of the rules for one pair, where the type is that of a hash. -/
theorem outcome?_parseHash_iff {value : Text} {r : Except PaymentCode Memo} :
    outcome? (parseHash value) = some r ↔ Parsed "hash" value r := by
  constructor
  · intro hr
    by_cases hvalue : ∃ s : String, value = s ∧ IsHash s
    · obtain ⟨s, rfl, hhash⟩ := hvalue
      obtain ⟨b, hread⟩ := exists_ofHex?_iff.mpr hhash
      rw [parseHash_of_ofHex? hread] at hr
      cases hr
      exact .hash s b hhash ((ofHex?_eq_some_iff b).mp hread)
    · have hbad : ∀ s : String, value = s → ¬ IsHash s := fun s hs hhash => hvalue ⟨s, hs, hhash⟩
      rw [parseHash_of_not_isHash hbad] at hr
      cases hr
      exact .badHash value hbad
  · intro hparsed
    generalize htype : ("hash" : Text) = type at hparsed
    cases hparsed with
    | none => cases htype
    | id s n hid hnumber => cases htype
    | badId _ hbad => cases htype
    | text s => cases htype
    | hash s b hhash hspelt =>
      rw [parseHash_of_ofHex? ((ofHex?_eq_some_iff b).mpr hspelt)]
      rfl
    | badHash _ hbad =>
      rw [parseHash_of_not_isHash hbad]
      rfl
    | unsupported _ _ hother =>
      subst htype
      simp at hother

/-- A pair is read as the rules say, unless it escapes. -/
theorem outcome?_parse_iff {type value : Text} {r : Except PaymentCode Memo}
    (hcaught : ∀ e, ¬ Escapes type value e) :
    outcome? (parse type value) = some r ↔ Parsed type value r := by
  constructor
  · intro hr
    unfold parse at hr
    split_ifs at hr with hnone htype htext hhash
    · cases hr
      exact hnone ▸ .none value
    · subst htype
      exact (outcome?_parseId_iff hcaught).mp hr
    · subst htext
      obtain ⟨s, rfl⟩ | ⟨e, htorn⟩ := value.eq_ofString_or_torn
      · rw [parseText_ofString] at hr
        cases hr
        exact .text s
      · exact absurd (.torn value e htorn) (hcaught _)
    · subst hhash
      exact outcome?_parseHash_iff.mp hr
    · cases hr
      apply Parsed.unsupported
      simp [hnone, htype, htext, hhash]
  · intro hparsed
    cases hparsed with
    | none => rfl
    | id s n hid hnumber => exact (outcome?_parseId_iff hcaught).mpr (.id s n hid hnumber)
    | badId _ hbad => exact (outcome?_parseId_iff hcaught).mpr (.badId value hbad)
    | text s => exact congrArg outcome? (parseText_ofString s)
    | hash s b hhash hspelt => exact outcome?_parseHash_iff.mpr (.hash s b hhash hspelt)
    | badHash _ hbad => exact outcome?_parseHash_iff.mpr (.badHash value hbad)
    | unsupported _ _ hother =>
      simp only [List.mem_cons, List.not_mem_nil, or_false, not_or] at hother
      obtain ⟨hnone, htype, htext, hhash⟩ := hother
      rw [parse, if_neg hnone, if_neg htype, if_neg htext, if_neg hhash]
      rfl

/-- A pair that does not escape is answered. -/
theorem exists_outcome?_parse {type value : Text} (hcaught : ∀ e, ¬ Escapes type value e) :
    ∃ r, outcome? (parse type value) = some r := by
  cases hreply : parse type value with
  | ok m => exact ⟨_, rfl⟩
  | error refusal =>
    cases refusal with
    | cause c => exact ⟨_, rfl⟩
    | escape e => exact absurd (parse_eq_escape_iff.mp hreply) (hcaught e)

/-- What the memo policy makes of a request and a destination. -/
structure Decided (request : PaymentRequest) (d : Destination) (reply : Except Refusal Memo) :
    Prop where
  answered : ∃ r, outcome? reply = some r
  /-- The type and the value come together or not at all. -/
  half : outcome? reply = some (.error .memoParameterMissing) ↔
    ¬ (request.memoType = "" ↔ request.memo = "")
  /-- The request gives no memo where the destination demands one. -/
  conflict : outcome? reply = some (.error .memoConflict) ↔
    request.memoType ≠ "" ∧ request.memo ≠ "" ∧ d.memoType ≠ none
  /-- One pair decides everything else. -/
  parsed : (request.memoType = "" ↔ request.memo = "") →
    (d.memoType ≠ none → request.memoType = "") →
    ∀ r, outcome? reply = some r ↔ Parsed (request.memoPair d).1 (request.memoPair d).2 r
  /-- The memo that a request gives is the one that it gets. -/
  kept : ∀ m, reply = .ok m → request.memoType ≠ "" →
    d.memoType = none ∧ Parsed request.memoType request.memo (.ok m)

section Rules

variable {request : PaymentRequest} {d : Destination}

/-- Type and value come together exactly if both are empty or none is. -/
theorem together_iff : (request.memoType = "" ↔ request.memo = "") ↔
    request.memoType.isEmpty = request.memo.isEmpty := by
  rw [Bool.eq_iff_iff, Text.isEmpty_iff, Text.isEmpty_iff]

/-- A pair that is given by halves is decided by the first rule. -/
theorem decided_of_half (hhalf : ¬ (request.memoType = "" ↔ request.memo = "")) :
    Decided request d (MemoPolicy.decide request.memoType request.memo d) := by
  rw [decide_of_half fun heq => hhalf (together_iff.mpr heq)]
  refine ⟨⟨_, rfl⟩, ⟨fun _ => hhalf, fun _ => rfl⟩, ⟨nofun, ?_⟩,
    fun hboth => absurd hboth hhalf, nofun⟩
  rintro ⟨htype, hmemo, -⟩
  exact absurd (iff_of_false htype hmemo) hhalf

/-- A pair that is given where one is demanded is decided by the second rule. -/
theorem decided_of_conflict (hboth : request.memoType = "" ↔ request.memo = "")
    (hdemands : d.memoType ≠ none) (hgiven : request.memoType ≠ "") :
    Decided request d (MemoPolicy.decide request.memoType request.memo d) := by
  obtain ⟨demanded, hdemand⟩ := Option.ne_none_iff_exists'.mp hdemands
  have hdecide : MemoPolicy.decide request.memoType request.memo d =
      .error (.cause .memoConflict) := by
    rw [MemoPolicy.decide, if_neg (by simp [together_iff.mp hboth]), hdemand]
    apply if_neg
    rwa [Text.isEmpty_iff]
  rw [hdecide]
  refine ⟨⟨_, rfl⟩, ⟨nofun, fun hhalf => absurd hboth hhalf⟩, ⟨fun _ => ?_, fun _ => rfl⟩,
    fun _ hsole => absurd (hsole hdemands) hgiven, nofun⟩
  exact ⟨hgiven, fun hmemo => hgiven (hboth.mpr hmemo), hdemands⟩

/-- No pair is refused for the reasons that come before it is read. -/
theorem Parsed.ne_of_error {type value : Text} {c : PaymentCode}
    (hparsed : Parsed type value (.error c)) : c ≠ .memoParameterMissing ∧ c ≠ .memoConflict := by
  cases hparsed <;> exact ⟨nofun, nofun⟩

/-- What is left to the pair that is read. -/
theorem decided_of_parsed {reply : Except Refusal Memo}
    (hboth : request.memoType = "" ↔ request.memo = "")
    (hsole : d.memoType ≠ none → request.memoType = "")
    (hanswered : ∃ r, outcome? reply = some r)
    (hparsed : ∀ r, outcome? reply = some r ↔
      Parsed (request.memoPair d).1 (request.memoPair d).2 r) :
    Decided request d reply where
  answered := hanswered
  half := by
    refine ⟨fun hmissing => ?_, fun hhalf => absurd hboth hhalf⟩
    exact absurd rfl ((hparsed _).mp hmissing).ne_of_error.1
  conflict := by
    refine ⟨fun hconflict => ?_, fun ⟨hgiven, _, hdemands⟩ => absurd (hsole hdemands) hgiven⟩
    exact absurd rfl ((hparsed _).mp hconflict).ne_of_error.2
  parsed _ _ := hparsed
  kept := by
    intro m hm hgiven
    have hnone : d.memoType = none := by
      by_contra hdemands
      exact hgiven (hsole hdemands)
    have hread := (hparsed (.ok m)).mp (by rw [hm]; rfl)
    rw [PaymentRequest.memoPair, hnone] at hread
    exact ⟨hnone, hread⟩

end Rules

/-- The memo policy decides by its rules, unless the memo escapes it. It escapes exactly where the
pair that is left is a numeral with too many digits or a torn text. -/
theorem decided_by_rules (request : PaymentRequest) (d : Destination) :
    ((∀ escape, ¬ request.MemoEscapes d escape) →
      Decided request d (MemoPolicy.decide request.memoType request.memo d)) ∧
    ∀ escape, MemoPolicy.decide request.memoType request.memo d = .error (.escape escape) ↔
      request.MemoEscapes d escape := by
  refine ⟨fun hcaught => ?_, fun escape => decide_eq_escape_iff⟩
  by_cases hboth : request.memoType = "" ↔ request.memo = ""
  · by_cases hsole : d.memoType ≠ none → request.memoType = ""
    · have hpaired := together_iff.mp hboth
      have halone : d.mandatesMemo = true → request.memoType.isEmpty = true := by
        intro hdemands
        rw [Text.isEmpty_iff]
        exact hsole (Option.isSome_iff_ne_none.mp hdemands)
      have hpair : ∀ e, ¬ Escapes (request.memoPair d).1 (request.memoPair d).2 e :=
        fun e hescapes => hcaught e ⟨hpaired, halone, hescapes⟩
      rw [decide_eq_parse hpaired halone]
      apply decided_of_parsed hboth hsole (exists_outcome?_parse hpair)
      exact fun r => outcome?_parse_iff hpair
    · obtain ⟨hdemands, hgiven⟩ := Classical.not_imp.mp hsole
      exact decided_of_conflict hboth hdemands hgiven
  · exact decided_of_half hboth

/-- A short pair of whole texts does not escape. -/
theorem not_memoEscapes {request : PaymentRequest} {d : Destination} {s : String}
    (hpair : (request.memoPair d).2 = s) (hshort : s.toList.length ≤ Numeral.maxDigits)
    (escape : Escape) : ¬ request.MemoEscapes d escape := by
  rintro ⟨-, -, hescapes⟩
  rw [hpair] at hescapes
  generalize (request.memoPair d).1 = type at hescapes
  generalize htext : (s : Text) = value at hescapes
  cases hescapes with
  | digits s' hnumeral hlong =>
    rw [Text.ofString_inj] at htext
    subst htext
    exact Nat.not_lt.mpr hshort hlong
  | torn value e htorn =>
    rw [← htext, Text.string_ofString] at htorn
    cases htorn

/-- A number with zeros in front is the memo of its request, one letter spoils the hash that a
destination demands, and with both there is a conflict. A text that is half a pair escapes. -/
theorem number_and_spoilt_hash : let plain : Destination := { accountId := "G" }
    let demanding : Destination :=
      { accountId := "G", memoType := ("hash" : Text), memo := ("0g" : Text) }
    outcome? (MemoPolicy.decide "id" "007" plain) = some (.ok (.id 7)) ∧
    outcome? (MemoPolicy.decide "" "" demanding) = some (.error .invalidMemo) ∧
    outcome? (MemoPolicy.decide "id" "007" demanding) = some (.error .memoConflict) ∧
    MemoPolicy.decide "text" Pipeline.halfText plain = .error (.escape (.torn ⟨0, 0, 1⟩)) := by
  intro plain demanding
  have hrules (type value : Text) (d : Destination) (s : String)
      (hpair : (PaymentRequest.memoPair { memoType := type, memo := value } d).2 = s)
      (hshort : s.toList.length ≤ Numeral.maxDigits) :=
    (decided_by_rules { memoType := type, memo := value } d).1 (not_memoEscapes hpair hshort)
  refine ⟨?_, ?_, ?_, ?_⟩
  · refine ((hrules "id" "007" plain "007" rfl (by decide)).parsed (by decide) nofun _).mpr ?_
    exact .id "007" 7 ⟨by simp, by simp [Char.isDigit], by decide⟩ (by decide)
  · refine ((hrules "" "" demanding "0g" rfl (by decide)).parsed (by decide)
      (fun _ => rfl) _).mpr ?_
    refine .badHash "0g" fun s hs hhash => ?_
    rw [Text.ofString_inj] at hs
    exact absurd (hs ▸ hhash.length) (by decide)
  · exact (hrules "id" "007" demanding "0g" rfl (by decide)).conflict.mpr
      ⟨by decide, by decide, nofun⟩
  · refine ((decided_by_rules { memoType := "text", memo := Pipeline.halfText } plain).2 _).mpr ?_
    exact ⟨rfl, nofun, Pipeline.halfText_escapes⟩

/-- Not every pair with few digits is decided by the rules: half a pair, as a text, is not. -/
theorem not_always_by_rules :
    ¬ ∀ (request : PaymentRequest) (d : Destination),
      (∀ s : String, (request.memoPair d).2 = s → s.toList.length ≤ Numeral.maxDigits) →
        Decided request d (MemoPolicy.decide request.memoType request.memo d) := by
  intro halways
  have hescapes : PaymentRequest.MemoEscapes { memoType := "text", memo := Pipeline.halfText }
      { accountId := "G" } (.torn ⟨0, 0, 1⟩) := ⟨rfl, nofun, Pipeline.halfText_escapes⟩
  have hdecided := halways { memoType := "text", memo := Pipeline.halfText } { accountId := "G" }
    fun s hs => absurd List.mem_cons_self (Text.whole_iff.mp ⟨s, hs⟩ 0)
  obtain ⟨r, hr⟩ := hdecided.answered
  rw [decide_eq_escape_iff.mpr hescapes] at hr
  cases hr

end Remittance.MemoPolicy

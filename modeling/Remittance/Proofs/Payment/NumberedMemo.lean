import Remittance.Proofs.Payment.MandatedMemo
import Remittance.Proofs.Payment.MemoRules
import Remittance.Proofs.Service.Resolution

/-!
# Ids that are supplied as numbers

A record may supply an id as a number. It passes through three readers: the shape of a record lets
numbers with an integer as their value pass, the number becomes a text, and the memo policy reads
this text. An integer that is written as one, with its sign and digits, comes through as that id if
it has 64 bits. A number with a point or an exponent keeps it in its text, and so is refused even if
its value is an integer. Main statement: `number_supplied`.
-/

set_option autoImplicit false

namespace Remittance

/-- The value under a name is that of a member. -/
theorem Json.Members.mem_of_get? {members : Members} {name : String} {value : Json}
    (h : members.get? name = some value) : ∃ m ∈ members, m.2 = value := by
  obtain ⟨m, hfind, rfl⟩ := Option.map_eq_some_iff.mp h
  exact ⟨m, List.mem_of_find?_eq_some hfind, rfl⟩

namespace MemoPolicy

/-- The text of an integer is an id exactly if the integer has 64 bits. -/
theorem isId_int_iff {n : Int} :
    IsId (Numeral.ofInt n) ↔ 0 ≤ n ∧ n ≤ 2 ^ 64 - 1 := by
  constructor
  · intro hid
    have hvalue : n = Numeral.value (Numeral.ofInt n).toList :=
      value_of_int rfl (Numeral.isNumeral_iff.mpr ⟨hid.nonempty, hid.digits⟩)
    have hrange := hid.range
    omega
  · rintro ⟨hlow, hhigh⟩
    obtain ⟨n, rfl⟩ := Int.eq_ofNat_of_zero_le hlow
    have htext : (Numeral.ofInt n).toList = Numeral.digits n :=
      String.toList_ofList
    constructor
    case nonempty =>
      rw [htext]
      exact List.ne_nil_of_length_pos (Numeral.length_digits_pos n)
    case digits =>
      rw [htext]
      exact fun c => Numeral.isDigit_of_mem_digits
    case range =>
      rw [htext, Numeral.value_digits]
      omega

/-- What becomes of a number under the type of an id. -/
inductive Honoured : Json → Except PaymentCode Memo → Prop where
  | integer (n : Int) (id : UInt64) (hid : n = id.toNat) : Honoured (.int n) (.ok (.id id))
  | outside (n : Int) (hrange : n < 0 ∨ 2 ^ 64 ≤ n) : Honoured (.int n) (.error .invalidMemo)
  | real (x : Binary64) : Honoured (.real x) (.error .invalidMemo)

/-- An integer that was read has no more digits than are read again. -/
theorem length_int_le {room : Nat} {n : Int} (hreadable : (Json.int n).Readable room)
    (hnumeral : Numeral.isNumeral (Numeral.ofInt n).toList = true) :
    (Numeral.ofInt n).toList.length ≤ Numeral.maxDigits := by
  have hvalue : n = Numeral.value (Numeral.ofInt n).toList := value_of_int rfl hnumeral
  cases hreadable with
  | int _ hlength =>
    cases n with
    | ofNat n => rwa [Numeral.ofInt, String.toList_ofList]
    | negSucc n => cases hvalue

/-- The text of a number that was read does not escape under the type of an id. -/
theorem not_escapes_number {room : Nat} {value : Json} (hreadable : value.Readable room)
    (hnumber : (∃ n, value = .int n) ∨ ∃ x, value = .real x) (e : Escape) :
    ¬ Escapes "id" value.plain e := by
  generalize htext : value.plain = text
  rintro ⟨s, hnumeral, hlong⟩
  obtain ⟨n, rfl⟩ | ⟨x, rfl⟩ := hnumber
  · obtain rfl : Numeral.ofInt n = s := Text.ofString_inj.mp htext
    exact Nat.not_lt.mpr (length_int_le hreadable hnumeral) hlong
  · exact not_isNumeral_real htext hnumeral

/-- A number that was read is parsed under the type of an id as it is honoured. -/
theorem parse_number {room : Nat} {value : Json} (hreadable : value.Readable room)
    (hnumber : (∃ n, value = .int n) ∨ ∃ x, value = .real x) :
    ∃ r, outcome? (parse "id" value.plain) = some r ∧ Honoured value r := by
  have hcaught := not_escapes_number hreadable hnumber
  obtain ⟨n, rfl⟩ | ⟨x, rfl⟩ := hnumber
  · by_cases hid : IsId (Numeral.ofInt n)
    · obtain ⟨hlow, hhigh⟩ := isId_int_iff.mp hid
      have hvalue : n = Numeral.value (Numeral.ofInt n).toList :=
        value_of_int rfl (Numeral.isNumeral_iff.mpr ⟨hid.nonempty, hid.digits⟩)
      have hlt : Numeral.value (Numeral.ofInt n).toList < 2 ^ 64 := by omega
      have hnumber := UInt64.toNat_ofNat_of_lt' hlt
      refine ⟨_, (outcome?_parse_iff hcaught).mpr (.id _ _ hid hnumber), .integer n _ ?_⟩
      rw [hnumber]
      exact hvalue
    · refine ⟨_, (outcome?_parse_iff hcaught).mpr (.badId _ fun s hs => ?_), .outside n ?_⟩
      · obtain rfl : Numeral.ofInt n = s := Text.ofString_inj.mp hs
        exact hid
      · rw [isId_int_iff] at hid
        omega
  · refine ⟨_, (outcome?_parse_iff hcaught).mpr (.badId _ fun s hs hid => ?_), .real x⟩
    exact not_isNumeral_real hs (Numeral.isNumeral_iff.mpr ⟨hid.nonempty, hid.digits⟩)

end MemoPolicy

namespace NameServer

open MemoPolicy (Honoured)

variable {url : Option String} {identifier : Text} {request : Http.Request} {r : Response}
  {members : Json.Members} {type : Text} {value : Json}

/-- The members of a record are values that can be read. -/
theorem Record.readable (hrecord : Record r members) {name : String}
    (hvalue : members.get? name = some value) : ∃ room, value.Readable room := by
  obtain ⟨s, -, before, inner, after, -, hspells, -⟩ := hrecord.body
  obtain ⟨m, hm, rfl⟩ := Json.Members.mem_of_get? hvalue
  generalize r.room.reading = room at hspells
  cases hspells.readable with
  | object _ _ hvalues => exact ⟨_, hvalues m hm⟩

/-- Without a memo of the request, the memo that a record demands is parsed from its text. -/
theorem decide_of_demands (hdemands : Demands members type value) :
    MemoPolicy.decide "" "" (destination members) = MemoPolicy.parse type value.plain := by
  have hparse := @MemoPolicy.decide_eq_parse {} (destination members) rfl (fun _ => rfl)
  rwa [Pipeline.memoPair_of_demands hdemands] at hparse

/-- An address that has a record is resolved as the record says. -/
theorem resolve_of_record {σ : Type} (answer : σ → Http.Request → Reply Response × σ) (s : σ)
    (hasks : Asks url identifier request) (hresponse : (answer s request).1 = .value r)
    (hrecord : Record r members) :
    ((resolve url identifier).run answer s).1 = .value (destination members) := by
  rw [resolve_of_asks hasks]
  show ((answer s request).1.andThen fun r => (read r).mapError (.ofUnread .naming)) = _
  rw [hresponse]
  exact answered_eq_value_iff.mpr (read_eq_ok_iff.mpr ⟨members, hrecord, rfl⟩)

/-- Without a memo of the request, a number that a record supplies as an id is honoured. -/
theorem Record.honours (hrecord : Record r members)
    (htype : members.get? "memo_type" = some (.text "id"))
    (hmemo : members.get? "memo" = some value)
    (hnumber : (∃ n, value = .int n) ∨ ∃ x, value = .real x) :
    ∃ outcome, MemoPolicy.outcome? (MemoPolicy.decide "" "" (destination members)) =
      some outcome ∧ Honoured value outcome := by
  have hsupplied : value ≠ .null := by
    rintro rfl
    simp at hnumber
  rw [decide_of_demands ⟨htype, by simp, hmemo, hsupplied⟩]
  obtain ⟨room, hreadable⟩ := hrecord.readable hmemo
  exact MemoPolicy.parse_number hreadable hnumber

/-- An address whose record supplies a number as an id is resolved, and without a memo of the
request the number is honoured: an integer of 64 bits is the id, any other number is refused. -/
theorem number_supplied {σ : Type} (answer : σ → Http.Request → Reply Response × σ) (s : σ)
    (hasks : Asks url identifier request) (hresponse : (answer s request).1 = .value r)
    (hrecord : Record r members) (htype : members.get? "memo_type" = some (.text "id"))
    (hmemo : members.get? "memo" = some value)
    (hnumber : (∃ n, value = .int n) ∨ ∃ x, value = .real x) :
    ∃ d outcome, ((resolve url identifier).run answer s).1 = .value d ∧
      MemoPolicy.outcome? (MemoPolicy.decide "" "" d) = some outcome ∧ Honoured value outcome := by
  obtain ⟨outcome, hdecide, hhonoured⟩ := hrecord.honours htype hmemo hnumber
  exact ⟨_, outcome, resolve_of_record answer s hasks hresponse hrecord, hdecide, hhonoured⟩

/-- The value of a number is an integer. -/
inductive HasValue : Json → Int → Prop where
  | integer (n : Int) : HasValue (.int n) n
  | whole (x : Binary64) (n : Int) (hwhole : x.toInt? = some n) : HasValue (.real x) n

/-- The members of a record that supplies an id. -/
def idRecord (value : Json) : Json.Members :=
  [("account_id", .text "G"), ("memo_type", .text "id"), ("memo", value)]

/-- Such members are those of a record, where the memo is a number that can be read. -/
theorem record_idRecord {n : Int} (hreadable : value.Readable 99) (hvalue : HasValue value n) :
    Record (.success (.object (idRecord value))) (idRecord value) := by
  constructor
  case success => rfl
  case body =>
    apply Response.holds_iff.mpr
    refine Response.json_success (.object _ ?_ ?_) ?_
    · simp [idRecord]
    · simp [idRecord, hreadable, Json.Readable.text]
    · have hwhole : value.Whole := by
        cases hvalue <;> simp [Json.Whole, Json.texts]
      simp [idRecord, Json.whole_object_iff, Text.whole_ofString, hwhole]
  case shape =>
    rw [describes_iff_isRecord]
    constructor
    case account => exact ⟨"G", by simp [idRecord, Json.Members.get?], by decide⟩
    case memoType => simp [idRecord, Json.Members.get?]
    case memo =>
      intro value' hvalue'
      obtain rfl : value = value' := by simpa [idRecord, Json.Members.get?] using hvalue'
      cases hvalue with
      | integer => exact .inr (.inr (.inl ⟨n, rfl⟩))
      | whole x _ hwhole => exact .inr (.inr (.inr ⟨x, n, rfl, hwhole⟩))

/-- That address is asked for. -/
theorem asks_bob : Asks (some "https://names") "bob*example.org"
    (.get "https://names" (some [("q", "bob*example.org"), ("type", "name")])) :=
  ⟨by decide +kernel, isAddress_iff.mp (by decide), _, rfl, rfl⟩

/-- The largest number of 64 bits is an id. -/
theorem largest_id_supplied :
    Record (.success (.object (idRecord (.int (2 ^ 64 - 1))))) (idRecord (.int (2 ^ 64 - 1))) ∧
      ∃ d, ((resolve (some "https://names") "bob*example.org").run
          (fun s _ => (.value (.success (.object (idRecord (.int (2 ^ 64 - 1))))), s)) ()).1 =
          .value d ∧
        MemoPolicy.outcome? (MemoPolicy.decide "" "" d) =
          some (.ok (.id 18446744073709551615)) := by
  have hrecord := record_idRecord (.int (2 ^ 64 - 1) (by decide)) (.integer (2 ^ 64 - 1))
  obtain ⟨d, outcome, hresolve, hdecide, hhonoured⟩ := number_supplied
    (fun s _ => (.value (.success (.object (idRecord (.int (2 ^ 64 - 1))))), s)) () asks_bob rfl
    hrecord (by simp [idRecord, Json.Members.get?]) (by simp [idRecord, Json.Members.get?]; rfl)
    (.inl ⟨_, rfl⟩)
  refine ⟨hrecord, d, hresolve, ?_⟩
  cases hhonoured with
  | integer _ id hid =>
    have hsame : id = 18446744073709551615 := UInt64.toNat_inj.mp (by simp; omega)
    rwa [hsame] at hdecide
  | outside _ hrange => omega

/-- The floating-point number 42. -/
def wholeNumber : Binary64 := .ofDecimal false 420 3 (-1)

/-- Not every number with an integer of 64 bits as its value is an id: 42.0 is refused. -/
theorem not_always_honoured : ¬ ∀ (r : Response) (members : Json.Members) (value : Json) (n : Int),
    Record r members → members.get? "memo_type" = some (.text "id") →
    members.get? "memo" = some value → HasValue value n → 0 ≤ n → n ≤ 2 ^ 64 - 1 →
    ∃ d, ((resolve (some "https://names") "bob*example.org").run
        (fun s _ => (.value r, s)) ()).1 = .value d ∧
      MemoPolicy.outcome? (MemoPolicy.decide "" "" d) =
        some (.ok (.id (UInt64.ofNat n.toNat))) := by
  intro halways
  have hvalue : HasValue (.real wholeNumber) 42 := .whole _ _ (by decide +kernel)
  have hreadable : (Json.real wholeNumber).Readable 99 :=
    .real _ (Binary64.isNumber_ofDecimal ..)
  have hrecord := record_idRecord hreadable hvalue
  have htype : (idRecord (.real wholeNumber)).get? "memo_type" = some (.text "id") := by
    simp [idRecord, Json.Members.get?]
  have hmemo : (idRecord (.real wholeNumber)).get? "memo" = some (.real wholeNumber) := by
    simp [idRecord, Json.Members.get?]
  obtain ⟨d, hresolve, hdecide⟩ :=
    halways _ _ _ _ hrecord htype hmemo hvalue (by decide) (by decide)
  rw [resolve_of_record (fun s _ => (.value (.success (.object (idRecord (.real wholeNumber)))), s))
    () asks_bob rfl hrecord] at hresolve
  cases hresolve
  obtain ⟨outcome, hrefused, hhonoured⟩ := hrecord.honours htype hmemo (.inr ⟨_, rfl⟩)
  cases hhonoured
  cases hdecide.symm.trans hrefused

end NameServer

end Remittance

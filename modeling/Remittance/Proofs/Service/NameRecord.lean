import Remittance.Proofs.Service.Reading
import Remittance.Service.NameServer

/-!
# What the server of names says

A response is the record of a name if it is a success whose body holds an object of the shape for
records. The record gives an account and, where a type that is not empty stands in it, the memo that
payments to the account must carry. A memo without such a type is not demanded.
-/

set_option autoImplicit false

namespace Remittance.NameServer

/-- A response is the record of a name, with these members. -/
structure Record (r : Response) (members : Json.Members) : Prop where
  success : r.status = 200
  body : r.Holds r.Within members
  shape : recordShape.Describes members

/-- Members are those of a record. -/
structure IsRecord (members : Json.Members) : Prop where
  account : ∃ id, members.get? "account_id" = some (.text id) ∧ id ≠ ""
  memoType : ∀ value, members.get? "memo_type" = some value →
    value = .null ∨ ∃ type, value = .text type
  memo : ∀ value, members.get? "memo" = some value →
    value = .null ∨ (∃ s, value = .text s) ∨ (∃ n, value = .int n) ∨
      ∃ x n, value = .real x ∧ x.toInt? = some n

/-- Members demand a memo: there is a type, which is not empty, and a value. -/
structure Demands (members : Json.Members) (type : Text) (value : Json) : Prop where
  typed : members.get? "memo_type" = some (.text type)
  filled : type ≠ ""
  memo : members.get? "memo" = some value
  supplied : value ≠ .null

/-- Members give no memo a type: there is none, or an empty one. -/
def Untyped (members : Json.Members) : Prop :=
  ∀ type, members.get? "memo_type" = some (.text type) → type = ""

variable {r : Response} {members : Json.Members} {type : Text} {value : Json}

/-- A destination is read from a response exactly if the response is a record that describes it. -/
theorem read_eq_ok_iff {d : Destination} :
    read r = .ok d ↔ ∃ members, Record r members ∧ d = destination members := by
  unfold read
  split
  · next hother =>
    refine iff_of_false nofun ?_
    rintro ⟨members, hrecord, -⟩
    exact hother hrecord.success
  · next hstatus =>
    have hsuccess : r.status = 200 := Decidable.not_not.mp hstatus
    have hrecord (members : Json.Members) :
        r.members recordShape = .ok members ↔ Record r members := by
      rw [Response.members_eq_ok_iff]
      exact ⟨fun h => ⟨hsuccess, h.1, h.2⟩, fun h => ⟨h.body, h.shape⟩⟩
    simp only [← hrecord]
    cases r.members recordShape with
    | error e => exact iff_of_false nofun (by rintro ⟨members, ⟨⟩, -⟩)
    | ok own =>
      rw [Except.ok.injEq]
      constructor
      · rintro rfl
        exact ⟨own, rfl, rfl⟩
      · rintro ⟨members, heq, rfl⟩
        cases heq
        rfl

/-- The type of a memo is null or a text. -/
theorem allows_type_iff : ({ name := "memo_type", kinds := [.text, .null] } :
    Json.MemberRule).Allows value ↔ value = .null ∨ ∃ type, value = .text type := by
  constructor
  · intro hallows
    obtain ⟨kind, hkind, his⟩ := hallows.kind
    cases his with
    | text type => exact .inr ⟨type, rfl⟩
    | null => exact .inl rfl
    | integer => simp at hkind
    | whole => simp at hkind
    | object => simp at hkind
  · intro hvalue
    refine ⟨?_, nofun⟩
    obtain rfl | ⟨type, rfl⟩ := hvalue
    · exact ⟨.null, by simp, .null⟩
    · exact ⟨.text, by simp, .text type⟩

/-- A memo is null, a text or a number without fraction. -/
theorem allows_memo_iff : ({ name := "memo", kinds := [.text, .integer, .null] } :
    Json.MemberRule).Allows value ↔ value = .null ∨ (∃ s, value = .text s) ∨
      (∃ n, value = .int n) ∨ ∃ x n, value = .real x ∧ x.toInt? = some n := by
  constructor
  · intro hallows
    obtain ⟨kind, hkind, his⟩ := hallows.kind
    cases his with
    | text s => exact .inr (.inl ⟨s, rfl⟩)
    | null => exact .inl rfl
    | integer n => exact .inr (.inr (.inl ⟨n, rfl⟩))
    | whole x n hwhole => exact .inr (.inr (.inr ⟨x, n, rfl, hwhole⟩))
    | object => simp at hkind
  · intro hvalue
    refine ⟨?_, nofun⟩
    obtain rfl | ⟨s, rfl⟩ | ⟨n, rfl⟩ | ⟨x, n, rfl, hwhole⟩ := hvalue
    · exact ⟨.null, by simp, .null⟩
    · exact ⟨.text, by simp, .text s⟩
    · exact ⟨.integer, by simp, .integer n⟩
    · exact ⟨.integer, by simp, .whole x n hwhole⟩

/-- What the shape of a record asks for. -/
theorem describes_iff_isRecord : recordShape.Describes members ↔ IsRecord members := by
  have hrules : recordShape.rules = [.ofText "account_id",
      { name := "memo_type", kinds := [.text, .null] },
      { name := "memo", kinds := [.text, .integer, .null] }] := rfl
  constructor
  · intro hdescribes
    have hallowed := hdescribes.allowed
    rw [hrules, List.forall_mem_cons, List.forall_mem_cons, List.forall_mem_singleton] at hallowed
    obtain ⟨haccount, htype, hmemo⟩ := hallowed
    obtain ⟨value, hvalue⟩ := hdescribes.required "account_id" (List.mem_singleton_self _)
    obtain ⟨id, rfl, hne⟩ := Json.MemberRule.allows_ofText_iff.mp (haccount value hvalue)
    exact ⟨⟨id, hvalue, hne⟩, fun value hvalue => allows_type_iff.mp (htype value hvalue),
      fun value hvalue => allows_memo_iff.mp (hmemo value hvalue)⟩
  · rintro ⟨⟨id, hid, hne⟩, htype, hmemo⟩
    refine ⟨List.forall_mem_singleton.mpr ⟨_, hid⟩, ?_⟩
    rw [hrules, List.forall_mem_cons, List.forall_mem_cons, List.forall_mem_singleton]
    refine ⟨fun value hvalue => ?_, fun value hvalue => allows_type_iff.mpr (htype value hvalue),
      fun value hvalue => allows_memo_iff.mpr (hmemo value hvalue)⟩
    obtain rfl := Option.some.inj (hid.symm.trans hvalue)
    exact Json.MemberRule.allows_ofText_iff.mpr ⟨id, rfl, hne⟩

/-- The memo of a record is a text or a number, or there is none. -/
theorem Record.memo_cases (hrecord : Record r members) (hmemo : members.get? "memo" = some value)
    (hne : value ≠ .null) :
    (∃ s, value = .text s) ∨ (∃ n, value = .int n) ∨ ∃ x, value = .real x := by
  obtain hnull | htext | hint | ⟨x, n, hreal, -⟩ :=
    (describes_iff_isRecord.mp hrecord.shape).memo value hmemo
  · exact absurd hnull hne
  · exact .inl htext
  · exact .inr (.inl hint)
  · exact .inr (.inr ⟨x, hreal⟩)

/-- The account is the one of the record, whatever the memo. -/
theorem accountId_destination (members : Json.Members) :
    (destination members).accountId = ((members.get? "account_id").bind Json.text?).getD "" := by
  unfold destination
  split
  · rfl
  · split <;> rfl

/-- A type that is not empty demands the memo of the record. -/
theorem destination_of_typed (htype : members.get? "memo_type" = some (.text type))
    (hfilled : type ≠ "") :
    destination members = ⟨((members.get? "account_id").bind Json.text?).getD "", some type,
      some (memoText members)⟩ := by
  unfold destination
  rw [htype, Option.bind_some, Json.text?]
  exact if_neg (by simpa [Text.isEmpty_iff] using hfilled)

/-- Without a type no memo is demanded. -/
theorem Untyped.destination_eq (huntyped : Untyped members) :
    destination members = ⟨((members.get? "account_id").bind Json.text?).getD "", none, none⟩ := by
  unfold destination
  split
  · rfl
  · rename_i type htype
    obtain ⟨value, hvalue, htext⟩ := Option.bind_eq_some_iff.mp htype
    cases value with
    | text s =>
      cases htext
      exact if_pos (Text.isEmpty_iff.mpr (huntyped _ hvalue))
    | _ => cases htext

/-- The pair that a demanded memo is parsed from: its type, and its value as a plain text. -/
theorem Demands.pair_eq (hdemands : Demands members type value) :
    (destination members).memoType = some type ∧
      (destination members).memo = some value.plain := by
  have htext : memoText members = value.plain := by
    unfold memoText
    rw [hdemands.memo]
    cases value with
    | null => exact absurd rfl hdemands.supplied
    | _ => rfl
  rw [destination_of_typed hdemands.typed hdemands.filled, htext]
  exact ⟨rfl, rfl⟩

/-- Without a type none is demanded. -/
theorem Untyped.memoType_eq (huntyped : Untyped members) :
    (destination members).memoType = none := by
  rw [huntyped.destination_eq]

end Remittance.NameServer

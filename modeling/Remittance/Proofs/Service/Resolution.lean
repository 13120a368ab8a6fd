import Remittance.Proofs.Service.NameRecord
import Mathlib.Data.List.TakeWhile

/-!
# How an identifier is resolved

An account id stands for itself. An address is asked for once, and nothing else is ever asked for.
The response alone then decides: it is a record, and gives a destination, or the identifier is not
resolved. Main statement: `resolution_follows`, for every identifier, every URL and every answer. A
record whose memo or any other part is an integer of too many digits is no record for the reader,
and a body for which there is no room fails in a way of its own.
-/

set_option autoImplicit false

namespace Remittance.NameServer

/-- An identifier is an address: a name and a domain on both sides of its first star. -/
def IsAddress (identifier : Text) : Prop :=
  ∃ name domain, identifier.codes = name ++ .char '*' :: domain ∧ .char '*' ∉ name ∧ name ≠ [] ∧
    domain ≠ []

/-- The members of a record give a destination. -/
structure Gives (members : Json.Members) (d : Destination) : Prop where
  account : members.get? "account_id" = some (.text d.accountId)
  demanded : ∀ type, d.memoType = some type ↔
    members.get? "memo_type" = some (.text type) ∧ type ≠ ""
  /-- The memo that is demanded is the one of the record as a text, or empty if it has none. -/
  memo : d.memoType ≠ none →
    (∀ value, members.get? "memo" = some value → value ≠ .null → d.memo = some value.plain) ∧
      (members.get? "memo" = none ∨ members.get? "memo" = some .null → d.memo = some ("" : Text))
  undemanded : d.memoType = none → d.memo = none

/-- The question for an identifier: none for an account id, and else that for the record of an
address, at the URL that is configured. -/
def Asks (url : Option String) (identifier : Text) (request : Http.Request) : Prop :=
  isAccountId identifier = false ∧ IsAddress identifier ∧
    ∃ u, url = some u ∧ request = .get u (some [("q", identifier), ("type", "name")])

/-- What resolving an identifier comes to, and what is sent for it, where `arrives` is what comes
back for a request. -/
structure Resolved (url : Option String) (identifier : Text)
    (arrives : Http.Request → Reply Response) (reply : Reply Destination)
    (sent : List Http.Request) : Prop where
  itself : reply = .value { accountId := identifier } ∧ sent = [] ↔ isAccountId identifier = true
  asked : ∀ request, Asks url identifier request → sent = [request]
  unasked : (∀ request, ¬ Asks url identifier request) → sent = []
  unaddressed : isAccountId identifier = false → (∀ request, ¬ Asks url identifier request) →
    ∃ e, reply = .failed (.naming e)
  described : ∀ request r, Asks url identifier request → arrives request = .value r → ∀ d,
    reply = .value d ↔ r.status = 200 ∧
      ∃ members, r.Holds r.Within members ∧ IsRecord members ∧ Gives members d
  nested : ∀ request r, Asks url identifier request → arrives request = .value r → ∀ e,
    reply = .failed (.nested e) ↔ r.status = 200 ∧ r.Nests recordShape e
  refused : ∀ request r, Asks url identifier request → arrives request = .value r →
    (∀ d, reply ≠ .value d) → (∀ e, reply ≠ .failed (.nested e)) →
      ∃ e, reply = .failed (.naming e)
  /-- What the transport fails with is passed on. -/
  passed : ∀ request, Asks url identifier request →
    (∀ f, arrives request = .failed f → reply = .failed f) ∧
      ∀ i, arrives request = .interrupted i → reply = .interrupted i
  consistent : ∀ d, reply = .value d →
    d.memoType ≠ some ("" : Text) ∧ (d.memoType = none ↔ d.memo = none)

variable {url : Option String} {identifier : Text} {request : Http.Request} {r : Response}
  {members : Json.Members} {d : Destination}

/-- What stands before the first star and after it decides. -/
theorem isAddress_of_split {name domain : List CodePoint}
    (htext : identifier.codes = name ++ .char '*' :: domain) (hstar : .char '*' ∉ name) :
    isAddress identifier = true ↔ name ≠ [] ∧ domain ≠ [] := by
  have hall : ∀ c ∈ name, decide (c ≠ .char '*') = true := by
    intro c hc
    exact decide_eq_true (ne_of_mem_of_not_mem hc hstar)
  unfold isAddress
  rw [htext, List.takeWhile_append_of_pos hall, List.dropWhile_append_of_pos hall]
  simp

/-- What is taken for an address is one. -/
theorem isAddress_iff : isAddress identifier = true ↔ IsAddress identifier := by
  constructor
  · intro haddress
    by_cases hmem : .char '*' ∈ identifier.codes
    · obtain ⟨name, domain, htext, hstar⟩ := List.eq_append_cons_of_mem hmem
      exact ⟨name, domain, htext, hstar, (isAddress_of_split htext hstar).mp haddress⟩
    · have hall : ∀ c ∈ identifier.codes, decide (c ≠ .char '*') = true := by
        intro c hc
        exact decide_eq_true (ne_of_mem_of_not_mem hc hmem)
      unfold isAddress at haddress
      rw [List.dropWhile_eq_nil_iff.mpr hall] at haddress
      simp at haddress
  · rintro ⟨name, domain, htext, hstar, hfilled⟩
    exact (isAddress_of_split htext hstar).mpr hfilled

/-- A record gives the destination that is read from it. -/
theorem gives_destination (hrecord : IsRecord members) : Gives members (destination members) := by
  obtain ⟨id, hid, -⟩ := hrecord.account
  by_cases htyped : Untyped members
  · rw [htyped.destination_eq, hid]
    refine ⟨hid, fun type => ⟨nofun, ?_⟩, fun hne => absurd rfl hne, fun _ => rfl⟩
    rintro ⟨htype, hfilled⟩
    exact absurd (htyped type htype) hfilled
  · unfold Untyped at htyped
    push Not at htyped
    obtain ⟨type, htype, hfilled⟩ := htyped
    rw [destination_of_typed htype hfilled, hid]
    refine ⟨hid, fun type' => ?_, fun _ => ⟨fun value hvalue hne => ?_, fun hnone => ?_⟩, nofun⟩
    · rw [htype, Option.some.injEq, Option.some.injEq, Json.text.injEq]
      constructor
      · rintro rfl
        exact ⟨rfl, hfilled⟩
      · exact And.left
    · unfold memoText
      rw [hvalue]
      cases value with
      | null => exact absurd rfl hne
      | _ => rfl
    · unfold memoText
      obtain hnone | hnull := hnone
      · rw [hnone]
      · rw [hnull]

/-- Members give one destination. -/
theorem Gives.unique {d' : Destination} (h : Gives members d) (h' : Gives members d') : d = d' := by
  have haccount : d.accountId = d'.accountId := by
    have hsame := h.account.symm.trans h'.account
    simpa using hsame
  have htype : d.memoType = d'.memoType := by
    apply Option.ext
    intro type
    rw [h.demanded, h'.demanded]
  have hmemo : d.memo = d'.memo := by
    by_cases hnone : d.memoType = none
    · rw [h.undemanded hnone, h'.undemanded (htype ▸ hnone)]
    · obtain ⟨hgiven, hempty⟩ := h.memo hnone
      obtain ⟨hgiven', hempty'⟩ := h'.memo (htype ▸ hnone)
      cases hvalue : members.get? "memo" with
      | none => rw [hempty (.inl hvalue), hempty' (.inl hvalue)]
      | some value =>
        by_cases hnull : value = .null
        · rw [hnull] at hvalue
          rw [hempty (.inr hvalue), hempty' (.inr hvalue)]
        · rw [hgiven value hvalue hnull, hgiven' value hvalue hnull]
  cases d
  cases d'
  simp_all

/-- A record gives no other destination. -/
theorem gives_iff (hrecord : IsRecord members) : Gives members d ↔ d = destination members := by
  constructor
  · exact fun hgives => hgives.unique (gives_destination hrecord)
  · rintro rfl
    exact gives_destination hrecord

/-- What is demanded is consistent: no empty type, and a memo exactly with a type. -/
theorem Gives.consistent (hgives : Gives members d) :
    d.memoType ≠ some ("" : Text) ∧ (d.memoType = none ↔ d.memo = none) := by
  refine ⟨fun hempty => ((hgives.demanded "").mp hempty).2 rfl, hgives.undemanded, ?_⟩
  intro hmemo
  by_contra hne
  obtain ⟨hgiven, hempty⟩ := hgives.memo hne
  rw [hmemo] at hgiven hempty
  cases hvalue : members.get? "memo" with
  | none => cases hempty (.inl hvalue)
  | some value =>
    by_cases hnull : value = .null
    · rw [hnull] at hvalue
      cases hempty (.inr hvalue)
    · cases hgiven value hvalue hnull

/-- A destination is read from a response exactly if the response is a success that holds a record
which gives it. -/
theorem read_eq_ok_iff_gives : read r = .ok d ↔ r.status = 200 ∧
    ∃ members, r.Holds r.Within members ∧ IsRecord members ∧ Gives members d := by
  rw [read_eq_ok_iff]
  constructor
  · rintro ⟨members, hrecord, rfl⟩
    have his := describes_iff_isRecord.mp hrecord.shape
    exact ⟨hrecord.success, members, hrecord.body, his, gives_destination his⟩
  · rintro ⟨hstatus, members, hholds, his, hgives⟩
    exact ⟨members, ⟨hstatus, hholds, describes_iff_isRecord.mpr his⟩, (gives_iff his).mp hgives⟩

/-- There is no room for a response exactly if it is a success with such a body. -/
theorem read_eq_nested_iff {e : Json.Nested} :
    read r = .error (.nested e) ↔ r.status = 200 ∧ r.Nests recordShape e := by
  unfold read
  split
  · next hother => exact iff_of_false nofun fun h => hother h.1
  · next hstatus =>
    rw [← Response.members_eq_nested_iff, and_iff_right (Decidable.not_not.mp hstatus)]
    cases r.members recordShape with
    | ok own => exact iff_of_false nofun nofun
    | error e => cases e <;> simp [Json.Unread.map]

/-- What a response is read as, as the reply to the question. -/
def answered (r : Response) : Reply Destination :=
  (Reply.value r).andThen fun r => (read r).mapError (.ofUnread .naming)

/-- A destination is answered exactly if it is read. -/
theorem answered_eq_value_iff : answered r = .value d ↔ read r = .ok d := by
  cases hread : read r with
  | ok d' => simp [answered, Reply.andThen, hread, Except.mapError]
  | error e => simp [answered, Reply.andThen, hread, Except.mapError]

/-- A want of room is answered exactly if there was one. -/
theorem answered_eq_nested_iff {e : Json.Nested} :
    answered r = .failed (.nested e) ↔ read r = .error (.nested e) := by
  cases hread : read r with
  | ok d' => simp [answered, Reply.andThen, hread, Except.mapError]
  | error e' =>
    cases e' <;> simp [answered, Reply.andThen, hread, Except.mapError, Failure.ofUnread]

/-- Any other response is refused by the resolver. -/
theorem exists_naming_of_answered (hnone : ∀ d, answered r ≠ .value d)
    (hroom : ∀ e, answered r ≠ .failed (.nested e)) :
    ∃ e, answered r = .failed (.naming e) := by
  cases hread : read r with
  | ok d => exact absurd (answered_eq_value_iff.mpr hread) (hnone d)
  | error e =>
    cases e with
    | nested e => exact absurd (answered_eq_nested_iff.mpr hread) (hroom e)
    | error e =>
      refine ⟨e, ?_⟩
      rw [answered, Reply.andThen, hread]
      rfl

/-- An identifier is put as one question, and what comes back for it is read. -/
theorem resolve_of_asks (hasks : Asks url identifier request) :
    resolve url identifier = .once request fun r => (read r).mapError (.ofUnread .naming) := by
  obtain ⟨hother, haddress, u, rfl, rfl⟩ := hasks
  unfold resolve
  rw [if_neg (by simp [hother]), isAddress_iff.mpr haddress]
  rfl

/-- An identifier that is neither an account id nor asked for is refused. -/
theorem resolve_of_not_asks (hother : isAccountId identifier = false)
    (hnone : ∀ request, ¬ Asks url identifier request) :
    ∃ e, resolve url identifier = .of (.failed (.naming e)) := by
  unfold resolve
  rw [if_neg (by simp [hother])]
  by_cases haddress : isAddress identifier = true
  · cases url with
    | none =>
      refine ⟨.noServer, ?_⟩
      rw [haddress]
      rfl
    | some u => exact absurd ⟨hother, isAddress_iff.mp haddress, u, rfl, rfl⟩ (hnone _)
  · exact ⟨.notAnAddress identifier, if_pos (by simpa using haddress)⟩

/-- There is one question for an identifier. -/
theorem Asks.unique {request' : Http.Request} (h : Asks url identifier request)
    (h' : Asks url identifier request') : request = request' := by
  obtain ⟨-, -, u, hurl, rfl⟩ := h
  obtain ⟨-, -, u', hurl', rfl⟩ := h'
  cases hurl.symm.trans hurl'
  rfl

section Ways

variable {arrives : Http.Request → Reply Response}

/-- Of an identifier that is not asked for, only the reply is left to be said. -/
theorem Resolved.of_unasked {reply : Reply Destination}
    (hnone : ∀ request, ¬ Asks url identifier request)
    (hitself : reply = .value { accountId := identifier } ↔ isAccountId identifier = true)
    (hother : isAccountId identifier = false → ∃ e, reply = .failed (.naming e))
    (hconsistent : ∀ d, reply = .value d →
      d.memoType ≠ some ("" : Text) ∧ (d.memoType = none ↔ d.memo = none)) :
    Resolved url identifier arrives reply [] where
  itself := by rw [and_iff_left rfl, hitself]
  asked request hasks := absurd hasks (hnone request)
  unasked _ := rfl
  unaddressed hno _ := hother hno
  described request _ hasks := absurd hasks (hnone request)
  nested request _ hasks := absurd hasks (hnone request)
  refused request _ hasks := absurd hasks (hnone request)
  passed request hasks := absurd hasks (hnone request)
  consistent := hconsistent

/-- An account id stands for itself. -/
theorem Resolved.of_account (haccount : isAccountId identifier = true) :
    Resolved url identifier arrives (.value { accountId := identifier }) [] := by
  apply Resolved.of_unasked
  case hnone =>
    rintro request ⟨hother, -⟩
    exact absurd haccount (by simp [hother])
  case hitself => exact iff_of_true rfl haccount
  case hother => exact fun hother => absurd haccount (by simp [hother])
  case hconsistent =>
    intro d hd
    cases hd
    exact ⟨nofun, iff_of_true rfl rfl⟩

/-- What is neither an account id nor asked for is refused, and nothing is sent for it. -/
theorem Resolved.of_not_asks (hother : isAccountId identifier = false)
    (hnone : ∀ request, ¬ Asks url identifier request) (e : NamingError) :
    Resolved url identifier arrives (.failed (.naming e)) [] :=
  .of_unasked hnone (iff_of_false nofun (by simp [hother])) (fun _ => ⟨e, rfl⟩) nofun

/-- What comes back for the question decides. -/
theorem Resolved.of_asks (hasks : Asks url identifier request) :
    Resolved url identifier arrives
      ((arrives request).andThen fun r => (read r).mapError (.ofUnread .naming)) [request] := by
  constructor
  case itself => exact iff_of_false (by simp) (by simp [hasks.1])
  case asked => exact fun request' hasks' => by rw [hasks.unique hasks']
  case unasked => exact fun hnone => absurd hasks (hnone request)
  case unaddressed => exact fun _ hnone => absurd hasks (hnone request)
  case described =>
    intro request' r hasks' harrives d
    rw [hasks.unique hasks', harrives, ← read_eq_ok_iff_gives]
    exact answered_eq_value_iff
  case nested =>
    intro request' r hasks' harrives e
    rw [hasks.unique hasks', harrives, ← read_eq_nested_iff]
    exact answered_eq_nested_iff
  case refused =>
    intro request' r hasks' harrives hnone hroom
    rw [hasks.unique hasks', harrives] at hnone hroom ⊢
    exact exists_naming_of_answered hnone hroom
  case passed =>
    intro request' hasks'
    rw [hasks.unique hasks']
    constructor
    · intro f harrives
      rw [harrives]
      rfl
    · intro i harrives
      rw [harrives]
      rfl
  case consistent =>
    intro d hd
    cases harrives : arrives request with
    | value r =>
      rw [harrives] at hd
      obtain ⟨-, members, -, -, hgives⟩ := read_eq_ok_iff_gives.mp (answered_eq_value_iff.mp hd)
      exact hgives.consistent
    | failed f =>
      rw [harrives] at hd
      cases hd
    | interrupted i =>
      rw [harrives] at hd
      cases hd

end Ways

/-- Whatever the server answers, an identifier is resolved by the rules. -/
theorem resolution_follows (url : Option String) (identifier : Text) {σ : Type}
    (answer : σ → Http.Request → Reply Response × σ) (s : σ) :
    Resolved url identifier (fun request => (answer s request).1)
      ((resolve url identifier).run answer s).1 ((resolve url identifier).run answer s).2.1 := by
  by_cases haccount : isAccountId identifier = true
  · have hresolve : resolve url identifier = .of (.value { accountId := identifier }) :=
      if_pos haccount
    rw [hresolve]
    exact .of_account haccount
  · rw [Bool.not_eq_true] at haccount
    by_cases hasks : ∃ request, Asks url identifier request
    · obtain ⟨request, hasks⟩ := hasks
      rw [resolve_of_asks hasks]
      exact .of_asks hasks
    · rw [not_exists] at hasks
      obtain ⟨e, hresolve⟩ := resolve_of_not_asks haccount hasks
      rw [hresolve]
      exact .of_not_asks haccount hasks e

/-- A success whose body is a record of an account with an integer for a memo. -/
def numbered (memo : List Char) : Response := .numbered "memo" memo "account_id" "G"

/-- Such a record is one in the notation, whatever its digits. -/
theorem holds_numbered {memo : List Char} (hwhole : Json.IsWhole memo) :
    (numbered memo).Holds Json.Notation
      [("memo", .int (Numeral.value memo)), ("account_id", .text "G")] :=
  Response.holds_numbered (by simp [Response.Plain]) (by simp [Response.Plain])
    (by simp [Response.Plain]) hwhole

/-- The members are those of a record. -/
theorem isRecord_numbered (n : Int) :
    IsRecord [("memo", .int n), ("account_id", .text "G")] := by
  constructor
  case account => exact ⟨"G", by simp [Json.Members.get?], by decide⟩
  case memoType => simp [Json.Members.get?]
  case memo => simp [Json.Members.get?]

/-- A record whose memo has too many digits is not read. -/
theorem read_numbered_long {memo : List Char} (hwhole : Json.IsWhole memo)
    (hlong : ¬ Json.Limited memo.length) (d : Destination) : read (numbered memo) ≠ .ok d := by
  rw [Ne, read_eq_ok_iff]
  rintro ⟨members, hrecord, -⟩
  exact Response.not_holds_numbered (by simp [Response.Plain]) hwhole hlong members hrecord.body

/-- Not every success that holds a record gives a destination: one whose memo is an integer of one
digit more than a numeral may have gives none. -/
theorem not_always_resolved :
    Asks (some "https://names") "bob*example.org"
        (.get "https://names" (some [("q", "bob*example.org"), ("type", "name")])) ∧
      (numbered Response.manyOnes).status = 200 ∧
      (∃ members, (numbered Response.manyOnes).Holds Json.Notation members ∧ IsRecord members) ∧
      ∀ d, ((resolve (some "https://names") "bob*example.org").run
        (fun s _ => (.value (numbered Response.manyOnes), s)) ()).1 ≠ .value d := by
  have hasks : Asks (some "https://names") "bob*example.org"
      (.get "https://names" (some [("q", "bob*example.org"), ("type", "name")])) :=
    ⟨by decide +kernel, isAddress_iff.mp (by decide), _, rfl, rfl⟩
  refine ⟨hasks, rfl, ⟨_, holds_numbered Response.isWhole_manyOnes, isRecord_numbered _⟩, ?_⟩
  intro d
  rw [resolve_of_asks hasks]
  show answered (numbered Response.manyOnes) ≠ _
  rw [Ne, answered_eq_value_iff]
  exact read_numbered_long Response.isWhole_manyOnes Response.not_limited_manyOnes d

end Remittance.NameServer

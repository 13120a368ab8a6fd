import Remittance.Proofs.Decimal.Shortest
import Remittance.Proofs.Payment.Amount
import Remittance.Proofs.Payment.Connection
import Remittance.Proofs.Payment.Trail
import Remittance.Proofs.Service.NameRecord
import Remittance.Proofs.Text.Octets

/-!
# Memos that the server of names supplies

A record of the server of names may supply a memo for the payments to its account, as a text or as a
number. If it gives the memo a type, a payment to the account carries that memo unchanged, or is not
submitted. The main statement `server_memo_kept` says so for every response and every payment that
is assembled and signed here. A record that gives the memo no type demands none, and then the memo
is left out.
-/

set_option autoImplicit false

namespace Remittance

/-- A memo of the ledger keeps a value of a type: the number that an integer is or that digits
spell, the octets of a text or of a number's text, or the octets that a text spells in hexadecimal
digits of either case. -/
inductive Keeps : Text → Json → LedgerMemo → Prop where
  | integer (n : UInt64) : Keeps "id" (.int n.toNat) (.id n)
  | digits (ds : List Char) (n : UInt64) (hne : ds ≠ []) (hdigits : ∀ c ∈ ds, c.isDigit = true)
      (hnumber : n.toNat = Numeral.value ds) : Keeps "id" (.text (String.ofList ds)) (.id n)
  | text (value : Json) (s : String) (octets : BlockUpTo 28) (hplain : value.plain = s)
      (hoctets : octets.val = Octets.ofText s) : Keeps "text" value (.text octets)
  | hash (value : Json) (s : String) (octets : Block 32) (hplain : value.plain = s)
      (hdigits : (Octets.hex octets.val).toList = s.toList.map Char.toLower) :
      Keeps "hash" value (.hash octets)

/-- No value is kept by leaving the memo out. -/
theorem Keeps.ne_none {type : Text} {value : Json} {memo : LedgerMemo}
    (hkept : Keeps type value memo) : memo ≠ .none := by
  cases hkept <;> exact nofun

namespace MemoPolicy

variable {value : Json} {m : Memo} {memo : LedgerMemo}

/-- A number is parsed from a run of digits that is not too long, and is the one that they spell. -/
theorem parseId_eq_ok {t : Text} (hparse : parseId t = .ok m) :
    ∃ (s : String) (n : UInt64), t = s ∧ Numeral.isNumeral s.toList = true ∧ m = .id n ∧
      n.toNat = Numeral.value s.toList := by
  unfold parseId at hparse
  split at hparse
  · next s hs =>
    split at hparse
    · next hnumeral =>
      unfold Numeral.read at hparse
      split at hparse
      · cases hparse
      · next n hread =>
        split at hread
        · cases hread
          split at hparse
          · next hmax =>
            cases hparse
            exact ⟨s, _, Text.string?_eq_some_iff.mp hs, hnumeral, rfl,
              UInt64.toNat_ofNat_of_lt' (Nat.lt_of_le_of_lt hmax (by decide))⟩
          · cases hparse
        · cases hread
    · cases hparse
  · cases hparse

/-- The text of an integer is a run of digits only if the integer is not negative, and these digits
spell it. -/
theorem value_of_int {n : Int} {s : String} (hplain : Json.plain (.int n) = s)
    (hnumeral : Numeral.isNumeral s.toList = true) : n = Numeral.value s.toList := by
  obtain rfl : String.ofList (Numeral.signed n) = s := Text.ofString_inj.mp hplain
  rw [String.toList_ofList] at hnumeral ⊢
  cases n with
  | ofNat n => exact congrArg Int.ofNat (Numeral.value_digits n).symm
  | negSucc n =>
    have hminus : ('-' : Char).isDigit = false := rfl
    simp [Numeral.signed, Numeral.isNumeral, hminus] at hnumeral

/-- The text of a floating-point number is no run of digits. -/
theorem not_isNumeral_real {x : Binary64} {s : String} (hplain : Json.plain (.real x) = s) :
    ¬ Numeral.isNumeral s.toList = true := by
  obtain rfl : String.ofList (Shortest.text x).toList = s := Text.ofString_inj.mp hplain
  obtain ⟨c, hc, hsign⟩ := Shortest.exists_sign x
  rw [String.toList_ofList, Numeral.isNumeral_iff]
  rintro ⟨-, hall⟩
  rw [hall c hc] at hsign
  cases hsign

/-- A number that is parsed keeps the value. -/
theorem keeps_of_parseId
    (hkind : (∃ t, value = .text t) ∨ (∃ n, value = .int n) ∨ ∃ x, value = .real x)
    (hparse : parseId value.plain = .ok m) (hledger : m.toLedger? = some memo) :
    Keeps "id" value memo := by
  obtain ⟨s, n, hplain, hnumeral, rfl, hnumber⟩ := parseId_eq_ok hparse
  cases hledger
  obtain ⟨t, rfl⟩ | ⟨i, rfl⟩ | ⟨x, rfl⟩ := hkind
  · obtain ⟨hne, hdigits⟩ := Numeral.isNumeral_iff.mp hnumeral
    have hkept := Keeps.digits s.toList n hne hdigits hnumber
    rwa [String.ofList_toList, ← hplain] at hkept
  · rw [value_of_int hplain hnumeral, ← hnumber]
    exact .integer n
  · exact absurd hnumeral (not_isNumeral_real hplain)

/-- A text that is parsed keeps the value. -/
theorem keeps_of_parseText (hparse : parseText value.plain = .ok m)
    (hledger : m.toLedger? = some memo) : Keeps "text" value memo := by
  unfold parseText Text.octets at hparse
  cases hstring : value.plain.string with
  | error e =>
    rw [hstring] at hparse
    cases hparse
  | ok s =>
    rw [hstring] at hparse
    cases hparse
    rw [Memo.toLedger?, Option.dite_none_right_eq_some] at hledger
    obtain ⟨hfits, heq⟩ := hledger
    cases heq
    exact .text value s _ (Text.string_eq_ok_iff.mp hstring) rfl

/-- A hash that is parsed keeps the value. -/
theorem keeps_of_parseHash (hparse : parseHash value.plain = .ok m)
    (hledger : m.toLedger? = some memo) : Keeps "hash" value memo := by
  unfold parseHash at hparse
  split at hparse
  · next octets hread =>
    obtain ⟨s, hs, hdigits⟩ := Option.bind_eq_some_iff.mp hread
    split at hparse
    · cases hparse
      cases hledger
      exact .hash value s _ (Text.string?_eq_some_iff.mp hs)
        (Octets.toList_hex_of_ofHexDigits? hdigits)
    · cases hparse
  · cases hparse

/-- Whatever memo is parsed from a text or a number under a type, the ledger's form of it keeps the
value. -/
theorem keeps_of_parse {type : Text}
    (hkind : (∃ t, value = .text t) ∨ (∃ n, value = .int n) ∨ ∃ x, value = .real x)
    (hfilled : type ≠ "") (hparse : parse type value.plain = .ok m)
    (hledger : m.toLedger? = some memo) : Keeps type value memo := by
  rw [parse, if_neg hfilled] at hparse
  split at hparse
  next hid => exact hid ▸ keeps_of_parseId hkind hparse hledger
  split at hparse
  next htext => exact htext ▸ keeps_of_parseText hparse hledger
  split at hparse
  next hhash => exact hhash ▸ keeps_of_parseHash hparse hledger
  cases hparse

end MemoPolicy

namespace Pipeline

variable {p : Pipeline} {request : PaymentRequest} {d : Destination}

/-- A payment is assembled and signed here, gives no memo of its own, and goes to an address, for
which the server of names has a response. -/
structure Asks (p : Pipeline) (c : Connections) (request : PaymentRequest) {σ : Type}
    (answer : σ → (q : Contact) → q.Answer × σ) (s : σ) (url : String) (r : Response) : Prop where
  direct : p.takesRelay request = false
  bare : request.memoType = "" ∧ request.memo = ""
  signer : c.signingAgent = false
  names : c.names = .server (some url)
  unknown : isAccountId request.destination = false
  address : NameServer.isAddress request.destination = true
  response : ((Connections.carry c.carrier (NameServer.query url request.destination)).run
    answer s).1 = .value r

/-- A text is a transaction of known parts, signed by the key pair of a request, with a memo of some
kind. -/
def SignedWith (p : Pipeline) (request : PaymentRequest) (text : String)
    (kept : LedgerMemo → Prop) : Prop :=
  ∃ k w signature, Keypair.ofSecret? request.source = some k ∧
    SignedText k p.network w text signature ∧ w.IsNative ∧ kept w.memo

/-- A run has failed: its trail ends so, and so does its outcome, if there is one. -/
def HasFailed (r : Ended × Progress) : Prop :=
  (∃ states, r.2.trail = states ++ [.failed]) ∧ (∀ escape, r.1 ≠ .escaped escape) ∧
    ∀ o, r.1 = .outcome o → o.state = .failed

section Calls

variable {σ : Type} {answer : σ → (c : Call) → c.Answer × σ} {s : σ}

/-- A run that assembles its transaction begins with the destination that it is told. -/
theorem eq_of_resolve_prefix (hsource : (Keypair.ofSecret? request.source).isSome = true)
    (hdirect : p.takesRelay request = false)
    (hnamed : (answer s (.resolve request.destination)).1 = .value d) {d' : Destination}
    {rest : CallTranscript}
    (hfirst : (⟨.resolve request.destination, .value d'⟩ :: rest : CallTranscript) <+:
      (p.submit request).transcript answer s) : d' = d := by
  obtain ⟨k, hk⟩ := Option.isSome_iff_exists.mp hsource
  rw [submit_eq_direct hk hdirect, Dialogue.transcript, hnamed] at hfirst
  obtain ⟨heq, -⟩ := List.cons_prefix_cons.mp hfirst
  cases heq
  rfl

/-- What is submitted by a run that assembles and signs here has a memo that is parsed from the pair
of the request or of the destination that it is told. -/
theorem submitted_memo (hdirect : p.takesRelay request = false)
    (hsigner : ∀ s k e, (answer s (.sign k e)).1 = Connections.signHere k e)
    (hnamed : (answer s (.resolve request.destination)).1 = .value d) {text : String}
    {reply : Reply Json} (hsubmit : (⟨.submit text, reply⟩ : (c : Call) × c.Answer) ∈
      (p.submit request).transcript answer s) :
    p.SignedWith request text fun memo => ∃ m,
      MemoPolicy.parse (request.memoPair d).1 (request.memoPair d).2 = .ok m ∧
        m.toLedger? = some memo := by
  obtain ⟨e, q', hcourse, -⟩ := course_of_goes (Dialogue.goes_run answer s (p.submit request))
  obtain ⟨k, envelope, signed, q₁, h₁, hk, hmaking, rfl, hsplit, -, -⟩ := hcourse.of_submit hsubmit
  cases hmaking with
  | relay reply' e' hpath hend =>
    rw [hpath] at hdirect
    cases hdirect
  | direct h₁ e' q₁ hpath hassembly =>
    obtain ⟨s', hsign⟩ := Dialogue.exists_state_of_mem_transcript answer s (p.submit request)
      (q := .sign k envelope) (r := .value signed) (by rw [hsplit]; simp)
    rw [hsigner] at hsign
    obtain ⟨d', look, t, snapshot, m, w, hsubmitted⟩ :=
      submitted_of_assembly reply hk hassembly hsign
    obtain ⟨envelope', signed', reply', hcalls⟩ := hsubmitted.calls
    have hsame : d' = d := eq_of_resolve_prefix (by rw [hk]; rfl) hdirect hnamed
      ⟨_, hcalls.symm.trans hsplit.symm⟩
    subst hsame
    obtain ⟨signature, hsignature⟩ := hsubmitted.signed
    exact ⟨k, w, signature, hk, hsignature, hsubmitted.isNative, m, hsubmitted.parsed,
      hsubmitted.memo⟩

/-- A run that submits nothing has failed, or its memo is one that no stage takes care of, and has
escaped. -/
theorem failed_or_escaped (hdirect : p.takesRelay request = false)
    (hnamed : (answer s (.resolve request.destination)).1 = .value d)
    (hnever : ∀ text reply, (⟨.submit text, reply⟩ : (c : Call) × c.Answer) ∉
      (p.submit request).transcript answer s) :
    HasFailed ((p.submit request).run answer s).1 ∨
      ∃ escape, request.MemoEscapes d escape ∧
        ((p.submit request).run answer s).1.1 = .escaped escape := by
  obtain ⟨e, q', hcourse, heq⟩ := course_of_goes (Dialogue.goes_run answer s (p.submit request))
  rw [heq]
  by_cases hescape : ∃ escape, e = .error (.escaped escape)
  · obtain ⟨escape, rfl⟩ := hescape
    obtain ⟨hsource, -, d', look, t, hfirst, -, hmemo⟩ := hcourse.escaped_iff.mp rfl
    obtain rfl := eq_of_resolve_prefix hsource hdirect hnamed hfirst
    exact .inr ⟨escape, hmemo, rfl⟩
  · have hrecorded := hcourse.recorded fun escape hstop => hescape ⟨escape, hstop⟩
    exact .inl (hrecorded.failed_of_not_submitted hnever)

end Calls

section Over

variable {c : Connections} {σ : Type} {answer : σ → (q : Contact) → q.Answer × σ} {s : σ}
  {url : String} {r : Response} {members : Json.Members}

/-- A payment whose address has a record is told the destination that the record describes. -/
theorem Asks.named (hasks : Asks p c request answer s url r)
    (hrecord : NameServer.Record r members) :
    (Dialogue.through c.put answer s (.resolve request.destination)).1 =
      .value (NameServer.destination members) := by
  have hread := NameServer.read_eq_ok_iff.mpr ⟨members, hrecord, rfl⟩
  have hresolve : NameServer.resolve (some url) request.destination =
      .once (NameServer.query url request.destination) fun r =>
        (NameServer.read r).mapError (.ofUnread .naming) := by
    rw [NameServer.resolve, if_neg (by simp [hasks.unknown]), if_neg (by simp [hasks.address])]
  rw [Dialogue.through, Connections.put_resolve hasks.names, hresolve,
    Connections.run_exchange_once, hasks.response]
  dsimp only [Reply.andThen]
  rw [hread]
  rfl

/-- A payment is signed here. -/
theorem Asks.signs (hasks : Asks p c request answer s url r) (s : σ) (k : Keypair) (e : Envelope) :
    (Dialogue.through c.put answer s (.sign k e)).1 = Connections.signHere k e := by
  rw [Dialogue.through, Connections.put, hasks.signer]
  rfl

/-- The memo of a payment for which a record demands one is parsed from what the record supplies. -/
theorem memoPair_of_demands {type : Text} {value : Json}
    (hdemands : NameServer.Demands members type value) :
    request.memoPair (NameServer.destination members) = (type, value.plain) := by
  obtain ⟨htype, hmemo⟩ := hdemands.pair_eq
  rw [PaymentRequest.memoPair, htype, hmemo]
  rfl

/-- The memo of a payment for which a record demands none is parsed from the request. -/
theorem memoPair_of_untyped (huntyped : NameServer.Untyped members) :
    request.memoPair (NameServer.destination members) = (request.memoType, request.memo) := by
  rw [PaymentRequest.memoPair, huntyped.memoType_eq]

/-- Whatever is submitted for a record that supplies a memo with its type keeps this memo. -/
theorem Asks.kept_of_demands (hasks : Asks p c request answer s url r)
    (hrecord : NameServer.Record r members) {type : Text} {value : Json}
    (hdemands : NameServer.Demands members type value) {text : String} {reply : Reply Json}
    (hsubmit : (⟨.submit text, reply⟩ : (c : Call) × c.Answer) ∈
      (p.submit request).transcript (Dialogue.through c.put answer) s) :
    p.SignedWith request text (Keeps type value) := by
  obtain ⟨k, w, signature, hk, hsigned, hnative, m, hparse, hledger⟩ :=
    submitted_memo hasks.direct hasks.signs (hasks.named hrecord) hsubmit
  rw [memoPair_of_demands hdemands] at hparse
  have hkind := hrecord.memo_cases hdemands.memo hdemands.supplied
  exact ⟨k, w, signature, hk, hsigned, hnative,
    MemoPolicy.keeps_of_parse hkind hdemands.filled hparse hledger⟩

/-- Whatever is submitted for a record without a type has no memo. -/
theorem Asks.none_of_untyped (hasks : Asks p c request answer s url r)
    (hrecord : NameServer.Record r members) (huntyped : NameServer.Untyped members)
    {text : String} {reply : Reply Json}
    (hsubmit : (⟨.submit text, reply⟩ : (c : Call) × c.Answer) ∈
      (p.submit request).transcript (Dialogue.through c.put answer) s) :
    p.SignedWith request text (· = .none) := by
  obtain ⟨k, w, signature, hk, hsigned, hnative, m, hparse, hledger⟩ :=
    submitted_memo hasks.direct hasks.signs (hasks.named hrecord) hsubmit
  have hnone : MemoPolicy.parse "" "" = .ok .none := rfl
  rw [memoPair_of_untyped huntyped, hasks.bare.1, hasks.bare.2, hnone] at hparse
  cases hparse
  exact ⟨k, w, signature, hk, hsigned, hnative, (Option.some.inj hledger).symm⟩

/-- A memo that escapes a payment for which a record demands one is what the record supplies. -/
theorem escapes_of_demands {type : Text} {value : Json} {escape : Escape}
    (hdemands : NameServer.Demands members type value)
    (hescapes : request.MemoEscapes (NameServer.destination members) escape) :
    MemoPolicy.Escapes type value.plain escape := by
  have hmemo := hescapes.memo
  rwa [memoPair_of_demands hdemands] at hmemo

end Over

section Address

/-- Connections to a server of names, with an agent for the ledger. -/
def namesAtServer : Connections where
  names := .server (some "https://names.example/federation")
  ledger := .agent

/-- A world in which every request is answered with one response, and a ledger that knows every
account and takes every transaction. -/
def telling (r : Response) : Unit → (q : Contact) → q.Answer × Unit
  | _, .request _ => (Reply.value r, ())
  | _, .wire _ => (Reply.value r, ())
  | _, .agent (.resolve identifier) => (Reply.value { accountId := identifier }, ())
  | _, .agent (.account accountId) => (Reply.value { accountId, sequence := 1 }, ())
  | _, .agent (.relay _) => (Reply.interrupted .canceled, ())
  | _, .agent (.sign ..) => (Reply.interrupted .canceled, ())
  | _, .agent (.submit _) => (Reply.value .null, ())

/-- The members of a record of the account of zeros that supplies a memo, with or without a type. -/
def zeroRecord : Option Text → Json.Members
  | none => [("account_id", .text zeroKey.accountId), ("memo", .text "42")]
  | some type =>
    [("account_id", .text zeroKey.accountId), ("memo_type", .text type), ("memo", .text "42")]

/-- A request for a payment of one unit to an address. -/
def addressRequest : PaymentRequest :=
  { amountRequest (paddedAmount 1 1) with destination := "zero*example.org" }

/-- That payment asks the server of names, whatever the response. -/
theorem addressRequest_asks (r : Response) : Asks (timedPipeline 0) namesAtServer addressRequest
    (telling r) () "https://names.example/federation" r where
  direct := rfl
  bare := ⟨rfl, rfl⟩
  signer := rfl
  names := rfl
  unknown := by decide +kernel
  address := by decide +kernel
  response := rfl

/-- The account id of the key of zeros is not empty. -/
theorem zeroKey_accountId_ne : (zeroKey.accountId : Text) ≠ "" := by
  intro hempty
  have hid : isAccountId zeroKey.accountId = true := Key.isAccountId_accountId zeroKey
  rw [hempty] at hid
  revert hid
  decide

/-- A success with such members is a record of the account, if the type is whole. -/
theorem zeroRecord_record {type : Option Text} (hwhole : ∀ t ∈ type, t.Whole) :
    NameServer.Record (.success (.object (zeroRecord type))) (zeroRecord type) where
  success := rfl
  body := by
    refine Response.holds_iff.mpr (Response.json_success (.object _ ?_ ?_) ?_)
    · cases type <;> simp [zeroRecord]
    · cases type <;> simp [zeroRecord, Json.Readable.text]
    · cases type with
      | none => simp [zeroRecord, Json.whole_object_iff, Text.whole_ofString]
      | some type =>
        simp [zeroRecord, Json.whole_object_iff, Text.whole_ofString, hwhole type rfl]
  shape := by
    constructor
    case required => cases type <;> simp [NameServer.recordShape, zeroRecord, Json.Members.get?]
    case allowed =>
      intro rule hrule value hvalue
      simp only [NameServer.recordShape, List.mem_cons, List.not_mem_nil, or_false] at hrule
      obtain rfl | rfl | rfl := hrule
      · have htext : Json.text zeroKey.accountId = value := by
          cases type <;> simpa [zeroRecord, Json.Members.get?] using hvalue
        subst htext
        exact Json.MemberRule.allows_text (by simp) fun _ => zeroKey_accountId_ne
      · cases type with
        | none => simp [zeroRecord, Json.Members.get?] at hvalue
        | some type =>
          have htext : Json.text type = value := by
            simpa [zeroRecord, Json.Members.get?] using hvalue
          subst htext
          exact Json.MemberRule.allows_text (by simp) fun hrule => absurd hrule Bool.false_ne_true
      · have htext : Json.text "42" = value := by
          cases type <;> simpa [zeroRecord, Json.Members.get?] using hvalue
        subst htext
        exact Json.MemberRule.allows_text (by simp) fun hrule => absurd hrule Bool.false_ne_true

/-- That payment comes to the building of its transaction, with the memo that is decided for it. -/
theorem addressRequest_poised {r : Response} {d : Destination} {m : Memo}
    (hnamed : (Dialogue.through namesAtServer.put (telling r) ()
      (.resolve addressRequest.destination)).1 = .value d) (hid : d.accountId = zeroKey.accountId)
    (hmemo : memoVerdict addressRequest d = .ok m) :
    Poised (timedPipeline 0) addressRequest (((timedPipeline 0).submit addressRequest).transcript
      (Dialogue.through namesAtServer.put (telling r)) ()) ⟨zeroKey⟩ d
      [⟨.account zeroKey.accountId, .value ⟨zeroKey.accountId, 1⟩⟩]
      (.payment zeroKey.accountId (paddedAmount 1 1) .native) m ⟨Keypair.accountId ⟨zeroKey⟩, 1⟩
      none := by
  obtain ⟨accountId, memoType, memo⟩ := d
  subst hid
  have hvalid : isAccountId zeroKey.accountId = true := Key.isAccountId_accountId zeroKey
  have hasset : Asset.ofFields addressRequest.assetCode addressRequest.assetIssuer = .ok .native :=
    rfl
  have hk : Keypair.ofSecret? addressRequest.source = some ⟨zeroKey⟩ := zeroRequest_source
  refine ⟨hk, rfl, ?_, ⟨hvalid, .native, hasset, .present _⟩, hmemo, rfl⟩
  rw [submit_eq_direct hk rfl, Dialogue.transcript, hnamed,
    @judged_destination_of_isAccountId _ ⟨zeroKey.accountId, memoType, memo⟩ hvalid]
  dsimp only
  rw [choose, hasset]
  dsimp only
  rw [Dialogue.transcript]
  have hchosen : lookup zeroKey.accountId addressRequest.amount
      (Dialogue.through namesAtServer.put (telling r)
        (Dialogue.through namesAtServer.put (telling r) () (.resolve addressRequest.destination)).2
        (.account zeroKey.accountId)).1 =
      .ok (.payment zeroKey.accountId (paddedAmount 1 1) .native) := rfl
  rw [hchosen, decided, finish_eq, hmemo]
  exact ⟨_, rfl⟩

/-- Whatever destination the server describes with that account, and whatever memo is decided for it
that is not too long, that payment is submitted. -/
theorem addressRequest_submits {r : Response} {members : Json.Members} {m : Memo}
    (hrecord : NameServer.Record r members)
    (hid : (NameServer.destination members).accountId = zeroKey.accountId)
    (hmemo : memoVerdict addressRequest (NameServer.destination members) = .ok m)
    (hshort : ∀ octets, m = .text octets → octets.length ≤ 28) :
    ∃ text reply, (⟨.submit text, reply⟩ : (c : Call) × c.Answer) ∈
      ((timedPipeline 0).submit addressRequest).transcript
        (Dialogue.through namesAtServer.put (telling r)) () := by
  have hpoised := addressRequest_poised ((addressRequest_asks r).named hrecord) hid hmemo
  have hlength : ¬ Amount.Overlong (paddedAmount 1 1) := paddedAmount_not_overlong (by decide)
  have hvalid : Amount.Valid (paddedAmount 1 1) := (paddedAmount_valid_iff 1 1).mpr (by decide)
  obtain ⟨e, hbuild, hdrafted⟩ :=
    Build.build_of_valid (amountParts_others (paddedAmount 1 1) hshort) hlength hvalid
  have hfee : 0 ≤ (100 : Int) ∧ (100 : Int) < 0x100000000 := by decide
  exact hpoised.exists_submitted (addressRequest_asks r).signs hbuild (hdrafted.fits hfee)

/-- The account of such a record is that of the key of zeros. -/
theorem accountId_zeroRecord (type : Option Text) :
    (NameServer.destination (zeroRecord type)).accountId = zeroKey.accountId := by
  rw [NameServer.accountId_destination]
  cases type <;> simp [zeroRecord, Json.Members.get?, Json.text?]

/-- With a type, such a record demands its memo. -/
theorem demands_zeroRecord {type : Text} (hfilled : type ≠ "") :
    NameServer.Demands (zeroRecord (some type)) type (.text "42") where
  typed := by simp [zeroRecord, Json.Members.get?]
  filled := hfilled
  memo := by simp [zeroRecord, Json.Members.get?]
  supplied := nofun

/-- Without a type, such a record demands none. -/
theorem untyped_zeroRecord : NameServer.Untyped (zeroRecord none) := by
  intro type htype
  simp [zeroRecord, Json.Members.get?] at htype

/-- The memo of that payment is the one that is parsed from what decides it. -/
theorem memoVerdict_addressRequest {d : Destination} {m : Memo}
    (hparse : MemoPolicy.parse (addressRequest.memoPair d).1 (addressRequest.memoPair d).2 =
      .ok m) : memoVerdict addressRequest d = .ok m := by
  have hdecide := @MemoPolicy.decide_eq_parse addressRequest d rfl fun _ => rfl
  rw [hparse] at hdecide
  unfold memoVerdict
  rw [hdecide]

end Address

/-- A memo that the server of names supplies with a type is kept: whatever is submitted carries it,
and where nothing is submitted the run has failed, or the memo has escaped it. The memos that escape
are numerals with too many digits and torn texts. A record without a type demands no memo, and
whatever is submitted for it carries none. -/
theorem server_memo_kept (p : Pipeline) (c : Connections) (request : PaymentRequest) {σ : Type}
    (answer : σ → (q : Contact) → q.Answer × σ) (s : σ) {url : String} {r : Response}
    {members : Json.Members} (hasks : Asks p c request answer s url r)
    (hrecord : NameServer.Record r members) :
    (∀ type value, NameServer.Demands members type value →
      (∀ text reply, (⟨.submit text, reply⟩ : (c : Call) × c.Answer) ∈
          (p.submit request).transcript (Dialogue.through c.put answer) s →
        p.SignedWith request text (Keeps type value)) ∧
      ((∀ text reply, (⟨.submit text, reply⟩ : (c : Call) × c.Answer) ∉
          (p.submit request).transcript (Dialogue.through c.put answer) s) →
        HasFailed ((p.submitOver c request).run answer s).1 ∨
          ∃ escape, MemoPolicy.Escapes type value.plain escape ∧
            ((p.submitOver c request).run answer s).1.1 = .escaped escape)) ∧
    (NameServer.Untyped members →
      ∀ text reply, (⟨.submit text, reply⟩ : (c : Call) × c.Answer) ∈
          (p.submit request).transcript (Dialogue.through c.put answer) s →
        p.SignedWith request text (· = .none)) := by
  refine ⟨fun type value hdemands => ⟨fun text reply => ?_, fun hnever => ?_⟩,
    fun huntyped text reply => ?_⟩
  · exact hasks.kept_of_demands hrecord hdemands
  · rw [submitOver, Dialogue.run_expand]
    refine (failed_or_escaped hasks.direct (hasks.named hrecord) hnever).imp_right ?_
    rintro ⟨escape, hescapes, hended⟩
    exact ⟨escape, escapes_of_demands hdemands hescapes, hended⟩
  · exact hasks.none_of_untyped hrecord huntyped

/-- A memo that is supplied as an id is submitted as that id. -/
theorem id_memo_submitted :
    Asks (timedPipeline 0) namesAtServer addressRequest
        (telling (.success (.object (zeroRecord (some "id"))))) ()
        "https://names.example/federation" (.success (.object (zeroRecord (some "id")))) ∧
      NameServer.Record (.success (.object (zeroRecord (some "id")))) (zeroRecord (some "id")) ∧
      ∃ text reply, (⟨.submit text, reply⟩ : (c : Call) × c.Answer) ∈
          ((timedPipeline 0).submit addressRequest).transcript (Dialogue.through namesAtServer.put
            (telling (.success (.object (zeroRecord (some "id")))))) () ∧
        (timedPipeline 0).SignedWith addressRequest text (Keeps "id" (.text "42")) := by
  have hasks := addressRequest_asks (.success (.object (zeroRecord (some "id"))))
  have hrecord := @zeroRecord_record (some "id") (by simp [Text.whole_ofString])
  have hdemands := @demands_zeroRecord "id" (by decide)
  have hmemo : memoVerdict addressRequest (NameServer.destination (zeroRecord (some "id"))) =
      .ok (.id 42) := by
    refine memoVerdict_addressRequest ?_
    rw [memoPair_of_demands hdemands]
    rfl
  obtain ⟨text, reply, hsubmit⟩ :=
    addressRequest_submits hrecord (accountId_zeroRecord _) hmemo nofun
  exact ⟨hasks, hrecord, text, reply, hsubmit,
    ((server_memo_kept _ _ _ _ _ hasks hrecord).1 _ _ hdemands).1 text reply hsubmit⟩

/-- Not every memo that is supplied is kept: one without a type is lost. -/
theorem not_always_carried :
    ¬ ∀ (p : Pipeline) (c : Connections) (request : PaymentRequest) (σ : Type)
        (answer : σ → (q : Contact) → q.Answer × σ) (s : σ) (url : String) (r : Response)
        (members : Json.Members) (value : Json), Asks p c request answer s url r →
      NameServer.Record r members → members.get? "memo" = some value → value ≠ .null →
      value ≠ .text "" →
      ∀ text reply, (⟨.submit text, reply⟩ : (c : Call) × c.Answer) ∈
          (p.submit request).transcript (Dialogue.through c.put answer) s →
        ∃ type, p.SignedWith request text (Keeps type value) := by
  intro halways
  have hasks := addressRequest_asks (.success (.object (zeroRecord none)))
  have hrecord := @zeroRecord_record none nofun
  have hmemo : memoVerdict addressRequest (NameServer.destination (zeroRecord none)) =
      .ok .none := by
    refine memoVerdict_addressRequest ?_
    rw [memoPair_of_untyped untyped_zeroRecord]
    rfl
  obtain ⟨text, reply, hsubmit⟩ :=
    addressRequest_submits hrecord (accountId_zeroRecord _) hmemo nofun
  have hvalue : (zeroRecord none).get? "memo" = some (.text "42") := by
    simp [zeroRecord, Json.Members.get?]
  obtain ⟨type, k, w, signature, -, hsigned, hnative, hkept⟩ :=
    halways _ _ _ _ _ _ _ _ _ _ hasks hrecord hvalue (by simp) (by simp) text reply hsubmit
  obtain ⟨k', w', signature', -, hsigned', hnative', hnone⟩ :=
    hasks.none_of_untyped hrecord untyped_zeroRecord hsubmit
  rw [hsigned.transaction_eq Wire.Foreign.lawful_none hnative.known hnative'.known hsigned']
    at hkept
  exact hkept.ne_none hnone

end Pipeline

end Remittance

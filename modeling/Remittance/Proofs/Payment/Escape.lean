import Remittance.Proofs.Payment.Behaviour
import Remittance.Proofs.Payment.Course

/-!
# Ends without an outcome

A run that nobody gives up ends with an outcome, with one exception: the memo may be one that no
stage takes care of. It is to be read as a number and has more digits than a numeral from outside
may have, or it is to be sent as a text and is torn. The main statement says exactly when this
happens, in terms of the request and the replies.
-/

set_option autoImplicit false

namespace Remittance

/-- What an outcome promises: its state is the last one of its trail, and it holds an error of the
closed set if and only if it failed. -/
structure Outcome.Sound (o : Outcome) : Prop where
  last : o.trail.getLast? = some o.state
  ending : (o.state = .done ∧ o.error = none) ∨
    (o.state = .failed ∧ ∃ e, o.error = some e ∧ e.code ∈ PaymentCode.all)

/-- The closed set holds every code. -/
theorem PaymentCode.mem_all (c : PaymentCode) : c ∈ PaymentCode.all := by
  cases c <;> decide

/-- The type and the value that decide the memo of a payment: those of the destination if it
demands a memo, and else those of the request. -/
def PaymentRequest.memoPair (request : PaymentRequest) (d : Destination) : Text × Text :=
  match d.memoType with
  | some demanded => (demanded, d.memo.getD "")
  | none => (request.memoType, request.memo)

/-- The memos that no stage takes care of: a numeral with too many digits, and a torn text. -/
inductive MemoPolicy.Escapes : Text → Text → Escape → Prop where
  | digits (s : String) (hnumeral : Numeral.isNumeral s.toList = true)
      (hlong : Numeral.maxDigits < s.toList.length) :
    Escapes "id" s (.digits ⟨s.toList.length⟩)
  | torn (value : Text) (e : Text.Torn) (htorn : value.string = .error e) :
    Escapes "text" value (.torn e)

/-- The memo of a payment is one that no stage takes care of. -/
structure PaymentRequest.MemoEscapes (request : PaymentRequest) (d : Destination) (e : Escape) :
    Prop where
  paired : request.memoType.isEmpty = request.memo.isEmpty
  alone : d.mandatesMemo = true → request.memoType.isEmpty = true
  memo : MemoPolicy.Escapes (request.memoPair d).1 (request.memoPair d).2 e

namespace MemoPolicy

/-- A memo is decided by one pair, once the pairs of the request and the destination agree. -/
theorem decide_eq_parse {request : PaymentRequest} {d : Destination}
    (hpaired : request.memoType.isEmpty = request.memo.isEmpty)
    (halone : d.mandatesMemo = true → request.memoType.isEmpty = true) :
    MemoPolicy.decide request.memoType request.memo d =
      parse (request.memoPair d).1 (request.memoPair d).2 := by
  unfold MemoPolicy.decide PaymentRequest.memoPair
  rw [if_neg (by simp [hpaired])]
  cases hdemand : d.memoType with
  | none => rfl
  | some demanded =>
    have hempty := halone (by simp [Destination.mandatesMemo, hdemand])
    simp [hempty]

/-- A number escapes exactly if it is a numeral with too many digits. -/
theorem parseId_eq_escape_iff {value : Text} {e : Escape} :
    parseId value = .error (.escape e) ↔
      ∃ s : String, value = s ∧ Numeral.isNumeral s.toList = true ∧
        Numeral.maxDigits < s.toList.length ∧ e = .digits ⟨s.toList.length⟩ := by
  unfold parseId
  cases hstring : value.string? with
  | none =>
    constructor
    · intro hescape
      cases hescape
    · rintro ⟨s, rfl, -⟩
      rw [Text.string?_ofString] at hstring
      cases hstring
  | some s =>
    obtain rfl := Text.string?_eq_some_iff.mp hstring
    have hsame : ∀ s' : String, (s : Text) = s' ↔ s = s' := fun s' => Text.ofString_inj
    simp only [hsame, exists_eq_left', Numeral.read]
    by_cases hnumeral : Numeral.isNumeral s.toList = true
    · rw [if_pos hnumeral]
      by_cases hlength : s.toList.length ≤ Numeral.maxDigits
      · rw [if_pos hlength]
        dsimp only
        split <;> simp [Nat.not_lt.mpr hlength]
      · rw [if_neg hlength]
        simp [hnumeral, Nat.lt_of_not_le hlength, eq_comm]
    · rw [if_neg hnumeral]
      simp [hnumeral]

/-- A text escapes exactly if it is torn. -/
theorem parseText_eq_escape_iff {value : Text} {e : Escape} :
    parseText value = .error (.escape e) ↔
      ∃ torn, value.string = .error torn ∧ e = .torn torn := by
  unfold parseText Text.octets
  cases hstring : value.string with
  | ok s => simp [Except.map]
  | error torn => simp [Except.map, eq_comm]

/-- A hash never escapes. -/
theorem parseHash_ne_escape {value : Text} {e : Escape} :
    parseHash value ≠ .error (.escape e) := by
  intro hescape
  unfold parseHash at hescape
  split at hescape
  · split at hescape <;> cases hescape
  · cases hescape

/-- A memo escapes exactly if it is a numeral with too many digits or a torn text. -/
theorem parse_eq_escape_iff {type value : Text} {e : Escape} :
    parse type value = .error (.escape e) ↔ Escapes type value e := by
  unfold parse
  constructor
  · intro hescape
    split at hescape
    · cases hescape
    split at hescape
    next hid =>
      subst hid
      obtain ⟨s, rfl, hnumeral, hlong, rfl⟩ := parseId_eq_escape_iff.mp hescape
      exact .digits s hnumeral hlong
    split at hescape
    next htext =>
      subst htext
      obtain ⟨torn, htorn, rfl⟩ := parseText_eq_escape_iff.mp hescape
      exact .torn value torn htorn
    split at hescape
    · exact absurd hescape parseHash_ne_escape
    · cases hescape
  · rintro (⟨s, hnumeral, hlong⟩ | ⟨value, torn, htorn⟩)
    · rw [if_neg (by decide), if_pos rfl]
      exact parseId_eq_escape_iff.mpr ⟨s, rfl, hnumeral, hlong, rfl⟩
    · rw [if_neg (by decide), if_neg (by decide), if_pos rfl]
      exact parseText_eq_escape_iff.mpr ⟨torn, htorn, rfl⟩

/-- A memo escapes the policy exactly where no stage takes care of it. -/
theorem decide_eq_escape_iff {request : PaymentRequest} {d : Destination} {e : Escape} :
    MemoPolicy.decide request.memoType request.memo d = .error (.escape e) ↔
      request.MemoEscapes d e := by
  constructor
  · intro hescape
    by_cases hpaired : request.memoType.isEmpty = request.memo.isEmpty
    · by_cases halone : d.mandatesMemo = true → request.memoType.isEmpty = true
      · rw [decide_eq_parse hpaired halone] at hescape
        exact ⟨hpaired, halone, parse_eq_escape_iff.mp hescape⟩
      · unfold MemoPolicy.decide at hescape
        rw [if_neg (by simp [hpaired])] at hescape
        simp only [Classical.not_imp, Destination.mandatesMemo, Option.isSome_iff_exists] at halone
        obtain ⟨⟨demanded, hdemand⟩, hfull⟩ := halone
        rw [hdemand] at hescape
        simp [hfull] at hescape
    · unfold MemoPolicy.decide at hescape
      rw [if_pos (by simpa using hpaired)] at hescape
      cases hescape
  · rintro ⟨hpaired, halone, hmemo⟩
    rw [decide_eq_parse hpaired halone]
    exact parse_eq_escape_iff.mpr hmemo

end MemoPolicy

namespace Pipeline

variable {p : Pipeline} {request : PaymentRequest}

/-- The memo stage lets a refusal through exactly where no stage takes care of the memo. -/
theorem memoVerdict_eq_escaped_iff {d : Destination} {e : Escape} :
    memoVerdict request d = .error (.escaped e) ↔ request.MemoEscapes d e := by
  rw [← MemoPolicy.decide_eq_escape_iff]
  unfold memoVerdict
  split <;> simp_all

/-- The replies of an assembly bring it to a memo that no stage takes care of: the resolver named an
account, the operation was chosen, and the memo is such a one. -/
def ReachesEscape (request : PaymentRequest) (h : CallTranscript) (e : Escape) : Prop :=
  ∃ d look t, (⟨.resolve request.destination, .value d⟩ :: look : CallTranscript) <+: h ∧
    Chosen request d look t ∧ request.MemoEscapes d e

/-- A run comes to a memo that no stage takes care of: the secret is a key, the request is assembled
here, and the assembly comes to such a memo. -/
structure MeetsEscape (p : Pipeline) (request : PaymentRequest) (h : CallTranscript) (e : Escape) :
    Prop where
  source : (Keypair.ofSecret? request.source).isSome = true
  direct : p.takesRelay request = false
  memo : ReachesEscape request h e

/-- A call whose failures are causes never lets anything escape. -/
theorem judged_ne_escaped {α β : Type} {cause : Failure → Cause} {check : α → Except Cause β}
    {reply : Reply α} {escape : Escape} :
    reply.judged cause check ≠ .error (.escaped escape) := by
  intro hstop
  cases reply with
  | value a =>
    obtain ⟨c, -, hcause⟩ := mapError_eq_error_iff.mp hstop
    cases hcause
  | failed f => cases hstop
  | interrupted i => cases hstop

/-- A call without a check lets nothing escape either. -/
theorem verdict_ne_escaped {α : Type} {cause : Failure → Cause} {reply : Reply α}
    {escape : Escape} : reply.verdict cause ≠ .error (.escaped escape) := by
  intro hstop
  cases reply <;> cases hstop

/-- The look at the account that receives lets nothing escape. -/
theorem lookup_ne_escaped {accountId amount : Text} {reply : Reply Snapshot} {escape : Escape} :
    lookup accountId amount reply ≠ .error (.escaped escape) := by
  intro hstop
  cases reply with
  | value snapshot => cases hstop
  | failed f =>
    rw [lookup] at hstop
    split at hstop <;> cases hstop
  | interrupted i => cases hstop

/-- A destination whose memo was made does not bring the run to one that escapes. -/
theorem not_reachesEscape_of_memo {d : Destination} {rest : CallTranscript} {m : Memo}
    {escape : Escape} (hmemo : memoVerdict request d = .ok m) :
    ¬ ReachesEscape request (⟨.resolve request.destination, .value d⟩ :: rest) escape := by
  rintro ⟨d', look, t, hfirst, -, hescapes⟩
  obtain ⟨heq, -⟩ := List.cons_prefix_cons.mp hfirst
  cases heq
  rw [memoVerdict_eq_escaped_iff.mpr hescapes] at hmemo
  cases hmemo

/-- A look at the account that receives which chose an operation was not one that stopped. -/
theorem lookup_of_choice {accountId amount : Text} {look : CallTranscript} {t : Transfer}
    {reply : Reply Snapshot} (hchoice : Choice accountId amount .native look t)
    (hfirst : look <+: [⟨.account accountId, reply⟩]) : lookup accountId amount reply = .ok t := by
  cases hchoice with
  | present snapshot =>
    obtain ⟨heq, -⟩ := List.cons_prefix_cons.mp hfirst
    cases heq
    rfl
  | missing f hmissing =>
    obtain ⟨heq, -⟩ := List.cons_prefix_cons.mp hfirst
    cases heq
    rw [lookup, if_pos hmissing]

/-- Something escapes an assembly exactly if its replies bring it to such a memo. -/
theorem Assembly.escaped_iff {k : Keypair} {q q' : Progress} {h : CallTranscript}
    {e : Except Stop Envelope} {escape : Escape} (hassembly : Assembly p request k q h e q') :
    e = .error (.escaped escape) ↔ ReachesEscape request h escape := by
  cases hassembly with
  | resolve reply s hstop =>
    constructor
    · intro heq
      cases heq
      exact absurd hstop judged_ne_escaped
    · rintro ⟨d, look, t, hfirst, hchosen, -⟩
      obtain ⟨heq, -⟩ := List.cons_prefix_cons.mp hfirst
      cases heq
      rw [judged_destination_of_isAccountId hchosen.accountId] at hstop
      cases hstop
  | asset d c hd hstop =>
    constructor
    · intro heq
      cases heq
    · rintro ⟨d', look, t, hfirst, hchosen, -⟩
      obtain ⟨asset, hasset, -⟩ := hchosen.choice
      rw [hasset] at hstop
      cases hstop
  | lookup d reply s hd hasset hstop =>
    constructor
    · intro heq
      cases heq
      exact absurd hstop lookup_ne_escaped
    · rintro ⟨d', look, t, hfirst, hchosen, -⟩
      obtain ⟨heq, hlook⟩ := List.cons_prefix_cons.mp hfirst
      cases heq
      obtain ⟨asset, hasset', hchoice⟩ := hchosen.choice
      rw [hasset'] at hasset
      cases hasset
      rw [lookup_of_choice hchoice hlook] at hstop
      cases hstop
  | memo d look t s hchosen hstop =>
    -- The only stage that lets anything escape.
    constructor
    · intro heq
      cases heq
      exact ⟨d, look, t, List.prefix_rfl, hchosen, memoVerdict_eq_escaped_iff.mp hstop⟩
    · rintro ⟨d', look', t', hfirst, -, hescapes⟩
      obtain ⟨heq, -⟩ := List.cons_prefix_cons.mp hfirst
      cases heq
      rw [memoVerdict_eq_escaped_iff.mpr hescapes] at hstop
      cases hstop
      rfl
  | load d look t m reply s hchosen hmemo hstop =>
    constructor
    · intro heq
      cases heq
      exact absurd hstop verdict_ne_escaped
    · intro hreaches
      exact absurd hreaches (not_reachesEscape_of_memo hmemo)
  | build d look t m snapshot e hchosen hmemo hend =>
    constructor
    · rintro rfl
      obtain ⟨f, -, hcause⟩ := mapError_eq_error_iff.mp hend.symm
      cases hcause
    · intro hreaches
      exact absurd hreaches (not_reachesEscape_of_memo hmemo)

/-- An assembly that came to an envelope does not bring the run to a memo that escapes, whatever is
said after it. -/
theorem Assembly.not_reachesEscape {k : Keypair} {q q' : Progress} {h rest : CallTranscript}
    {envelope : Envelope} {escape : Escape}
    (hassembly : Assembly p request k q h (.ok envelope) q') :
    ¬ ReachesEscape request (h ++ rest) escape := by
  cases hassembly with
  | build d look t m snapshot e hchosen hmemo hend => exact not_reachesEscape_of_memo hmemo

/-- Something escapes a way to an envelope exactly if it is an assembly whose replies bring it to
such a memo. -/
theorem Making.escaped_iff {k : Keypair} {q q' : Progress} {h : CallTranscript}
    {e : Except Stop Envelope} {escape : Escape} (hmaking : Making p request k q h e q') :
    e = .error (.escaped escape) ↔
      p.takesRelay request = false ∧ ReachesEscape request h escape := by
  cases hmaking with
  | relay reply e hpath hend =>
    constructor
    · rintro rfl
      exact absurd hend.symm judged_ne_escaped
    · rintro ⟨hdirect, -⟩
      rw [hpath] at hdirect
      cases hdirect
  | direct h e q' hpath hassembly => rw [hassembly.escaped_iff, and_iff_right hpath]

/-- A way that came to an envelope does not bring the run to a memo that escapes, whatever is said
after it. -/
theorem Making.not_meetsEscape {k : Keypair} {q q' : Progress} {h rest : CallTranscript}
    {envelope : Envelope} {escape : Escape} (hmaking : Making p request k q h (.ok envelope) q') :
    ¬ MeetsEscape p request (h ++ rest) escape := by
  rintro ⟨-, hdirect, hmemo⟩
  cases hmaking with
  | relay reply e hpath hend =>
    rw [hpath] at hdirect
    cases hdirect
  | direct h e q' hpath hassembly => exact hassembly.not_reachesEscape hmemo

/-- Something escapes the stages of a run exactly if the replies bring the run to such a memo. -/
theorem Course.escaped_iff {q q' : Progress} {h : CallTranscript}
    {e : Except Stop (Json × String)} {escape : Escape} (hcourse : Course p request q h e q') :
    e = .error (.escaped escape) ↔ MeetsEscape p request h escape := by
  cases hcourse with
  | source hk =>
    constructor
    · intro heq
      cases heq
    · rintro ⟨hsource, -, -⟩
      simp [hk] at hsource
  | making k h s q' hk hmaking =>
    constructor
    · intro heq
      cases heq
      obtain ⟨hdirect, hmemo⟩ := hmaking.escaped_iff.mp rfl
      exact ⟨by simp [hk], hdirect, hmemo⟩
    · rintro ⟨-, hdirect, hmemo⟩
      cases hmaking.escaped_iff.mpr ⟨hdirect, hmemo⟩
      rfl
  | signing k h envelope q₁ reply s hk hmaking hstop =>
    constructor
    · intro heq
      cases heq
      exact absurd hstop verdict_ne_escaped
    · intro hmeets
      exact absurd hmeets hmaking.not_meetsEscape
  | submission k h envelope q₁ signed reply e hk hmaking hend =>
    constructor
    · intro heq
      rw [heq] at hend
      cases reply <;> cases hend
    · intro hmeets
      exact absurd hmeets hmaking.not_meetsEscape

/-- How the end of a run follows from how its stages ended, unless the caller gave up. -/
theorem conclude_outcome {e : Except Stop (Json × String)} (q : Progress)
    (hkept : e ≠ .error (.interrupted .canceled))
    (hescape : ¬ ∃ escape, e = .error (.escaped escape)) :
    ∃ o, (conclude (e, q)).1 = .outcome o ∧ o.Sound := by
  have hfailed : ∀ error : PaymentError, Outcome.Sound
      ⟨(failed q error.code).trail, .failed error⟩ := by
    intro error
    exact ⟨by simp [failed, Outcome.state], .inr ⟨rfl, error, rfl, error.code.mem_all⟩⟩
  cases e with
  | ok result =>
    exact ⟨_, rfl, by simp [done, Outcome.state], .inl ⟨rfl, rfl⟩⟩
  | error s =>
    cases s with
    | cause c => exact ⟨_, rfl, hfailed c.error⟩
    | escaped escape => exact absurd ⟨escape, rfl⟩ hescape
    | interrupted i =>
      cases i with
      | deadline => exact ⟨_, rfl, hfailed ⟨.canceled, none⟩⟩
      | canceled => exact absurd rfl hkept

/-- A run whose replies bring it to a memo that escapes is ended by it. -/
theorem escaped_of_meetsEscape {h : CallTranscript} {r : Ended × Progress} {escape : Escape}
    (hgoes : (p.submit request).Goes h r) (hmeets : MeetsEscape p request h escape) :
    r.1 = .escaped escape := by
  obtain ⟨e, q', hcourse, rfl⟩ := course_of_goes hgoes
  rw [hcourse.escaped_iff.mpr hmeets]
  rfl

/-- All replies for a destination that are in a transcript lead to a memo that escapes. -/
structure RepliesEscape (p : Pipeline) (request : PaymentRequest) (d : Destination)
    (h : CallTranscript) (escape : Escape) : Prop where
  source : (Keypair.ofSecret? request.source).isSome = true
  direct : p.takesRelay request = false
  resolved : ∀ reply : Reply Destination,
    (⟨.resolve request.destination, reply⟩ : (c : Call) × c.Answer) ∈ h → reply = .value d
  accountId : isAccountId d.accountId = true
  asset : ∃ asset, Asset.ofFields request.assetCode request.assetIssuer = .ok asset
  account : ∀ reply : Reply Snapshot,
    (⟨.account d.accountId, reply⟩ : (c : Call) × c.Answer) ∈ h →
      ∃ snapshot, reply = .value snapshot
  memo : request.MemoEscapes d escape

/-- With such replies an assembly comes to the memo that escapes. -/
theorem Assembly.reachesEscape {k : Keypair} {q q' : Progress} {h h' : CallTranscript}
    {e : Except Stop Envelope} {d : Destination} {escape : Escape}
    (hassembly : Assembly p request k q h e q') (hfirst : h <+: h')
    (hreplies : RepliesEscape p request d h' escape) : ReachesEscape request h' escape := by
  obtain ⟨asset, hasset⟩ := hreplies.asset
  have hescaped := memoVerdict_eq_escaped_iff.mpr hreplies.memo
  have hsame : ∀ d', (⟨.resolve request.destination, .value d'⟩ : (c : Call) × c.Answer) ∈ h →
      d' = d := by
    intro d' hmem
    cases hreplies.resolved (.value d') (hfirst.subset hmem)
    rfl
  cases hassembly with
  | resolve reply s hstop =>
    obtain rfl := hreplies.resolved reply (hfirst.subset (by simp))
    rw [judged_destination_of_isAccountId hreplies.accountId] at hstop
    cases hstop
  | asset d' c hd hstop =>
    rw [hasset] at hstop
    cases hstop
  | lookup d' reply s hd hasset' hstop =>
    obtain rfl := hsame d' (by simp)
    obtain ⟨snapshot, rfl⟩ := hreplies.account reply (hfirst.subset (by simp))
    cases hstop
  | memo d' look t s hchosen hstop =>
    obtain rfl := hsame d' (by simp)
    exact ⟨d', look, t, hfirst, hchosen, hreplies.memo⟩
  | load d' look t m reply s hchosen hmemo hstop =>
    obtain rfl := hsame d' (by simp)
    rw [hescaped] at hmemo
    cases hmemo
  | build d' look t m snapshot e hchosen hmemo hend =>
    obtain rfl := hsame d' (by simp)
    rw [hescaped] at hmemo
    cases hmemo

/-- With such replies every run comes to the memo that escapes. -/
theorem Course.meetsEscape {q q' : Progress} {h : CallTranscript}
    {e : Except Stop (Json × String)} {d : Destination} {escape : Escape}
    (hcourse : Course p request q h e q') (hreplies : RepliesEscape p request d h escape) :
    MeetsEscape p request h escape := by
  refine ⟨hreplies.source, hreplies.direct, ?_⟩
  have hmade : ∀ k h' e q', Making p request k q h' e q' → h' <+: h →
      ReachesEscape request h escape := by
    intro k h' e q' hmaking hfirst
    cases hmaking with
    | relay reply e hpath hend =>
      rw [hreplies.direct] at hpath
      cases hpath
    | direct h' e q' hpath hassembly => exact hassembly.reachesEscape hfirst hreplies
  cases hcourse with
  | source hk =>
    have hsource := hreplies.source
    rw [hk] at hsource
    cases hsource
  | making k h s q' hk hmaking => exact hmade k _ _ _ hmaking List.prefix_rfl
  | signing k h envelope q₁ reply s hk hmaking hstop =>
    exact hmade k _ _ _ hmaking (List.prefix_append _ _)
  | submission k h envelope q₁ signed reply e hk hmaking hend =>
    exact hmade k _ _ _ hmaking (List.prefix_append _ _)

/-- A request with a memo, from the key of zeros to its own account. -/
def memoOnlyRequest (memoType memo : Text) : PaymentRequest where
  source := "SAAAAAAAAAAAAAAAAAAAAAAAAAAAAAAAAAAAAAAAAAAAAAAAAAAABSU2"
  destination := "GAAAAAAAAAAAAAAAAAAAAAAAAAAAAAAAAAAAAAAAAAAAAAAAAAAAAWHF"
  amount := "1"
  memoType
  memo

/-- The plain replies bring a memo that escapes before the memo stage, where its own account demands
none. -/
theorem memoOnly_repliesEscape (p : Pipeline) {type value : Text} {escape : Escape}
    (htype : type.isEmpty = false) (hvalue : value.isEmpty = false)
    (hescapes : MemoPolicy.Escapes type value escape) :
    RepliesEscape p (memoOnlyRequest type value)
      { accountId := (memoOnlyRequest type value).destination }
      ((p.submit (memoOnlyRequest type value)).transcript Behaviour.plain.answer 0) escape where
  source := by
    show (Keypair.ofSecret?
      "SAAAAAAAAAAAAAAAAAAAAAAAAAAAAAAAAAAAAAAAAAAAAAAAAAAABSU2").isSome = true
    decide +kernel
  direct := rfl
  resolved := by
    intro reply hmem
    obtain ⟨turn, rfl⟩ := Dialogue.exists_state_of_mem_transcript _ _ _ hmem
    rfl
  accountId := by
    show isAccountId "GAAAAAAAAAAAAAAAAAAAAAAAAAAAAAAAAAAAAAAAAAAAAAAAAAAAAWHF" = true
    decide +kernel
  asset := ⟨.native, rfl⟩
  account := by
    intro reply hmem
    obtain ⟨turn, rfl⟩ := Dialogue.exists_state_of_mem_transcript _ _ _ hmem
    exact ⟨_, rfl⟩
  memo := {
    paired := by rw [memoOnlyRequest, htype, hvalue]
    alone := by
      intro hmandate
      cases hmandate
    memo := hescapes }

/-- Every plain run for a memo that escapes comes to it. -/
theorem memoOnly_meetsEscape (p : Pipeline) {type value : Text} {escape : Escape}
    (htype : type.isEmpty = false) (hvalue : value.isEmpty = false)
    (hescapes : MemoPolicy.Escapes type value escape) :
    MeetsEscape p (memoOnlyRequest type value)
      ((p.submit (memoOnlyRequest type value)).transcript Behaviour.plain.answer 0) escape := by
  obtain ⟨e, q', hcourse, -⟩ := course_of_goes
    (Dialogue.goes_run Behaviour.plain.answer 0 (p.submit (memoOnlyRequest type value)))
  exact hcourse.meetsEscape (memoOnly_repliesEscape p htype hvalue hescapes)

/-- A numeral of so many nines. -/
def nines (count : Nat) : String := String.ofList (List.replicate count '9')

/-- So many nines are too many digits. -/
theorem nines_escapes {count : Nat} (hcount : Numeral.maxDigits < count) :
    MemoPolicy.Escapes "id" (nines count) (.digits ⟨count⟩) := by
  have hsome : count ≠ 0 := by
    intro hzero
    rw [hzero] at hcount
    exact Nat.not_lt_zero _ hcount
  have hlength : (nines count).toList.length = count := by simp [nines]
  have hescapes := MemoPolicy.Escapes.digits (nines count)
    (by simp [nines, Numeral.isNumeral, hsome]) (by rwa [hlength])
  rwa [hlength] at hescapes

/-- So many nines are some. -/
theorem isEmpty_nines {count : Nat} (hcount : Numeral.maxDigits < count) :
    (nines count : Text).isEmpty = false := by
  rw [Text.isEmpty_ofString, ← Bool.not_eq_true, String.isEmpty_iff, nines]
  have hsome : count ≠ 0 := by
    intro hzero
    rw [hzero] at hcount
    exact Nat.not_lt_zero _ hcount
  simpa using hsome

/-- A pipeline on the test network without a relay. -/
def testPipeline : Pipeline where
  network := "Test SDF Network ; September 2015"
  clock := .zero false
  hasRelay := false

/-- A text of half a pair alone. -/
def halfText : Text := ⟨[.half 0]⟩

/-- Half a pair is sent by no stage. -/
theorem halfText_escapes : MemoPolicy.Escapes "text" halfText (.torn ⟨0, 0, 1⟩) :=
  .torn halfText _ rfl

end Pipeline

end Remittance

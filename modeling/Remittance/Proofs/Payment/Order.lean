import Remittance.Proofs.Payment.Escape
import Remittance.Proofs.Payment.Fault

/-!
# The order of the stages

Which stage decides how a run ends. The main statement is that the first stage that fails decides
the error of the run, and that the calls made are those of the stages up to that one; a memo that no
stage takes care of ends the run without an error, once the stages before it are passed. It is read
off the courses of a run, each of which passes the stages before the one that ends it.
-/

set_option autoImplicit false

namespace Remittance

namespace Pipeline

variable {p : Pipeline} {request : PaymentRequest} {b : Behaviour} {k : Keypair} {d : Destination}
  {asked : List Call} {verdict : Option PaymentCode} {stages : List Stage}

/-- An asset that is sound passes both of its stages. -/
theorem fault_asset_eq_none {asset : Asset}
    (hasset : Asset.ofFields request.assetCode request.assetIssuer = .ok asset) :
    b.fault p request .assetFields = none ∧ b.fault p request .issuer = none := by
  unfold Asset.ofFields at hasset
  unfold Behaviour.fault
  split at hasset
  · rename_i hcode hissuer
    split at hasset
    · rename_i hid
      simp [hcode, hissuer, hid]
    · cases hasset
  · rename_i hcode hissuer
    simp [hcode, hissuer]
  · cases hasset

/-- An asset that is not sound fails in the first of its stages that it does not pass. -/
theorem settled_asset {c : Cause}
    (hasset : Asset.ofFields request.assetCode request.assetIssuer = .error c) :
    Settled (b.fault p request) (b.call? p request) (.assetFields :: .issuer :: stages) []
      (some c.code) := by
  unfold Asset.ofFields at hasset
  split at hasset
  · rename_i hcode hissuer
    split at hasset
    · cases hasset
    · rename_i hid
      cases hasset
      refine .pass ?_ rfl (.stop ?_ rfl)
      · simp [Behaviour.fault, hcode, hissuer]
      · simp [Behaviour.fault, hissuer, hid, Cause.code]
  · cases hasset
  · rename_i hneither hboth
    cases hasset
    refine .stop ?_ rfl
    have hhalf : request.assetCode.isEmpty ≠ request.assetIssuer.isEmpty := by
      intro heq
      cases hcode : request.assetCode.isEmpty with
      | true => exact hboth hcode (heq.symm.trans hcode)
      | false => exact hneither hcode (heq.symm.trans hcode)
    simp [Behaviour.fault, hhalf, Cause.code]

/-- A destination that was resolved to a valid account passes the stages up to the asset. -/
theorem settled_resolved (hresolved : b.resolved request = .ok d)
    (hid : isAccountId d.accountId = true)
    (hrest : Settled (b.fault p request) (b.call? p request) stages asked verdict) :
    Settled (b.fault p request) (b.call? p request) (.resolution :: .accountId :: stages)
      (.resolve request.destination :: asked) verdict := by
  refine .pass_asking ?_ rfl (.pass ?_ rfl hrest)
  · simp [Behaviour.fault, hresolved, failureCode]
  · simp [Behaviour.fault, hresolved, hid, Except.toOption]

/-- Once the operation was chosen, the lookup of the account that receives has been passed. -/
theorem Chosen.settled {look : CallTranscript} {t : Transfer} (hchosen : Chosen request d look t)
    (hresolved : b.resolved request = .ok d) (hlook : b.Agrees 1 look)
    (hrest : Settled (b.fault p request) (b.call? p request) stages asked verdict) :
    Settled (b.fault p request) (b.call? p request)
      ((if request.isNative then [.lookup] else []) ++ stages) (look.questions ++ asked)
      verdict := by
  obtain ⟨asset, hasset, hchoice⟩ := hchosen.choice
  have hnative := ofFields_isNative hasset
  cases hchoice with
  | credit code issuer =>
    rw [if_neg (by simp [hnative])]
    exact hrest
  | present snapshot =>
    have hlooked : b.looked d = .ok snapshot := Reply.eq_ok_of_value hlook.1
    rw [if_pos (hnative.mpr rfl)]
    refine .pass_asking ?_ ?_ hrest
    · simp [Behaviour.fault, hresolved, hlooked, Except.toOption]
    · simp [Behaviour.call?, hresolved, Except.toOption]
  | missing f hmissing =>
    have hlooked : b.looked d = .error f := Reply.eq_error_of_failed hlook.1
    rw [if_pos (hnative.mpr rfl)]
    refine .pass_asking ?_ ?_ hrest
    · simp [Behaviour.fault, hresolved, hlooked, hmissing, Except.toOption]
    · simp [Behaviour.call?, hresolved, Except.toOption]

/-- The operation that was chosen is the one that the behaviour leads to, and the account that pays
is loaded right after the choice. -/
theorem Chosen.transfer_eq {look : CallTranscript} {t : Transfer}
    (hchosen : Chosen request d look t) (hlook : b.Agrees 1 look) :
    b.transfer? request d = some t ∧ 1 + look.length = Behaviour.loadTurn request := by
  obtain ⟨asset, hasset, hchoice⟩ := hchosen.choice
  have hnative := ofFields_isNative hasset
  unfold Behaviour.transfer? Behaviour.loadTurn
  cases hchoice with
  | credit code issuer =>
    obtain ⟨rfl, rfl⟩ := ofFields_credit hasset
    rw [if_neg (by simp [hnative]), if_neg (by simp [hnative])]
    exact ⟨rfl, rfl⟩
  | present snapshot =>
    have hlooked : b.looked d = .ok snapshot := Reply.eq_ok_of_value hlook.1
    rw [if_pos (hnative.mpr rfl), if_pos (hnative.mpr rfl), hlooked]
    exact ⟨rfl, rfl⟩
  | missing f hmissing =>
    have hlooked : b.looked d = .error f := Reply.eq_error_of_failed hlook.1
    rw [if_pos (hnative.mpr rfl), if_pos (hnative.mpr rfl), hlooked]
    simp [hmissing]

/-- The account that pays is loaded where the behaviour says. -/
theorem Chosen.load_agrees {look : CallTranscript} {t : Transfer} {reply : Reply Snapshot}
    (hchosen : Chosen request d look t)
    (hagrees : b.Agrees 1 (look ++ [⟨.account k.accountId, reply⟩])) :
    b.Agrees 1 look ∧ reply = .ofExcept (b.loaded request k) := by
  obtain ⟨hlook, hload⟩ := Behaviour.agrees_append.mp hagrees
  rw [(hchosen.transfer_eq hlook).2] at hload
  exact ⟨hlook, hload.1⟩

/-- A memo that was let through is the one that was decided. -/
theorem decide_of_memoVerdict {m : Memo} (hmemo : memoVerdict request d = .ok m) :
    MemoPolicy.decide request.memoType request.memo d = .ok m := by
  unfold memoVerdict at hmemo
  split at hmemo
  · rename_i m' hdecide
    cases hmemo
    exact hdecide
  · cases hmemo
  · cases hmemo

/-- A memo that was let through passes its stage. -/
theorem fault_memo_eq_none {m : Memo} (hresolved : b.resolved request = .ok d)
    (hmemo : memoVerdict request d = .ok m) : b.fault p request .memo = none := by
  simp [Behaviour.fault, hresolved, decide_of_memoVerdict hmemo, Except.toOption]

/-- A memo that was refused fails its stage, unless it escapes. -/
theorem fault_memo_of_verdict {s : Stop} (hresolved : b.resolved request = .ok d)
    (hcaught : ∀ escape, s ≠ .escaped escape) (hmemo : memoVerdict request d = .error s) :
    ∃ c, s = .cause c ∧ b.fault p request .memo = some c.code := by
  unfold memoVerdict at hmemo
  split at hmemo
  · cases hmemo
  · rename_i c hdecide
    cases hmemo
    exact ⟨c, rfl, by simp [Behaviour.fault, hresolved, hdecide, Except.toOption]⟩
  · cases hmemo
    exact absurd rfl (hcaught _)

/-- The stages of an assembly, one by one. -/
theorem assemblyStages_append : request.assemblyStages ++ stages =
    .resolution :: .accountId :: .assetFields :: .issuer ::
      ((if request.isNative then [.lookup] else []) ++ .memo :: .load :: .build :: stages) := by
  simp [PaymentRequest.assemblyStages]

/-- What is there once the account that pays was loaded. -/
structure Gathered (b : Behaviour) (request : PaymentRequest) (k : Keypair)
    (d : Destination) (t : Transfer) (m : Memo) (snapshot : Snapshot) : Prop where
  source : Keypair.ofSecret? request.source = some k
  resolved : b.resolved request = .ok d
  transfer : b.transfer? request d = some t
  memo : MemoPolicy.decide request.memoType request.memo d = .ok m
  loaded : b.loaded request k = .ok snapshot

/-- With all that is there, the transaction is built. -/
theorem Gathered.built {t : Transfer} {m : Memo} {snapshot : Snapshot}
    (hall : Gathered b request k d t m snapshot) :
    b.built? p request = some (p.envelope k.accountId snapshot t m) := by
  simp [Behaviour.built?, hall.source, hall.resolved, hall.transfer, hall.memo, hall.loaded,
    Except.toOption]

/-- Once the operation is chosen, the memo made and the account loaded, all is there. -/
theorem Chosen.gathered {look : CallTranscript} {t : Transfer} {m : Memo} {snapshot : Snapshot}
    (hchosen : Chosen request d look t) (hk : Keypair.ofSecret? request.source = some k)
    (hresolved : b.resolved request = .ok d) (hmemo : memoVerdict request d = .ok m)
    (hlook : b.Agrees 1 look) (hload : .value snapshot = Reply.ofExcept (b.loaded request k)) :
    Gathered b request k d t m snapshot where
  source := hk
  resolved := hresolved
  transfer := (hchosen.transfer_eq hlook).1
  memo := decide_of_memoVerdict hmemo
  loaded := Reply.eq_ok_of_value hload

/-- A run up to the choice of the operation passes the stages before the memo. -/
theorem settled_chosen {look : CallTranscript} {t : Transfer} (hchosen : Chosen request d look t)
    (hresolved : b.resolved request = .ok d) (hlook : b.Agrees 1 look)
    (hrest : Settled (b.fault p request) (b.call? p request) stages asked verdict) :
    Settled (b.fault p request) (b.call? p request)
      (.resolution :: .accountId :: .assetFields :: .issuer ::
        ((if request.isNative then [.lookup] else []) ++ stages))
      (.resolve request.destination :: (look.questions ++ asked)) verdict := by
  obtain ⟨asset, hasset, hchoice⟩ := hchosen.choice
  obtain ⟨hfields, hissuer⟩ := fault_asset_eq_none (p := p) (b := b) hasset
  exact settled_resolved hresolved hchosen.accountId (.pass hfields rfl (.pass hissuer rfl
    (hchosen.settled hresolved hlook hrest)))

/-- A run up to the load of the account that pays passes the stages before it. -/
theorem settled_gathered {look : CallTranscript} {t : Transfer} {m : Memo}
    (hchosen : Chosen request d look t) (hmemo : memoVerdict request d = .ok m)
    (hresolved : b.resolved request = .ok d) (hlook : b.Agrees 1 look)
    (hrest : Settled (b.fault p request) (b.call? p request) (.load :: .build :: stages) asked
      verdict) :
    Settled (b.fault p request) (b.call? p request) (request.assemblyStages ++ stages)
      (.resolve request.destination :: (look.questions ++ asked)) verdict := by
  rw [assemblyStages_append]
  exact settled_chosen hchosen hresolved hlook
    (.pass (fault_memo_eq_none hresolved hmemo) rfl hrest)

/-- A resolver's answer that stops the run does so in one of the two stages that judge it. -/
theorem settled_unresolved {reply : Reply Destination} {s : Stop}
    (hagrees : reply = .ofExcept (b.resolved request))
    (hstop : reply.judged (.unresolvable request.destination)
      (checkDestination request.destination) = .error s) :
    ∃ c, s = .cause c ∧
      Settled (b.fault p request) (b.call? p request) (.resolution :: .accountId :: stages)
        [.resolve request.destination] (some c.code) := by
  cases reply with
  | value d =>
    have hresolved : b.resolved request = .ok d := Reply.eq_ok_of_value hagrees
    obtain ⟨c, hcheck, rfl⟩ := mapError_eq_error_iff.mp hstop
    unfold checkDestination at hcheck
    split at hcheck
    · cases hcheck
    · rename_i hid
      cases hcheck
      refine ⟨_, rfl, .pass_asking ?_ rfl (.stop ?_ rfl)⟩
      · simp [Behaviour.fault, hresolved, failureCode]
      · simp [Behaviour.fault, hresolved, hid, Except.toOption, Cause.code]
  | failed f =>
    have hresolved : b.resolved request = .error f := Reply.eq_error_of_failed hagrees
    cases hstop
    refine ⟨_, rfl, .stop_asking ?_ rfl⟩
    simp [Behaviour.fault, hresolved, failureCode, Cause.code]
  | interrupted i => exact absurd hagrees Reply.interrupted_ne_ofExcept

/-- An answer to the look at the account that receives which stops the run does so there. -/
theorem settled_lookup {reply : Reply Snapshot} {amount : Text} {s : Stop}
    (hresolved : b.resolved request = .ok d) (hagrees : reply = .ofExcept (b.looked d))
    (hstop : Pipeline.lookup d.accountId amount reply = .error s) :
    ∃ c, s = .cause c ∧
      Settled (b.fault p request) (b.call? p request) (.lookup :: stages) [.account d.accountId]
        (some c.code) := by
  cases reply with
  | value snapshot => cases hstop
  | failed f =>
    have hlooked : b.looked d = .error f := Reply.eq_error_of_failed hagrees
    rw [Pipeline.lookup] at hstop
    split at hstop
    · cases hstop
    · rename_i hother
      cases hstop
      refine ⟨_, rfl, .stop_asking ?_ ?_⟩
      · simp [Behaviour.fault, hresolved, hlooked, hother, Except.toOption, Cause.code]
      · simp [Behaviour.call?, hresolved, Except.toOption]
  | interrupted i => exact absurd hagrees Reply.interrupted_ne_ofExcept

/-- An answer to the load of the account that pays which stops the run does so there. -/
theorem settled_unloaded {reply : Reply Snapshot} {s : Stop}
    (hk : Keypair.ofSecret? request.source = some k)
    (hagrees : reply = .ofExcept (b.loaded request k))
    (hstop : reply.verdict (loadCause k.accountId) = .error s) :
    ∃ c, s = .cause c ∧
      Settled (b.fault p request) (b.call? p request) (.load :: stages) [.account k.accountId]
        (some c.code) := by
  cases reply with
  | value snapshot => cases hstop
  | failed f =>
    have hloaded : b.loaded request k = .error f := Reply.eq_error_of_failed hagrees
    cases hstop
    refine ⟨_, rfl, .stop_asking ?_ (by simp [Behaviour.call?, hk])⟩
    unfold loadCause
    split
    · rename_i hmissing
      simp [Behaviour.fault, hk, hloaded, failureCode, hmissing, Cause.code]
    · rename_i hother
      simp [Behaviour.fault, hk, hloaded, failureCode, hother, Cause.code]
  | interrupted i => exact absurd hagrees Reply.interrupted_ne_ofExcept

/-- An assembly that stops does so in the first of its stages that fails. -/
theorem Assembly.settled {q q' : Progress} {h : CallTranscript} {s : Stop}
    (hassembly : Assembly p request k q h (.error s) q')
    (hk : Keypair.ofSecret? request.source = some k) (hagrees : b.Agrees 0 h)
    (hcaught : ∀ escape, s ≠ .escaped escape) :
    ∃ c, s = .cause c ∧
      Settled (b.fault p request) (b.call? p request) (request.assemblyStages ++ stages)
        h.questions (some c.code) := by
  cases hassembly with
  | resolve reply s hstop =>
    rw [assemblyStages_append]
    exact settled_unresolved hagrees.1 hstop
  | asset d c hd hstop =>
    have hresolved : b.resolved request = .ok d := Reply.eq_ok_of_value hagrees.1
    rw [assemblyStages_append]
    exact ⟨c, rfl, settled_resolved hresolved hd (settled_asset hstop)⟩
  | lookup d reply s hd hasset hstop =>
    have hresolved : b.resolved request = .ok d := Reply.eq_ok_of_value hagrees.1
    obtain ⟨hfields, hissuer⟩ := fault_asset_eq_none (p := p) (b := b) hasset
    have hstopped : ∃ c, s = .cause c ∧ Settled (b.fault p request) (b.call? p request)
        (.lookup :: .memo :: .load :: .build :: stages) [.account d.accountId] (some c.code) :=
      settled_lookup hresolved hagrees.2.1 hstop
    obtain ⟨c, rfl, hlookup⟩ := hstopped
    rw [assemblyStages_append, if_pos ((ofFields_isNative hasset).mpr rfl)]
    exact ⟨c, rfl, settled_resolved hresolved hd (.pass hfields rfl (.pass hissuer rfl hlookup))⟩
  | memo d look t s hchosen hstop =>
    have hresolved : b.resolved request = .ok d := Reply.eq_ok_of_value hagrees.1
    obtain ⟨c, rfl, hfault⟩ := fault_memo_of_verdict (p := p) hresolved hcaught hstop
    have hsettled := @settled_chosen p request b d [] (some c.code)
      (.memo :: .load :: .build :: stages) look t hchosen hresolved hagrees.2 (.stop hfault rfl)
    rw [List.append_nil] at hsettled
    rw [assemblyStages_append]
    exact ⟨c, rfl, hsettled⟩
  | load d look t m reply s hchosen hmemo hstop =>
    have hresolved : b.resolved request = .ok d := Reply.eq_ok_of_value hagrees.1
    obtain ⟨hlook, hreply⟩ := hchosen.load_agrees hagrees.2
    have hunloaded : ∃ c, s = .cause c ∧ Settled (b.fault p request) (b.call? p request)
        (.load :: .build :: stages) [.account k.accountId] (some c.code) :=
      settled_unloaded hk hreply hstop
    obtain ⟨c, rfl, hload⟩ := hunloaded
    refine ⟨c, rfl, ?_⟩
    rw [Transcript.questions_cons, Transcript.questions_append]
    exact settled_gathered hchosen hmemo hresolved hlook hload
  | build d look t m snapshot e hchosen hmemo hend =>
    have hresolved : b.resolved request = .ok d := Reply.eq_ok_of_value hagrees.1
    obtain ⟨hlook, hreply⟩ := hchosen.load_agrees hagrees.2
    obtain ⟨f, henvelope, hcause⟩ := mapError_eq_error_iff.mp hend.symm
    have hbuilt := (hchosen.gathered hk hresolved hmemo hlook hreply).built (p := p)
    cases hcause
    refine ⟨_, rfl, ?_⟩
    rw [Transcript.questions_cons, Transcript.questions_append]
    refine settled_gathered hchosen hmemo hresolved hlook (.pass_asking ?_ ?_ (.stop ?_ rfl))
    · simp [Behaviour.fault, hk, Reply.eq_ok_of_value hreply, failureCode]
    · simp [Behaviour.call?, hk]
    · simp [Behaviour.fault, hbuilt, henvelope, failureCode, Cause.code]

/-- An assembly that comes to an envelope has made the one that the behaviour leads to, right before
the signer's turn. -/
theorem Assembly.built {q q' : Progress} {h : CallTranscript} {envelope : Envelope}
    (hassembly : Assembly p request k q h (.ok envelope) q')
    (hk : Keypair.ofSecret? request.source = some k) (hagrees : b.Agrees 0 h) :
    b.built? p request = some (.ok envelope) ∧ h.length = Behaviour.loadTurn request + 1 := by
  cases hassembly with
  | build d look t m snapshot e hchosen hmemo hend =>
    have hresolved : b.resolved request = .ok d := Reply.eq_ok_of_value hagrees.1
    obtain ⟨hlook, hreply⟩ := hchosen.load_agrees hagrees.2
    have hbuilt := (hchosen.gathered hk hresolved hmemo hlook hreply).built (p := p)
    rw [mapError_eq_ok_iff.mp hend.symm] at hbuilt
    refine ⟨hbuilt, ?_⟩
    rw [List.length_cons, List.length_append, ← (hchosen.transfer_eq hlook).2, Nat.add_comm 1]
    rfl

/-- An assembly that comes to an envelope passes its stages. -/
theorem Assembly.passed {q q' : Progress} {h rest : CallTranscript} {envelope : Envelope}
    (hassembly : Assembly p request k q h (.ok envelope) q')
    (hk : Keypair.ofSecret? request.source = some k) (hagrees : b.Agrees 0 h)
    (hrest : Settled (b.fault p request) (b.call? p request) stages rest.questions verdict) :
    Settled (b.fault p request) (b.call? p request) (request.assemblyStages ++ stages)
      (h ++ rest).questions verdict := by
  have hbuilt := (hassembly.built hk hagrees).1
  cases hassembly with
  | build d look t m snapshot e hchosen hmemo hend =>
    have hresolved : b.resolved request = .ok d := Reply.eq_ok_of_value hagrees.1
    obtain ⟨hlook, hreply⟩ := hchosen.load_agrees hagrees.2
    have hload : Settled (b.fault p request) (b.call? p request) (.load :: .build :: stages)
        (.account k.accountId :: rest.questions) verdict := by
      refine .pass_asking ?_ ?_ (.pass ?_ rfl hrest)
      · simp [Behaviour.fault, hk, Reply.eq_ok_of_value hreply, failureCode]
      · simp [Behaviour.call?, hk]
      · simp [Behaviour.fault, hbuilt, failureCode]
    simpa using settled_gathered hchosen hmemo hresolved hlook hload

/-- A way to an envelope that stops does so in the first of its stages that fails. -/
theorem Making.settled {q q' : Progress} {h : CallTranscript} {s : Stop}
    (hmaking : Making p request k q h (.error s) q')
    (hk : Keypair.ofSecret? request.source = some k) (hagrees : b.Agrees 0 h)
    (hcaught : ∀ escape, s ≠ .escaped escape) :
    ∃ c, s = .cause c ∧
      Settled (b.fault p request) (b.call? p request) (p.makingStages request ++ stages)
        h.questions (some c.code) := by
  unfold makingStages
  cases hmaking with
  | direct h e q' hpath hassembly =>
    rw [hpath, if_neg (by simp)]
    exact hassembly.settled hk hagrees hcaught
  | relay reply e hpath hend =>
    rw [if_pos hpath]
    have hcall : b.call? p request .relay = some (.relay (relayRequest request k)) := by
      simp [Behaviour.call?, hk]
    cases reply with
    | value text =>
      have hrelayed : b.relayed request k = .ok text := Reply.eq_ok_of_value hagrees.1
      obtain ⟨c, hcheck, rfl⟩ := mapError_eq_error_iff.mp hend.symm
      unfold checkRelayed at hcheck
      split at hcheck
      · cases hcheck
      · rename_i hnone
        cases hcheck
        refine ⟨_, rfl, .pass_asking ?_ hcall (.stop ?_ rfl)⟩
        · simp [Behaviour.fault, hk, hrelayed, failureCode]
        · simp [Behaviour.fault, hk, hrelayed, hnone, Except.toOption, Cause.code]
    | failed f =>
      have hrelayed : b.relayed request k = .error f := Reply.eq_error_of_failed hagrees.1
      cases hend
      refine ⟨_, rfl, .stop_asking ?_ hcall⟩
      simp [Behaviour.fault, hk, hrelayed, failureCode, Cause.code]
    | interrupted i => exact absurd hagrees.1 Reply.interrupted_ne_ofExcept

/-- The relay's answer that was let through is the envelope to be signed. -/
theorem relayed_of_judged {reply : Reply Text} {envelope : Envelope}
    (hagrees : reply = .ofExcept (b.relayed request k))
    (hend : .ok envelope = reply.judged .relay p.checkRelayed) :
    ∃ text, b.relayed request k = .ok text ∧
      Envelope.ofTransactionText? p.foreign text p.network = some envelope := by
  obtain ⟨text, rfl, hread⟩ := judged_relayed_eq_ok hend.symm
  exact ⟨text, Reply.eq_ok_of_value hagrees, hread⟩

/-- A way that comes to an envelope has made the one that the behaviour leads to, right before the
signer's turn. -/
theorem Making.made {q q' : Progress} {h : CallTranscript} {envelope : Envelope}
    (hmaking : Making p request k q h (.ok envelope) q')
    (hk : Keypair.ofSecret? request.source = some k) (hagrees : b.Agrees 0 h) :
    b.envelope? p request = some envelope ∧ h.length = Behaviour.signTurn p request := by
  unfold Behaviour.envelope? Behaviour.signTurn
  cases hmaking with
  | direct h e q' hpath hassembly =>
    obtain ⟨hbuilt, hlength⟩ := hassembly.built hk hagrees
    simp only [hpath, Bool.false_eq_true, if_false]
    exact ⟨by simp [hbuilt, Except.toOption], hlength⟩
  | relay reply e hpath hend =>
    obtain ⟨text, hrelayed, hsome⟩ := relayed_of_judged hagrees.1 hend
    simp only [hpath, if_true]
    exact ⟨by simp [hk, hrelayed, hsome, Except.toOption], rfl⟩

/-- A way that comes to an envelope passes its stages. -/
theorem Making.passed {q q' : Progress} {h rest : CallTranscript} {envelope : Envelope}
    (hmaking : Making p request k q h (.ok envelope) q')
    (hk : Keypair.ofSecret? request.source = some k) (hagrees : b.Agrees 0 h)
    (hrest : Settled (b.fault p request) (b.call? p request) stages rest.questions verdict) :
    Settled (b.fault p request) (b.call? p request) (p.makingStages request ++ stages)
      (h ++ rest).questions verdict := by
  unfold makingStages
  cases hmaking with
  | direct h e q' hpath hassembly =>
    rw [hpath, if_neg (by simp)]
    exact hassembly.passed hk hagrees hrest
  | relay reply e hpath hend =>
    obtain ⟨text, hrelayed, hsome⟩ := relayed_of_judged hagrees.1 hend
    rw [if_pos hpath]
    refine .pass_asking ?_ ?_ (.pass ?_ rfl hrest)
    · simp [Behaviour.fault, hk, hrelayed, failureCode]
    · simp [Behaviour.call?, hk]
    · simp [Behaviour.fault, hk, hrelayed, hsome, Except.toOption]

/-- A refusal of the signer stops the run at its stage. -/
theorem settled_unsigned {envelope : Envelope} {reply : Reply Signed} {s : Stop}
    (hk : Keypair.ofSecret? request.source = some k)
    (henvelope : b.envelope? p request = some envelope)
    (hagrees : reply = .ofExcept (b (Behaviour.signTurn p request) (.sign k envelope)))
    (hstop : reply.verdict .signing = .error s) :
    ∃ c, s = .cause c ∧
      Settled (b.fault p request) (b.call? p request) (.signing :: stages) [.sign k envelope]
        (some c.code) := by
  cases reply with
  | value signed => cases hstop
  | failed f =>
    have hsigned : b.signed? p request = some (.error f) := by
      simp [Behaviour.signed?, hk, henvelope, Reply.eq_error_of_failed hagrees]
    cases hstop
    refine ⟨_, rfl, .stop_asking ?_ ?_⟩
    · simp [Behaviour.fault, hsigned, failureCode, Cause.code]
    · simp [Behaviour.call?, hk, henvelope]
  | interrupted i => exact absurd hagrees Reply.interrupted_ne_ofExcept

/-- What the ledger says to a signed envelope ends the last stage. -/
theorem settled_submission {signed : Signed} {reply : Reply Json}
    (hsigned : b.signed? p request = some (.ok signed))
    (hagrees : reply = .ofExcept (b (Behaviour.signTurn p request + 1) (.submit signed.envelope))) :
    (∃ result, reply = .value result ∧
        Settled (b.fault p request) (b.call? p request) [.submission] [.submit signed.envelope]
          none) ∨
      ∃ f, reply = .failed f ∧
        Settled (b.fault p request) (b.call? p request) [.submission] [.submit signed.envelope]
          (some (Cause.submission signed.hash f).code) := by
  have hcall : b.call? p request .submission = some (.submit signed.envelope) := by
    simp [Behaviour.call?, hsigned, Except.toOption]
  cases reply with
  | value result =>
    have hsubmitted : b.submitted? p request = some (.ok result) := by
      simp [Behaviour.submitted?, hsigned, Except.toOption, Reply.eq_ok_of_value hagrees]
    refine .inl ⟨result, rfl, .pass_asking ?_ hcall .nil⟩
    simp [Behaviour.fault, hsubmitted, failureCode]
  | failed f =>
    have hsubmitted : b.submitted? p request = some (.error f) := by
      simp [Behaviour.submitted?, hsigned, Except.toOption, Reply.eq_error_of_failed hagrees]
    refine .inr ⟨f, rfl, .stop_asking ?_ hcall⟩
    simp [Behaviour.fault, hsubmitted, failureCode, Cause.code]
  | interrupted i => exact absurd hagrees Reply.interrupted_ne_ofExcept

/-- A secret that is a key passes its stage. -/
theorem fault_source_eq_none (hk : Keypair.ofSecret? request.source = some k) :
    b.fault p request .source = none := by
  simp [Behaviour.fault, hk]

/-- Every course ends with the first fault of its stages, or without one. -/
theorem Course.settled {q q' : Progress} {h : CallTranscript} {e : Except Stop (Json × String)}
    (hcourse : Course p request q h e q') (hagrees : b.Agrees 0 h)
    (hcaught : ∀ escape, e ≠ .error (.escaped escape)) :
    (∃ result, e = .ok result ∧
        Settled (b.fault p request) (b.call? p request) (p.order request) h.questions none) ∨
      ∃ c, e = .error (.cause c) ∧
        Settled (b.fault p request) (b.call? p request) (p.order request) h.questions
          (some c.code) := by
  unfold order
  cases hcourse with
  | source hk =>
    refine .inr ⟨_, rfl, .stop ?_ rfl⟩
    simp [Behaviour.fault, hk, Cause.code]
  | making k h s q' hk hmaking =>
    have hstop : ∀ escape, s ≠ .escaped escape := by
      rintro escape rfl
      exact hcaught escape rfl
    obtain ⟨c, rfl, hsettled⟩ := hmaking.settled hk hagrees hstop
    exact .inr ⟨c, rfl, .pass (fault_source_eq_none hk) rfl hsettled⟩
  | signing k h envelope q₁ reply s hk hmaking hstop =>
    obtain ⟨hmade, hsign⟩ := Behaviour.agrees_append.mp hagrees
    obtain ⟨henvelope, hturn⟩ := hmaking.made hk hmade
    rw [Nat.zero_add, hturn] at hsign
    have hunsigned : ∃ c, s = .cause c ∧ Settled (b.fault p request) (b.call? p request)
        [.signing, .submission] [.sign k envelope] (some c.code) :=
      settled_unsigned hk henvelope hsign.1 hstop
    obtain ⟨c, rfl, hsettled⟩ := hunsigned
    exact .inr ⟨c, rfl, .pass (fault_source_eq_none hk) rfl (hmaking.passed hk hmade hsettled)⟩
  | submission k h envelope q₁ signed reply e hk hmaking hend =>
    obtain ⟨hmade, hsign⟩ := Behaviour.agrees_append.mp hagrees
    obtain ⟨henvelope, hturn⟩ := hmaking.made hk hmade
    rw [Nat.zero_add, hturn] at hsign
    have hsigned : b.signed? p request = some (.ok signed) := by
      simp [Behaviour.signed?, hk, henvelope, Reply.eq_ok_of_value hsign.1]
    let rest : CallTranscript :=
      [⟨.sign k envelope, .value signed⟩, ⟨.submit signed.envelope, reply⟩]
    -- Both ends of the last stage stand behind the same stages, all of them passed.
    have hpass : ∀ {v}, Settled (b.fault p request) (b.call? p request) [.submission]
        [.submit signed.envelope] v → Settled (b.fault p request) (b.call? p request)
          (.source :: (p.makingStages request ++ [.signing, .submission])) (h ++ rest).questions
          v := by
      intro v hlast
      refine .pass (fault_source_eq_none hk) rfl
        (hmaking.passed hk hmade (.pass_asking ?_ ?_ hlast))
      · simp [Behaviour.fault, hsigned, failureCode]
      · simp [Behaviour.call?, hk, henvelope]
    obtain ⟨result, rfl, hlast⟩ | ⟨f, rfl, hlast⟩ := settled_submission hsigned hsign.2.1
    · exact .inl ⟨_, hend, hpass hlast⟩
    · exact .inr ⟨_, hend, hpass hlast⟩

/-- How a run follows its stages: it fails if and only if one of them does, with the code of the
first one that does, which is one of the codes of that stage, and it asks what the stages up to that
one ask. -/
structure Followed (fault : Stage → Option PaymentCode) (call? : Stage → Option Call)
    (stages : List Stage) (o : Outcome) (asked : List Call) : Prop where
  failed_iff : o.state = .failed ↔ ∃ stage ∈ stages, fault stage ≠ none
  code_eq : o.error.map PaymentError.code = stages.findSome? fault
  codes : ∀ stage code, fault stage = some code → code ∈ stage.codes
  asked_eq : asked = (Stage.ran fault stages).filterMap call?

/-- A run is left at a stage: it passes all stages before it, and asks what they ask. -/
def LeftAt (fault : Stage → Option PaymentCode) (call? : Stage → Option Call) (stage : Stage)
    (stages : List Stage) (asked : List Call) : Prop :=
  ∃ before after, stages = before ++ stage :: after ∧ (∀ earlier ∈ before, fault earlier = none) ∧
    asked = before.filterMap call?

/-- Where nothing is at fault, all stages ran. -/
theorem ran_of_no_fault {fault : Stage → Option PaymentCode}
    (hnone : ∀ stage ∈ stages, fault stage = none) : Stage.ran fault stages = stages := by
  induction stages with
  | nil => rfl
  | cons stage rest ih =>
    rw [Stage.ran, if_neg (by simp [hnone stage List.mem_cons_self]),
      ih fun later hmem => hnone later (List.mem_cons_of_mem _ hmem)]

/-- A run is left at the stage after a row of stages without a fault. -/
theorem leftAt_of_settled {fault : Stage → Option PaymentCode} {call? : Stage → Option Call}
    {before : List Stage} (hsettled : Settled fault call? before asked none) (stage : Stage)
    (after : List Stage) : LeftAt fault call? stage (before ++ stage :: after) asked := by
  have hnone := List.findSome?_eq_none_iff.mp hsettled.verdict_eq
  refine ⟨before, after, rfl, hnone, ?_⟩
  rw [← hsettled.asked_eq, ran_of_no_fault hnone]

/-- The stages of an assembly before its memo. -/
def stagesBeforeMemo (request : PaymentRequest) : List Stage :=
  [.resolution, .accountId, .assetFields, .issuer] ++ (if request.isNative then [.lookup] else [])

/-- An assembly that something escapes has passed the stages before the memo. -/
theorem Assembly.left {q q' : Progress} {h : CallTranscript} {escape : Escape}
    (hassembly : Assembly p request k q h (.error (.escaped escape)) q') (hagrees : b.Agrees 0 h) :
    Settled (b.fault p request) (b.call? p request) (stagesBeforeMemo request) h.questions
      none := by
  cases hassembly with
  | resolve reply s hstop => exact absurd hstop judged_ne_escaped
  | lookup d reply s hd hasset hstop => exact absurd hstop lookup_ne_escaped
  | load d look t m reply s hchosen hmemo hstop => exact absurd hstop verdict_ne_escaped
  | build d look t m snapshot e hchosen hmemo hend =>
    obtain ⟨f, -, hcause⟩ := mapError_eq_error_iff.mp hend.symm
    cases hcause
  | memo d look t s hchosen hstop =>
    have hresolved : b.resolved request = .ok d := Reply.eq_ok_of_value hagrees.1
    have hpassed := settled_chosen (p := p) hchosen hresolved hagrees.2 .nil
    rw [List.append_nil, List.append_nil] at hpassed
    exact hpassed

/-- A course that something escapes is left at the memo. -/
theorem Course.left {q q' : Progress} {h : CallTranscript} {escape : Escape}
    (hcourse : Course p request q h (.error (.escaped escape)) q') (hagrees : b.Agrees 0 h) :
    LeftAt (b.fault p request) (b.call? p request) .memo (p.order request) h.questions := by
  cases hcourse with
  | making k h s q' hk hmaking =>
    cases hmaking with
    | relay reply e hrelay hend => exact absurd hend.symm judged_ne_escaped
    | direct h e q' hpath hassembly =>
      have hpassed := Settled.pass (fault_source_eq_none hk) rfl (hassembly.left hagrees)
      have hleft := leftAt_of_settled hpassed .memo [.load, .build, .signing, .submission]
      simpa [order, makingStages, hpath, PaymentRequest.assemblyStages, stagesBeforeMemo]
        using hleft
  | signing k h envelope q₁ reply s hk hmaking hstop => exact absurd hstop verdict_ne_escaped
  | submission k h envelope q₁ signed reply e hk hmaking hend => cases reply <;> cases hend

/-- A run that comes to a memo that escapes comes there with the resolver's own destination. -/
theorem MeetsEscape.resolved {h : CallTranscript} {escape : Escape}
    (hmeets : MeetsEscape p request h escape) (hagrees : b.Agrees 0 h) :
    ∃ d, b.resolved request = .ok d ∧ request.MemoEscapes d escape := by
  obtain ⟨d, look, t, ⟨rest, rfl⟩, -, hmemo⟩ := hmeets.memo
  exact ⟨d, Reply.eq_ok_of_value hagrees.1, hmemo⟩

/-- The memos that are numbers have digits that can be read: those of the request, and those that a
destination demands. -/
structure ShortIds (request : PaymentRequest) (b : Behaviour) : Prop where
  own : request.memoType = "id" → request.memo.codes.length ≤ Numeral.maxDigits
  demanded : ∀ d, b.resolved request = .ok d → d.memoType = some ("id" : Text) →
    (d.memo.getD "").codes.length ≤ Numeral.maxDigits

/-- Where the numbers can be read, only a torn text escapes. -/
theorem ShortIds.torn {escape : Escape} (hshort : ShortIds request b)
    (hresolved : b.resolved request = .ok d) (hmemo : request.MemoEscapes d escape) :
    ∃ torn, escape = .torn torn := by
  have hlength : (request.memoPair d).1 = "id" →
      (request.memoPair d).2.codes.length ≤ Numeral.maxDigits := by
    unfold PaymentRequest.memoPair
    cases hdemand : d.memoType with
    | none => exact hshort.own
    | some demanded =>
      rintro rfl
      exact hshort.demanded d hresolved hdemand
  generalize hpair : request.memoPair d = pair at hlength
  have hescapes := hmemo.memo
  rw [hpair] at hescapes
  obtain ⟨type, value⟩ := pair
  cases hescapes with
  | torn value e htorn => exact ⟨e, rfl⟩
  | digits s hnumeral hlong =>
    have hfits : (s : Text).codes.length ≤ Numeral.maxDigits := hlength rfl
    rw [Text.codes_ofString, List.length_map] at hfits
    exact absurd hlong (Nat.not_lt.mpr hfits)

/-- Collaborators that take every identifier for an account id, on a ledger without accounts. -/
def emptyLedger : Behaviour
  | _, .resolve identifier => .ok { accountId := identifier }
  | _, .account accountId => .error (.ledger (.accountMissing accountId))
  | _, .relay _ => .error .transaction
  | _, .sign _ _ => .error (.keypair .secretMissing)
  | _, .submit _ => .ok .null

/-- A request whose memo is no number, from an account that the empty ledger does not know. -/
def spoiltRequest : PaymentRequest := memoOnlyRequest "id" "x"

/-- The spoilt request passes the stages before its memo, which fails. -/
theorem settled_spoilt :
    Settled (emptyLedger.fault testPipeline spoiltRequest)
      (emptyLedger.call? testPipeline spoiltRequest) (testPipeline.order spoiltRequest)
      [.resolve spoiltRequest.destination, .account spoiltRequest.destination]
      (some .invalidMemo) := by
  have hk : (Keypair.ofSecret?
      "SAAAAAAAAAAAAAAAAAAAAAAAAAAAAAAAAAAAAAAAAAAAAAAAAAAABSU2").isSome = true := by
    decide +kernel
  have hid : isAccountId "GAAAAAAAAAAAAAAAAAAAAAAAAAAAAAAAAAAAAAAAAAAAAAAAAAAAAWHF" = true := by
    decide +kernel
  obtain ⟨k, hk⟩ := Option.isSome_iff_exists.mp hk
  have hresolved : emptyLedger.resolved spoiltRequest =
      .ok { accountId := spoiltRequest.destination } := rfl
  refine .pass (fault_source_eq_none hk) rfl (settled_resolved hresolved hid ?_)
  exact .pass rfl rfl (.pass rfl rfl (.pass_asking rfl rfl (.stop rfl rfl)))

end Pipeline

end Remittance

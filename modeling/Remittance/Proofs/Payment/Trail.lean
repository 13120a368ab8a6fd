import Mathlib.Data.List.Chain
import Remittance.Proofs.Payment.Submission

/-!
# The record of a run

The states of a payment are those of a small machine, and the trail of a run is a complete path of
it: it begins at the start, takes the way that the request calls for, and ends in the one terminal
state that it holds. The main statement is that what a run leaves behind is a faithful record. The
outcome says what the trail says, what the ledger gave back and what the signer reported, and the
journal is closed by one record that names the same state and the same error.
-/

set_option autoImplicit false

namespace Remittance

/-- The machine of a payment: the states that may come right after a state. -/
def PaymentState.next : PaymentState → List PaymentState
  | .start => [.complianceRelay, .directAssembly, .failed]
  | .complianceRelay => [.signed, .failed]
  | .directAssembly => [.signed, .failed]
  | .signed => [.submitted, .failed]
  | .submitted => [.done, .failed]
  | .done => []
  | .failed => []

/-- Whether nothing comes after a state. -/
def PaymentState.isTerminal (s : PaymentState) : Bool := s.next.isEmpty

/-- A complete path of the machine. -/
structure CompleteTrail (trail : List PaymentState) : Prop where
  start : trail.head? = some .start
  steps : trail.IsChain fun s s' => s' ∈ s.next
  /-- There is one terminal state, and it is the last one. -/
  terminal : ∃ before last, trail = before ++ [last] ∧ last.isTerminal = true ∧
    ∀ s ∈ before, s.isTerminal = false

/-- Whether a record closes the journal of a run. -/
def Record.isClosing (r : Record) : Bool :=
  r.message == "Payment submitted" || r.message == "Payment failed"

/-- What an outcome says of the run that ended with it. -/
structure Outcome.Attests (o : Outcome) (h : CallTranscript) (trail : List PaymentState) :
    Prop where
  trail_eq : o.trail = trail
  state : trail.getLast? = some o.state
  error : o.error.isSome = true ↔ o.state = .failed
  result : o.result.isSome = true ↔ o.state = .done
  /-- The result is what the ledger gave back. -/
  verbatim : ∀ result, o.result = some result →
    ∃ text, (⟨.submit text, .value result⟩ : (c : Call) × c.Answer) ∈ h
  /-- The hash of a payment that went through is the one that the signer reported. -/
  hash : o.state = .done → ∃ k envelope signed,
    (⟨.sign k envelope, .value signed⟩ : (c : Call) × c.Answer) ∈ h ∧ o.txHash = some signed.hash
  path : ∀ s, o.path = some s ↔ s ∈ trail ∧ s.isPath = true

/-- The record that closes the journal of a run, by the end and the trail of the run. -/
inductive ClosedBy (trail : List PaymentState) : Ended → Record → Prop where
  | submitted (o : Outcome) (record : Record) (hstate : o.state = .done)
      (hmessage : record.message = "Payment submitted") : ClosedBy trail (.outcome o) record
  | failed (o : Outcome) (record : Record) (error : PaymentError) (before : List PaymentState)
      (last : PaymentState) (herror : o.error = some error)
      (htrail : trail = before ++ [last, .failed]) (hmessage : record.message = "Payment failed")
      (hvalues : record.values =
        ([(.errorCode, error.code.name), (.state, last.name)] : List (Label × Text))) :
      ClosedBy trail (.outcome o) record
  | canceled (record : Record) (before : List PaymentState) (last : PaymentState)
      (htrail : trail = before ++ [last, .failed]) (hmessage : record.message = "Payment failed")
      (hvalues : record.values =
        ([(.errorCode, PaymentCode.canceled.name), (.state, last.name)] : List (Label × Text))) :
      ClosedBy trail .canceled record

/-- What a run leaves behind is a faithful record of it. -/
structure Recorded (p : Pipeline) (request : PaymentRequest) (h : CallTranscript)
    (r : Ended × Progress) : Prop where
  trail : CompleteTrail r.2.trail
  relayed : .complianceRelay ∈ r.2.trail ↔ (Keypair.ofSecret? request.source).isSome = true ∧
    request.extraMemo ≠ "" ∧ p.hasRelay = true
  assembled : .directAssembly ∈ r.2.trail ↔ (Keypair.ofSecret? request.source).isSome = true ∧
    ¬ (request.extraMemo ≠ "" ∧ p.hasRelay = true)
  outcome : ∀ o, r.1 = .outcome o → o.Attests h r.2.trail
  /-- One record closes the journal, and it is the last one. -/
  closing : ∃ before record, r.2.records = before ++ [record] ∧
    (∀ r ∈ before, r.isClosing = false) ∧ record.isClosing = true ∧ ClosedBy r.2.trail r.1 record

/-- A recorded run that handed nothing to the ledger has failed. -/
theorem Recorded.failed_of_not_submitted {p : Pipeline} {request : PaymentRequest}
    {h : CallTranscript} {r : Ended × Progress} (hrecorded : Recorded p request h r)
    (hnever : ∀ text reply, (⟨.submit text, reply⟩ : (c : Call) × c.Answer) ∉ h) :
    (∃ states, r.2.trail = states ++ [.failed]) ∧ (∀ t, r.1 ≠ .escaped t) ∧
      ∀ o, r.1 = .outcome o → o.state = .failed := by
  obtain ⟨ended, q'⟩ := r
  obtain ⟨-, record, -, -, -, hclosed⟩ := hrecorded.closing
  have houtcome := hrecorded.outcome
  dsimp only at hclosed houtcome ⊢
  cases hclosed with
  | submitted o record hstate hmessage =>
    have hattests := houtcome o rfl
    obtain ⟨result, hresult⟩ := Option.isSome_iff_exists.mp (hattests.result.mpr hstate)
    obtain ⟨text, hmem⟩ := hattests.verbatim result hresult
    exact absurd hmem (hnever text _)
  | failed o record error before last herror htrail hmessage hvalues =>
    refine ⟨⟨before ++ [last], by rw [htrail, List.append_assoc]; rfl⟩, nofun, ?_⟩
    rintro o' ⟨⟩
    exact (houtcome o rfl).error.mp (by rw [herror]; rfl)
  | canceled record before last htrail hmessage hvalues =>
    exact ⟨⟨before ++ [last], by rw [htrail, List.append_assoc]; rfl⟩, nofun, nofun⟩

/-- The journal of a run that goes on: nothing in it closes it. -/
def Progress.Open (q : Progress) : Prop := ∀ r ∈ q.records, r.isClosing = false

/-- The record of a cause does not close the journal. -/
theorem Cause.record_isClosing (c : Cause) : c.record.isClosing = false := by
  cases c <;> rfl

/-- The journal of a run that has not begun is open. -/
theorem Progress.open_start : Progress.Open ⟨[.start], []⟩ := by
  intro r hmem
  cases hmem

namespace Progress.Open

variable {q : Progress}

/-- A record that does not close the journal leaves it open. -/
theorem noted (hopen : q.Open) {r : Record} (hr : r.isClosing = false) : (q.noted r).Open := by
  intro r' hmem
  rcases List.mem_append.mp hmem with hold | hnew
  · exact hopen r' hold
  · rw [List.mem_singleton] at hnew
    rw [hnew, hr]

/-- A state that is entered leaves the journal open. -/
theorem entered (hopen : q.Open) (s : PaymentState) : (q.entered s).Open := hopen

/-- A stop leaves the journal open. -/
theorem stopped (hopen : q.Open) (s : Stop) : (q.stopped s).Open := by
  cases s with
  | cause c => exact hopen.noted c.record_isClosing
  | interrupted i => exact hopen
  | escaped t => exact hopen

/-- The end of a part leaves the journal open. -/
theorem after {α : Type} (hopen : q.Open) (e : Except Stop α) : (q.after e).Open := by
  cases e with
  | ok a => exact hopen
  | error s => exact hopen.stopped s

/-- The choice of an operation leaves the journal open. -/
theorem chosen (hopen : q.Open) (t : Transfer) : (q.chosen t).Open := by
  cases t with
  | createAccount accountId amount => exact hopen.noted rfl
  | payment accountId amount asset => exact hopen

end Progress.Open

namespace Pipeline

variable {p : Pipeline} {request : PaymentRequest} {k : Keypair} {q q' : Progress}
  {h : CallTranscript}

/-- The state of the way that a request takes to its envelope. -/
def route (p : Pipeline) (request : PaymentRequest) : PaymentState :=
  if p.takesRelay request then .complianceRelay else .directAssembly

/-- A request takes the relay's way if it has a further memo and there is a relay. -/
theorem takesRelay_iff :
    p.takesRelay request = true ↔ request.extraMemo ≠ "" ∧ p.hasRelay = true := by
  unfold takesRelay
  rw [Bool.and_eq_true, Bool.not_eq_true', ← Bool.not_eq_true, Text.isEmpty_iff]

/-- The relay's way has its state. -/
theorem route_of_relay (hpath : p.takesRelay request = true) :
    p.route request = .complianceRelay := by
  rw [route, if_pos hpath]

/-- The way of an assembly has its state. -/
theorem route_of_assembly (hpath : p.takesRelay request = false) :
    p.route request = .directAssembly := by
  rw [route, hpath]
  rfl

/-- A way has one of two states. -/
theorem route_eq (p : Pipeline) (request : PaymentRequest) :
    p.route request = .complianceRelay ∨ p.route request = .directAssembly := by
  cases hpath : p.takesRelay request with
  | true => exact .inl (route_of_relay hpath)
  | false => exact .inr (route_of_assembly hpath)

/-- No stage of an assembly closes the journal. -/
theorem Assembly.isOpen {e : Except Stop Envelope} (hassembly : Assembly p request k q h e q')
    (hopen : q.Open) : q'.Open := by
  cases hassembly with
  | resolve reply s hstop => exact hopen.stopped s
  | asset d c hd hstop => exact hopen.noted c.record_isClosing
  | lookup d reply s hd hasset hstop => exact hopen.stopped s
  | memo d look t s hchosen hstop => exact (hopen.chosen t).stopped s
  | load d look t m reply s hchosen hmemo hstop => exact (hopen.chosen t).stopped s
  | build d look t m snapshot e hchosen hmemo hend => exact (hopen.chosen t).after e

/-- A way to an envelope enters the state of that way, and does not close the journal. -/
theorem Making.entered {e : Except Stop Envelope} (hmaking : Making p request k q h e q')
    (hopen : q.Open) : q'.trail = q.trail ++ [p.route request] ∧ q'.Open := by
  cases hmaking with
  | relay reply e hpath hend =>
    exact ⟨by simp [route_of_relay hpath], (hopen.entered _).after e⟩
  | direct h e q' hpath hassembly =>
    refine ⟨?_, hassembly.isOpen (hopen.entered _)⟩
    rw [hassembly.way.1, Progress.trail_entered, route_of_assembly hpath]

/-- The states that the stages of a run may have entered: the start alone without a key, and else
the state of the route and then, in order, as many of the next two as the run got to. -/
inductive Entered (p : Pipeline) (request : PaymentRequest) : List PaymentState → Prop where
  | start (hk : Keypair.ofSecret? request.source = none) : Entered p request [.start]
  | route (states : List PaymentState) (hk : (Keypair.ofSecret? request.source).isSome = true)
      (hstates : states <+: [.signed, .submitted]) :
      Entered p request (.start :: p.route request :: states)

/-- The stages of a run enter states in their order, all of them if they go through, and none of
them closes the journal. -/
theorem Course.entered {records : List Record} {e : Except Stop (Json × String)}
    (hcourse : Course p request ⟨[.start], records⟩ h e q')
    (hopen : Progress.Open ⟨[.start], records⟩) : Entered p request q'.trail ∧ q'.Open ∧
      ∀ result, e = .ok result → q'.trail = [.start, p.route request, .signed, .submitted] := by
  cases hcourse with
  | source hk => exact ⟨.start hk, hopen.stopped _, nofun⟩
  | making k h s q' hk hmaking =>
    obtain ⟨htrail, hmade⟩ := hmaking.entered hopen
    refine ⟨?_, hmade, nofun⟩
    rw [htrail]
    exact .route [] (by simp [hk]) List.nil_prefix
  | signing k h envelope q₁ reply s hk hmaking hstop =>
    obtain ⟨htrail, hmade⟩ := hmaking.entered hopen
    refine ⟨?_, (hmade.entered _).stopped s, nofun⟩
    rw [Progress.trail_stopped, Progress.trail_entered, htrail]
    exact .route [.signed] (by simp [hk]) ⟨[.submitted], rfl⟩
  | submission k h envelope q₁ signed reply e hk hmaking hend =>
    obtain ⟨htrail, hmade⟩ := hmaking.entered hopen
    have hall : (((q₁.entered .signed).entered .submitted).after e).trail =
        [.start, p.route request, .signed, .submitted] := by
      rw [Progress.trail_after, Progress.trail_entered, Progress.trail_entered, htrail]
      rfl
    refine ⟨?_, ((hmade.entered _).entered _).after e, fun _ _ => hall⟩
    rw [hall]
    exact .route [.signed, .submitted] (by simp [hk]) List.prefix_rfl

/-- Stages that went through all have had their envelope signed and taken by the ledger. -/
theorem Course.delivered {result : Json} {txHash : String}
    (hcourse : Course p request q h (.ok (result, txHash)) q') :
    (∃ text, (⟨.submit text, .value result⟩ : (c : Call) × c.Answer) ∈ h) ∧
      ∃ k envelope signed, (⟨.sign k envelope, .value signed⟩ : (c : Call) × c.Answer) ∈ h ∧
        txHash = signed.hash := by
  cases hcourse with
  | submission k h envelope q₁ signed reply e hk hmaking hend =>
    cases reply with
    | value result' =>
      cases hend
      exact ⟨⟨signed.envelope, by simp⟩, k, envelope, signed, by simp, rfl⟩
    | failed f => cases hend
    | interrupted i => cases hend

namespace Entered

variable {trail : List PaymentState} {last : PaymentState}

/-- A prefix of the last two states is one of three lists. -/
theorem states_cases {states : List PaymentState}
    (hstates : states <+: [PaymentState.signed, .submitted]) :
    states = [] ∨ states = [.signed] ∨ states = [.signed, .submitted] := by
  rcases List.prefix_cons_iff.mp hstates with rfl | ⟨rest, rfl, hrest⟩
  · exact .inl rfl
  rcases List.prefix_cons_iff.mp hrest with rfl | ⟨rest', rfl, hnil⟩
  · exact .inr (.inl rfl)
  · rw [List.prefix_nil.mp hnil]
    exact .inr (.inr rfl)

/-- The states that a run has entered and a last one are a complete path: a run that has entered
all states may be done, and every run may have failed. -/
theorem completeTrail (hentered : Entered p request trail)
    (hlast : last = .failed ∨
      last = .done ∧ trail = [.start, p.route request, .signed, .submitted]) :
    CompleteTrail (trail ++ [last]) := by
  have hterminal : last.isTerminal = true := by
    rcases hlast with rfl | ⟨rfl, -⟩ <;> rfl
  cases hentered with
  | start hk =>
    obtain rfl : last = .failed := hlast.resolve_right (by simp)
    exact ⟨rfl, by decide, [.start], .failed, rfl, rfl, by decide⟩
  | route states hk hstates =>
    -- The machine is finite, and so are the lists of states that a run may have entered.
    refine ⟨rfl, ?_, _, last, rfl, hterminal, ?_⟩
    · rcases p.route_eq request with hroute | hroute <;> rw [hroute] at hlast ⊢ <;>
        rcases hlast with rfl | ⟨rfl, hall⟩
      · rcases states_cases hstates with rfl | rfl | rfl <;> decide
      · rw [hall]
        decide
      · rcases states_cases hstates with rfl | rfl | rfl <;> decide
      · rw [hall]
        decide
    · rcases p.route_eq request with hroute | hroute <;> rw [hroute] <;>
        rcases states_cases hstates with rfl | rfl | rfl <;> decide

/-- The relay's state is entered by a run with a key that takes that route. -/
theorem relayed_iff (hentered : Entered p request trail) : .complianceRelay ∈ trail ↔
    (Keypair.ofSecret? request.source).isSome = true ∧ p.takesRelay request = true := by
  cases hentered with
  | start hk => simp [hk]
  | route states hk hstates =>
    have hstates' : .complianceRelay ∉ states := by
      intro hmem
      have hin := hstates.subset hmem
      simp at hin
    cases hpath : p.takesRelay request with
    | true => simp [route_of_relay hpath, hk]
    | false => simp [route_of_assembly hpath, hstates']

/-- The state of an assembly is entered by a run with a key that does not take the relay's route. -/
theorem assembled_iff (hentered : Entered p request trail) : .directAssembly ∈ trail ↔
    (Keypair.ofSecret? request.source).isSome = true ∧ p.takesRelay request = false := by
  cases hentered with
  | start hk => simp [hk]
  | route states hk hstates =>
    have hstates' : .directAssembly ∉ states := by
      intro hmem
      have hin := hstates.subset hmem
      simp at hin
    cases hpath : p.takesRelay request with
    | true => simp [route_of_relay hpath, hstates']
    | false => simp [route_of_assembly hpath, hk]

/-- A run has entered a state before any that it may enter last. -/
theorem exists_last (hentered : Entered p request trail) :
    ∃ before last, trail = before ++ [last] := by
  have hne : trail ≠ [] := by
    cases hentered <;> exact List.cons_ne_nil _ _
  exact ⟨trail.dropLast, trail.getLast hne, (List.dropLast_append_getLast hne).symm⟩

/-- The only state that names a way is that of the route. -/
theorem eq_route (hentered : Entered p request trail) {s : PaymentState} (hmem : s ∈ trail)
    (hpath : s.isPath = true) : s = p.route request := by
  cases hentered with
  | start hk =>
    rw [List.mem_singleton] at hmem
    subst hmem
    cases hpath
  | route states hk hstates =>
    rcases List.mem_cons.mp hmem with rfl | hrest
    · cases hpath
    rcases List.mem_cons.mp hrest with hroute | hlater
    · exact hroute
    · have hin := hstates.subset hlater
      have hcases : s = .signed ∨ s = .submitted := by simpa using hin
      rcases hcases with rfl | rfl <;> cases hpath

/-- The way of an outcome is the state of its trail that names a way. -/
theorem path_eq_some_iff (hentered : Entered p request trail) (hlast : last.isPath = false)
    (ending : Ending) (s : PaymentState) :
    Outcome.path ⟨trail ++ [last], ending⟩ = some s ↔ s ∈ trail ++ [last] ∧ s.isPath = true := by
  have hunique : ∀ {s}, s ∈ trail ++ [last] → s.isPath = true → s = p.route request := by
    intro s hmem hpath
    rcases List.mem_append.mp hmem with hin | hin
    · exact hentered.eq_route hin hpath
    · rw [List.mem_singleton] at hin
      rw [hin, hlast] at hpath
      cases hpath
  unfold Outcome.path
  constructor
  · intro hfind
    exact ⟨List.mem_of_find?_eq_some hfind, List.find?_some hfind⟩
  · rintro ⟨hmem, hpath⟩
    obtain ⟨s', hfind⟩ := Option.isSome_iff_exists.mp
      (List.find?_isSome.mpr ⟨s, hmem, hpath⟩ : ((trail ++ [last]).find? _).isSome = true)
    rw [hfind, hunique hmem hpath,
      hunique (List.mem_of_find?_eq_some hfind) (List.find?_some hfind)]

end Entered

section Conclusion

variable {e : Except Stop (Json × String)}

/-- What the trail of a run says of its route, with the state that ends it. -/
theorem Entered.routes {last : PaymentState} (hentered : Entered p request q'.trail)
    (hlast : last.isTerminal = true) :
    (.complianceRelay ∈ q'.trail ++ [last] ↔ (Keypair.ofSecret? request.source).isSome = true ∧
      request.extraMemo ≠ "" ∧ p.hasRelay = true) ∧
    (.directAssembly ∈ q'.trail ++ [last] ↔ (Keypair.ofSecret? request.source).isSome = true ∧
      ¬ (request.extraMemo ≠ "" ∧ p.hasRelay = true)) := by
  have hother : ∀ s : PaymentState, s.isTerminal = false →
      (s ∈ q'.trail ++ [last] ↔ s ∈ q'.trail) := by
    intro s hs
    rw [List.mem_append, or_iff_left]
    intro hin
    rw [List.mem_singleton] at hin
    rw [hin, hlast] at hs
    cases hs
  rw [hother _ rfl, hother _ rfl, hentered.relayed_iff, hentered.assembled_iff, ← takesRelay_iff,
    Bool.not_eq_true]
  exact ⟨Iff.rfl, Iff.rfl⟩

/-- A run that fails is recorded as such: with the code of its error, and the last state before. -/
theorem recorded_of_failed (hentered : Entered p request q'.trail) (hopen : q'.Open)
    {ended : Ended} {code : PaymentCode}
    (hended : ended = .canceled ∧ code = .canceled ∨ ∃ error : PaymentError, error.code = code ∧
      ended = .outcome ⟨(failed q' code).trail, .failed error⟩) :
    Recorded p request h (ended, failed q' code) := by
  obtain ⟨before, last, hlast⟩ := hentered.exists_last
  have htrail : (failed q' code).trail = before ++ [last, .failed] := by
    rw [failed, hlast, List.append_assoc]
    rfl
  have hrecord : failedRecord code ((q'.trail.getLast?).getD .start) = failedRecord code last := by
    rw [hlast, List.getLast?_concat]
    rfl
  obtain ⟨hrelayed, hassembled⟩ := hentered.routes (rfl : PaymentState.failed.isTerminal = true)
  refine ⟨hentered.completeTrail (.inl rfl), hrelayed, hassembled, ?_, q'.records,
    failedRecord code last, congrArg (fun r => q'.records ++ [r]) hrecord, hopen, rfl, ?_⟩
  · rintro o rfl
    obtain ⟨hcanceled, -⟩ | ⟨error, rfl, heq⟩ := hended
    · cases hcanceled
    · cases heq
      exact {
        trail_eq := rfl
        state := List.getLast?_concat
        error := ⟨fun _ => rfl, fun _ => rfl⟩
        result := by
          constructor
          · intro hresult
            cases hresult
          · intro hstate
            cases hstate
        verbatim := by
          intro result hresult
          cases hresult
        hash := by
          intro hstate
          cases hstate
        path := hentered.path_eq_some_iff rfl _ }
  · obtain ⟨rfl, rfl⟩ | ⟨error, rfl, rfl⟩ := hended
    · exact .canceled _ before last htrail rfl rfl
    · exact .failed _ _ error before last rfl htrail rfl rfl

/-- A run that goes through is recorded as such, with the result and the hash that came back. -/
theorem recorded_of_done {result : Json} {txHash : String}
    (hentered : Entered p request q'.trail) (hopen : q'.Open)
    (hall : q'.trail = [.start, p.route request, .signed, .submitted])
    (hcourse : Course p request q h (.ok (result, txHash)) q') :
    Recorded p request h
      (.outcome ⟨(done q' txHash).trail, .done result txHash⟩, done q' txHash) := by
  obtain ⟨hsubmitted, k, envelope, signed, hsigned, hhash⟩ := hcourse.delivered
  obtain ⟨hrelayed, hassembled⟩ := hentered.routes (rfl : PaymentState.done.isTerminal = true)
  refine ⟨hentered.completeTrail (.inr ⟨rfl, hall⟩), hrelayed, hassembled, ?_, q'.records,
    doneRecord txHash, rfl, hopen, rfl, .submitted _ _ rfl rfl⟩
  rintro o ⟨⟩
  exact {
    trail_eq := rfl
    state := List.getLast?_concat
    error := ⟨nofun, nofun⟩
    result := ⟨fun _ => rfl, fun _ => rfl⟩
    verbatim := by
      rintro result' ⟨⟩
      exact hsubmitted
    hash := fun _ => ⟨k, envelope, signed, hsigned, congrArg some hhash⟩
    path := hentered.path_eq_some_iff rfl _ }

/-- Every course from the start whose stages nothing escapes is recorded. -/
theorem Course.recorded (hcourse : Course p request ⟨[.start], []⟩ h e q')
    (hread : ∀ t, e ≠ .error (.escaped t)) : Recorded p request h (conclude (e, q')) := by
  obtain ⟨hentered, hopen, hall⟩ := hcourse.entered Progress.open_start
  cases e with
  | ok value => exact recorded_of_done hentered hopen (hall value rfl) hcourse
  | error s =>
    cases s with
    | cause c => exact recorded_of_failed hentered hopen (.inr ⟨c.error, rfl, rfl⟩)
    | escaped t => exact absurd rfl (hread t)
    | interrupted i =>
      cases i with
      | deadline => exact recorded_of_failed hentered hopen (.inr ⟨⟨.canceled, none⟩, rfl, rfl⟩)
      | canceled => exact recorded_of_failed hentered hopen (.inl ⟨rfl, rfl⟩)

end Conclusion

/-- Every run that comes back with an outcome, or is given up by its caller, leaves a faithful
record behind. -/
theorem run_recorded (p : Pipeline) (request : PaymentRequest) {σ : Type}
    (answer : σ → (c : Call) → c.Answer × σ) (s : σ)
    (hback : ∀ t, ((p.submit request).run answer s).1.1 ≠ .escaped t) :
    Recorded p request ((p.submit request).transcript answer s)
      ((p.submit request).run answer s).1 := by
  obtain ⟨e, q', hcourse, heq⟩ := course_of_goes (Dialogue.goes_run answer s (p.submit request))
  rw [heq] at hback ⊢
  refine hcourse.recorded fun t hstop => ?_
  subst hstop
  exact hback t rfl

/-- What escapes a run has escaped its stages. -/
theorem escaped_of_conclude {e : Except Stop (Json × String)} {escape : Escape}
    (hended : (conclude (e, q)).1 = .escaped escape) : e = .error (.escaped escape) := by
  cases e with
  | ok value => cases hended
  | error s =>
    cases s with
    | cause c => cases hended
    | escaped escape' =>
      cases hended
      rfl
    | interrupted i => cases i <;> cases hended

/-- Nothing escapes the payment of one unit, as it asks for no memo. -/
theorem zeroRequest_comes_back (p : Pipeline) (escape : Escape) :
    ((p.submit zeroRequest).run signingAnswers.answer 0).1.1 ≠ .escaped escape := by
  intro hended
  obtain ⟨e, q', hcourse, heq⟩ :=
    course_of_goes (Dialogue.goes_run signingAnswers.answer 0 (p.submit zeroRequest))
  rw [heq] at hended
  obtain ⟨-, -, d, look, transfer, hfirst, -, hmemo⟩ :=
    hcourse.escaped_iff.mp (escaped_of_conclude hended)
  obtain ⟨turn, hreply⟩ :=
    Dialogue.exists_state_of_mem_transcript _ _ _ (hfirst.subset List.mem_cons_self)
  exact zeroRequest_caught d escape (Reply.eq_ok_of_value hreply.symm) hmemo

/-- The payment of one unit within half a minute is recorded. -/
theorem half_minute_recorded :
    (∀ t, (((timedPipeline 30).submit zeroRequest).run signingAnswers.answer 0).1.1 ≠
      .escaped t) ∧
    Recorded (timedPipeline 30) zeroRequest
      (((timedPipeline 30).submit zeroRequest).transcript signingAnswers.answer 0)
      (((timedPipeline 30).submit zeroRequest).run signingAnswers.answer 0).1 :=
  ⟨zeroRequest_comes_back (timedPipeline 30), run_recorded (timedPipeline 30) zeroRequest
    signingAnswers.answer 0 (zeroRequest_comes_back (timedPipeline 30))⟩

end Pipeline

end Remittance

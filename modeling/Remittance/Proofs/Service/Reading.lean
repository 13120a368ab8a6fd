import Remittance.Proofs.Computation
import Remittance.Proofs.Json.RoundTrip
import Remittance.Proofs.Json.Shape
import Remittance.Proofs.Text.Utf8
import Remittance.Service.ComplianceServer
import Remittance.Service.LedgerServer

/-!
# What is read from a response

What a response holds is what its body spells, as the notation has it and apart from the reader.
Where a body is read, the notation has two limits: the digits of an integer, and the room for lists
and objects. The ledger's server and the compliance server are both asked for one text in a JSON
object. Here is which responses give it: the status is that of success, the body is UTF-8 and spells
an object within the limits, and the text under the name is not empty. The ledger's text must be a
numeral as well. No other response gives anything, and of those that do not, one status alone says
that an account does not exist.
-/

set_option autoImplicit false

namespace Remittance

namespace Json

/-- The rule for a member that must be a text, and not the empty one. -/
def MemberRule.ofText (name : String) : MemberRule := { name, kinds := [.text], nonEmpty := true }

/-- The shape of an object that has a text under a name, which is not empty. -/
def Shape.ofText (name : String) : Shape where
  required := [name]
  rules := [.ofText name]

/-- The rule allows the texts that are not empty. -/
theorem MemberRule.allows_ofText_iff {name : String} {value : Json} :
    (MemberRule.ofText name).Allows value ↔ ∃ text, value = .text text ∧ text ≠ "" := by
  constructor
  · intro hallows
    obtain ⟨kind, hkind, his⟩ := hallows.kind
    obtain rfl := List.mem_singleton.mp hkind
    cases his with
    | text t =>
      refine ⟨t, rfl, ?_⟩
      rintro rfl
      exact hallows.filled rfl rfl
  · rintro ⟨text, rfl, hne⟩
    exact allows_text (List.mem_singleton_self _) fun _ => hne

/-- An object has that shape exactly if such a text stands in it. -/
theorem Shape.describes_ofText_iff {name : String} {members : Members} :
    (Shape.ofText name).Describes members ↔
      ∃ text, members.get? name = some (.text text) ∧ text ≠ "" := by
  constructor
  · intro hdescribes
    obtain ⟨value, hvalue⟩ := hdescribes.required name (List.mem_singleton_self name)
    have hallows := hdescribes.allowed (.ofText name) (List.mem_singleton_self _) value hvalue
    obtain ⟨text, rfl, hne⟩ := MemberRule.allows_ofText_iff.mp hallows
    exact ⟨text, hvalue, hne⟩
  · rintro ⟨text, htext, hne⟩
    constructor
    case required => exact List.forall_mem_singleton.mpr ⟨_, htext⟩
    case allowed =>
      refine List.forall_mem_singleton.mpr fun value hvalue => ?_
      obtain rfl := Option.some.inj (htext.symm.trans hvalue)
      exact MemberRule.allows_ofText_iff.mpr ⟨text, rfl, hne⟩

/-- Of members that are those of an object of a shape, no value is shown. -/
theorem Shape.Describes.shown_eq {shape : Shape} {members : Members}
    (h : shape.Describes members) : shape.shown (.object members) = [] := by
  refine List.filterMap_eq_nil_iff.mpr fun rule hrule => ?_
  rw [MemberRule.check_eq_none_iff.mpr (h.allowed rule hrule)]

end Json

namespace Response

/-- What is read as a value: a text that spells it with no more digits in an integer than a numeral
may have, and with lists and objects no deeper than there is room for. -/
def Within (r : Response) : List Char → Json → Prop :=
  Json.Document Json.Limited r.room.reading

/-- The body of a response is UTF-8 and spells an object with these members. -/
def Holds (spells : List Char → Json → Prop) (r : Response) (members : Json.Members) : Prop :=
  ∃ s : String, r.body = Octets.ofText s ∧ spells s.toList (.object members)

/-- The body of a response is UTF-8 and spells an object in which a text stands under a name. -/
def Says (spells : List Char → Json → Prop) (r : Response) (name : String) (text : Text) : Prop :=
  ∃ members, r.Holds spells members ∧ members.get? name = some (.text text)

/-- There is no room for the body of a response, or for what is at fault in the value that it
spells. -/
inductive Nests (shape : Json.Shape) (r : Response) : Json.Nested → Prop where
  | read {s : String} {e : Json.Nested} (hbody : r.body = Octets.ofText s)
      (hdeep : Json.TooDeep Json.Limited r.room.reading e s.toList) : Nests shape r e
  | shown {s : String} {body value : Json} (hbody : r.body = Octets.ofText s)
      (hspells : r.Within s.toList body) (hshown : value ∈ shape.shown body)
      (hdeep : r.room.showing < value.height) : Nests shape r .shown

variable {r : Response} {shape : Json.Shape} {members : Json.Members} {value : Json}

/-- A value is read from a response exactly if its body is UTF-8 and spells the value. -/
theorem json_eq_ok_iff : r.json = .ok value ↔
    ∃ s : String, r.body = Octets.ofText s ∧ r.Within s.toList value := by
  simp only [← Utf8.decode_eq_ok_iff, Within, ← Json.read_eq_ok_iff]
  unfold json
  cases Utf8.decode r.body with
  | error e => exact ⟨nofun, by rintro ⟨content, ⟨⟩, -⟩⟩
  | ok content => simp only [mapError_eq_ok_iff, Except.ok.injEq, exists_eq_left']

/-- There is no room for a body exactly if it is UTF-8 and goes beyond the room. -/
theorem json_eq_nested_iff {e : Json.Nested} : r.json = .error (.nested e) ↔
    ∃ s : String, r.body = Octets.ofText s ∧
      Json.TooDeep Json.Limited r.room.reading e s.toList := by
  simp only [← Utf8.decode_eq_ok_iff, ← Json.read_eq_nested_iff]
  unfold json
  cases Utf8.decode r.body with
  | error e => exact ⟨nofun, by rintro ⟨content, ⟨⟩, -⟩⟩
  | ok content =>
    simp only [Except.ok.injEq, exists_eq_left']
    cases Json.read r.room.reading content with
    | ok j => exact ⟨nofun, nofun⟩
    | error e => cases e <;> simp [Except.mapError, Json.Unread.map]

/-- What a response holds within the limits is what is read from it. -/
theorem holds_iff : r.Holds r.Within members ↔ r.json = .ok (.object members) :=
  json_eq_ok_iff.symm

/-- A response holds the members of one object. -/
theorem Holds.unique {members' : Json.Members} (h : r.Holds r.Within members)
    (h' : r.Holds r.Within members') : members = members' := by
  have hsame := (holds_iff.mp h).symm.trans (holds_iff.mp h')
  cases hsame
  rfl

/-- What a response holds within the limits it holds without them. -/
theorem Holds.toNotation (h : r.Holds r.Within members) : r.Holds Json.Notation members := by
  obtain ⟨s, hbody, hspells⟩ := h
  exact ⟨s, hbody, hspells.toNotation⟩

/-- What a response says within the limits it says without them. -/
theorem Says.toNotation {name : String} {text : Text} (h : r.Says r.Within name text) :
    r.Says Json.Notation name text := by
  obtain ⟨members, hholds, htext⟩ := h
  exact ⟨members, hholds.toNotation, htext⟩

/-- Members are read from a response exactly if its body holds them and they are of the shape. -/
theorem members_eq_ok_iff :
    r.members shape = .ok members ↔ r.Holds r.Within members ∧ shape.Describes members := by
  rw [holds_iff, Response.members]
  cases r.json with
  | error e => exact iff_of_false nofun (by rintro ⟨⟨⟩, -⟩)
  | ok body =>
    rw [Except.ok.injEq, ← Json.Shape.check_eq_ok_iff]
    dsimp only
    cases hcheck : shape.check body with
    | error e => split <;> exact iff_of_false nofun nofun
    | ok own =>
      obtain ⟨rfl, hdescribes⟩ := Json.Shape.check_eq_ok_iff.mp hcheck
      rw [hdescribes.shown_eq, List.any_nil, if_neg Bool.false_ne_true]
      simp

/-- There is no room for the members of a response exactly where it has none for its body or for
what is at fault. -/
theorem members_eq_nested_iff {e : Json.Nested} :
    r.members shape = .error (.nested e) ↔ Nests shape r e := by
  constructor
  · intro h
    unfold Response.members at h
    cases hjson : r.json with
    | error e' =>
      simp only [hjson, Except.error.injEq] at h
      cases e' with
      | error e' => cases h
      | nested e' =>
        cases h
        obtain ⟨s, hbody, hdeep⟩ := json_eq_nested_iff.mp hjson
        exact .read hbody hdeep
    | ok body =>
      simp only [hjson] at h
      split at h
      · next hany =>
        cases h
        obtain ⟨value, hshown, hdeep⟩ := List.any_eq_true.mp hany
        obtain ⟨s, hbody, hspells⟩ := json_eq_ok_iff.mp hjson
        exact .shown hbody hspells hshown (of_decide_eq_true hdeep)
      · split at h <;> cases h
  · intro h
    unfold Response.members
    cases h with
    | read hbody hdeep =>
      rw [json_eq_nested_iff.mpr ⟨_, hbody, hdeep⟩]
      rfl
    | shown hbody hspells hshown hdeep =>
      rw [json_eq_ok_iff.mpr ⟨_, hbody, hspells⟩]
      exact if_pos (List.any_eq_true.mpr ⟨_, hshown, decide_eq_true hdeep⟩)

/-- There is one reason for which a response finds no room. -/
theorem Nests.unique {e e' : Json.Nested} (h : Nests shape r e) (h' : Nests shape r e') :
    e = e' := by
  have hsame := (members_eq_nested_iff.mpr h).symm.trans (members_eq_nested_iff.mpr h')
  cases hsame
  rfl

/-- The text that is read under a name is the one that the body says, if it is not empty. -/
theorem members_ofText_iff {name : String} {text : Text} :
    (∃ members, r.members (.ofText name) = .ok members ∧
        ((members.get? name).bind Json.text?).getD "" = text) ↔
      r.Says r.Within name text ∧ text ≠ "" := by
  simp only [members_eq_ok_iff, Says, Json.Shape.describes_ofText_iff]
  constructor
  · rintro ⟨members, ⟨hholds, text, hmember, hne⟩, rfl⟩
    rw [hmember]
    exact ⟨⟨members, hholds, hmember⟩, hne⟩
  · rintro ⟨⟨members, hholds, hmember⟩, hne⟩
    refine ⟨members, ⟨hholds, text, hmember, hne⟩, ?_⟩
    rw [hmember]
    rfl

/-- A body that is sent as octets is read as the value that its text spells. -/
theorem json_ofText {s : String} {room : Room} (status : Int)
    (h : Json.read room.reading s = .ok value) :
    Response.json ⟨status, Octets.ofText s, room⟩ = .ok value :=
  json_eq_ok_iff.mpr ⟨s, rfl, Json.document_of_read h⟩

/-- Room for a hundred values one inside the other. -/
def hundredfold : Room := ⟨100, 100⟩

/-- A success whose body is a value of whole texts. -/
def success (value : Json) : Response where
  status := 200
  body := .ofText (Json.write .compact value).known
  room := hundredfold

/-- A value is read from the success whose body it is. -/
theorem json_success (hread : value.Readable hundredfold.reading) (hwhole : value.Whole) :
    (success value).json = .ok value := by
  have hknown := (@Json.whole_write_iff .compact _).mpr hwhole
  exact json_ofText 200 (Json.read_write_of_parts Json.parts_compact hread hknown.eq_known)

/-- An object that says a text under a name, and nothing else. -/
def saying (name text : String) : Json := .object [(name, .text text)]

/-- A success whose body says a text under a name. -/
def successSaying (name text : String) : Response := success (saying name text)

/-- A success that says a text is read as saying it. -/
theorem says_successSaying (name text : String) :
    (successSaying name text).Says (successSaying name text).Within name text := by
  have hreadable : (saying name text).Readable hundredfold.reading := by
    refine .object _ (List.nodup_singleton _) ?_
    exact List.forall_mem_singleton.mpr (.text _)
  have hwhole : (saying name text).Whole := by
    simp [saying, Json.Whole, Json.texts, Json.memberTexts, Text.whole_ofString]
  refine ⟨[(name, .text text)], holds_iff.mpr (json_success hreadable hwhole), ?_⟩
  simp [Json.Members.get?]

section Numbered

/-- A text that needs no escapes. -/
def Plain (text : String) : Prop := ∀ c ∈ text.toList, 0x20 ≤ c.toNat ∧ c ≠ '"' ∧ c ≠ '\\'

/-- An object in JSON with an integer under a name and a text under another one. -/
def numberedText (first : String) (whole : List Char) (second text : String) : List Char :=
  '{' :: '"' :: (first.toList ++ '"' :: ':' :: (whole ++ ',' :: '"' ::
    (second.toList ++ '"' :: ':' :: ('"' :: (text.toList ++ ['"']) ++ ['}']))))

/-- A success whose body is such an object. -/
def numbered (first : String) (whole : List Char) (second text : String) : Response where
  status := 200
  body := .ofText (String.ofList (numberedText first whole second text))
  room := hundredfold

variable {first second text : String} {whole : List Char}

/-- Such a body holds the integer and the text, whatever the number of digits. -/
theorem holds_numbered (hfirst : Plain first) (hsecond : Plain second) (htext : Plain text)
    (hwhole : Json.IsWhole whole) :
    (numbered first whole second text).Holds Json.Notation
      (Json.Members.put [(first, .int (Numeral.value whole))] second (.text text)) := by
  have hblanks := Json.blanks_nil
  refine ⟨_, rfl, 1, [], numberedText first whole second text, [], hblanks, ?_, hblanks, by simp⟩
  have hlast : Json.SpellsMembers (fun _ => True) 0
      (Json.Members.put [] first (.int (Numeral.value whole))) _ _ :=
    .last (Json.spellsText_plain hsecond) hblanks hblanks (.text (Json.spellsText_plain htext))
      hblanks
  have hmore : Json.SpellsMembers (fun _ => True) 0 [] _ _ :=
    .more (Json.spellsText_plain hfirst) hblanks hblanks (.number (.int false hwhole trivial))
      hblanks hblanks hlast
  exact .object hblanks hmore

/-- Such a body says the text under its name. -/
theorem says_numbered (hfirst : Plain first) (hsecond : Plain second) (htext : Plain text)
    (hne : first ≠ second) (hwhole : Json.IsWhole whole) :
    (numbered first whole second text).Says Json.Notation second text :=
  ⟨_, holds_numbered hfirst hsecond htext hwhole,
    by simp [Json.Members.put, Json.Members.get?, hne]⟩

/-- With more digits than a numeral may have, nothing is read of it. -/
theorem not_holds_numbered (hfirst : Plain first) (hwhole : Json.IsWhole whole)
    (hlong : ¬ Json.Limited whole.length) (members : Json.Members) :
    ¬ (numbered first whole second text).Holds
      (numbered first whole second text).Within members := by
  rintro ⟨s, hbody, hspells⟩
  obtain rfl := Utf8.ofText_injective hbody
  have hstops : Json.read (99 + 1) (String.ofList (numberedText first whole second text)) =
      .error (.error (.numeral ⟨whole.length⟩)) :=
    Json.read_of_long_first (Json.spellsText_plain hfirst) hwhole hlong
      (Json.endsPart_cons (.inl rfl)) String.toList_ofList
  cases (Json.read_of_document hspells).symm.trans hstops

/-- One digit more than a numeral may have. -/
def manyOnes : List Char := List.replicate (Numeral.maxDigits + 1) '1'

/-- So many ones are digits of an integer. -/
theorem isWhole_manyOnes : Json.IsWhole manyOnes := by
  refine .inr ⟨'1', List.replicate Numeral.maxDigits '1', List.replicate_succ, by decide, ?_⟩
  intro c hc
  rw [List.eq_of_mem_replicate hc]
  rfl

/-- So many ones are too many. -/
theorem not_limited_manyOnes : ¬ Json.Limited manyOnes.length := by
  rw [manyOnes, List.length_replicate]
  exact Nat.not_succ_le_self _

end Numbered

/-- So many lists, one inside the other. -/
def listsText (count : Nat) : List Char := List.replicate count '[' ++ List.replicate count ']'

/-- Characters that begin with one list more than there is room for are too deep. -/
theorem exceeds_lists (room : Nat) (rest : List Char) :
    Json.Exceeds Json.Limited room .list (List.replicate (room + 1) '[' ++ rest) := by
  induction room with
  | zero => exact .list
  | succ room ih => exact @Json.Exceeds.inList _ room _ [] _ Json.blanks_nil (.item ih)

/-- A success whose body is one list more than there is room for. -/
def deepLists (room : Room) : Response where
  status := 200
  body := .ofText (String.ofList (listsText (room.reading + 1)))
  room

/-- There is no room for such a body. -/
theorem nests_deepLists (shape : Json.Shape) (room : Room) : Nests shape (deepLists room) .list :=
  .read rfl ⟨[], _, Json.blanks_nil, exceeds_lists room.reading _, String.toList_ofList⟩

end Response

namespace LedgerServer

variable {r : Response} {members : Json.Members}

/-- A response of the ledger's server tells a sequence number: it is a success, and its body holds a
text of digits under the name for it, at least one digit. -/
def Tells (spells : List Char → Json → Prop) (r : Response) (ds : List Char) : Prop :=
  r.status = 200 ∧ ds ≠ [] ∧ (∀ c ∈ ds, c.isDigit = true) ∧
    r.Says spells "sequence" (String.ofList ds)

/-- A response describes an account with a sequence number: it tells the number, and with no more
digits than a numeral may have. -/
def Describes (r : Response) (sequence : Nat) : Prop :=
  ∃ ds, Tells r.Within r ds ∧ Json.Limited ds.length ∧ sequence = Numeral.value ds

/-- Members are those that are read from the response. -/
theorem members_eq_ok_iff {shape : Json.Shape} :
    LedgerServer.members r shape = .ok members ↔ r.members shape = .ok members :=
  mapError_eq_ok_iff

/-- The members of the description of an account are those of an object with a text, not empty, for
the sequence number. -/
theorem members_accountShape_iff :
    LedgerServer.members r accountShape = .ok members ↔
      r.Holds r.Within members ∧
        ∃ text, members.get? "sequence" = some (.text text) ∧ text ≠ "" := by
  have hshape : accountShape = .ofText "sequence" := rfl
  rw [members_eq_ok_iff, Response.members_eq_ok_iff, hshape, Json.Shape.describes_ofText_iff]

/-- The members of a result are those of any object. -/
theorem members_resultShape_iff :
    LedgerServer.members r resultShape = .ok members ↔ r.Holds r.Within members := by
  have hshape : resultShape.Describes members :=
    ⟨List.forall_mem_nil _, List.forall_mem_nil _⟩
  rw [members_eq_ok_iff, Response.members_eq_ok_iff, and_iff_left hshape]

/-- A failure of the ledger's server that does not say that an account does not exist. -/
def Refuses (f : Failure) : Prop := ∃ e, f = .ledger e ∧ f.isMissingAccount = false

/-- Where no members are read, there was no room for them, or the ledger's server is at fault. -/
theorem members_eq_error {shape : Json.Shape} {f : Failure}
    (h : LedgerServer.members r shape = .error f) :
    (∃ e, f = .nested e ∧ r.Nests shape e) ∨ (∀ e, ¬ r.Nests shape e) ∧ Refuses f := by
  unfold LedgerServer.members at h
  cases hmembers : r.members shape with
  | ok members => rw [hmembers] at h; cases h
  | error e =>
    rw [hmembers] at h
    cases h
    cases e with
    | nested e => exact .inl ⟨e, rfl, Response.members_eq_nested_iff.mp hmembers⟩
    | error e =>
      refine .inr ⟨fun e' hnests => ?_, ?_⟩
      · rw [Response.members_eq_nested_iff.mpr hnests] at hmembers
        cases hmembers
      · cases e <;> exact ⟨_, rfl, rfl⟩

/-- A result is read from a response exactly if its status is that of an acceptance or a refusal and
its body holds the result. -/
theorem readResult_eq_ok_iff {result : Json} :
    readResult r = .ok result ↔ (r.status = 200 ∨ r.status = 400) ∧
      ∃ members, r.Holds r.Within members ∧ result = .object members := by
  unfold readResult
  split
  · next hstatus =>
    simp only [map_eq_ok_iff, members_resultShape_iff, hstatus, true_and, @eq_comm _ result]
  · next hother => exact iff_of_false nofun fun h => hother h.1

/-- Where no result is read, there was no room for it, or the ledger's server is at fault. -/
theorem readResult_eq_error {f : Failure} (h : readResult r = .error f) :
    ((r.status = 200 ∨ r.status = 400) ∧ ∃ e, f = .nested e ∧ r.Nests resultShape e) ∨
      ((r.status = 200 ∨ r.status = 400) → ∀ e, ¬ r.Nests resultShape e) ∧ Refuses f := by
  unfold readResult at h
  split at h
  · next hstatus =>
    cases hmembers : LedgerServer.members r resultShape with
    | error f' =>
      rw [hmembers] at h
      cases h
      rcases members_eq_error hmembers with hnested | ⟨hroom, hrefuses⟩
      · exact .inl ⟨hstatus, hnested⟩
      · exact .inr ⟨fun _ => hroom, hrefuses⟩
    | ok members =>
      rw [hmembers] at h
      cases h
  · next hother =>
    cases h
    exact .inr ⟨fun hstatus => absurd hstatus hother, _, rfl, rfl⟩

section Account

variable {ds : List Char}

/-- A response tells one sequence number. -/
theorem Tells.unique {ds' : List Char} (h : Tells r.Within r ds) (h' : Tells r.Within r ds') :
    ds = ds' := by
  obtain ⟨-, -, -, members, hholds, htext⟩ := h
  obtain ⟨-, -, -, members', hholds', htext'⟩ := h'
  obtain rfl := hholds.unique hholds'
  rw [htext, Option.some.injEq, Json.text.injEq, Text.ofString_inj] at htext'
  simpa using congrArg String.toList htext'

/-- Where a response tells a sequence number, there is room for it. -/
theorem Tells.not_nests (h : Tells r.Within r ds) (e : Json.Nested) :
    ¬ r.Nests accountShape e := by
  obtain ⟨-, hne, -, members, hholds, htext⟩ := h
  have hmembers : LedgerServer.members r accountShape = .ok members :=
    members_accountShape_iff.mpr ⟨hholds, _, htext, by simpa [← Text.isEmpty_iff] using hne⟩
  intro hnests
  rw [members_eq_ok_iff, Response.members_eq_nested_iff.mpr hnests] at hmembers
  cases hmembers

/-- What is read of a response that tells a sequence number. -/
theorem readAccount_of_tells (h : Tells r.Within r ds) (accountId : String) :
    readAccount accountId r = if ds.length ≤ Numeral.maxDigits then
      .ok ⟨accountId, Numeral.value ds⟩ else .error (.digits ⟨ds.length⟩) := by
  obtain ⟨hstatus, hne, hdigits, members, hholds, htext⟩ := h
  have hmembers : LedgerServer.members r accountShape = .ok members :=
    members_accountShape_iff.mpr ⟨hholds, _, htext, by simpa [← Text.isEmpty_iff] using hne⟩
  have hpresent : r.status ≠ 404 := by
    rw [hstatus]
    decide
  have hsequence : readSequence (String.ofList ds) = (Numeral.read ds).mapError .digits := by
    rw [readSequence, Text.string?_ofString]
    dsimp only
    rw [String.toList_ofList, if_pos (Numeral.isNumeral_iff.mpr ⟨hne, hdigits⟩)]
  rw [readAccount, if_neg hpresent, if_neg (not_not_intro hstatus)]
  simp only [hmembers, bind, Except.bind, htext, Option.bind_some, Json.text?, Option.getD_some,
    hsequence, Numeral.read]
  by_cases hlength : ds.length ≤ Numeral.maxDigits
  · simp only [if_pos hlength]
    rfl
  · simp only [if_neg hlength]
    rfl

/-- A text that is no numeral is refused as a sequence number. -/
theorem readSequence_of_not_numeral {text : Text}
    (hnone : ∀ ds, text = String.ofList ds → ds ≠ [] → ¬ ∀ c ∈ ds, c.isDigit = true) :
    readSequence text = .error (.ledger (.sequence text)) := by
  unfold readSequence
  split
  · next s hs =>
    obtain rfl := Text.string?_eq_some_iff.mp hs
    refine if_neg fun hnumeral => ?_
    obtain ⟨hne, hdigits⟩ := Numeral.isNumeral_iff.mp hnumeral
    exact hnone s.toList (by rw [String.ofList_toList]) hne hdigits
  · rfl

/-- A response that is no success is refused, and so is one that tells no sequence number, unless
there was no room for it. -/
theorem readAccount_of_not_tells (hpresent : r.status ≠ 404) (hnone : ∀ ds, ¬ Tells r.Within r ds)
    (accountId : String) : ∃ f, readAccount accountId r = .error f ∧
      ((r.status = 200 ∧ ∃ e, f = .nested e ∧ r.Nests accountShape e) ∨
        (r.status = 200 → ∀ e, ¬ r.Nests accountShape e) ∧ Refuses f) := by
  rw [readAccount, if_neg hpresent]
  split
  · next hother => exact ⟨_, rfl, .inr ⟨fun hsuccess => absurd hsuccess hother, _, rfl, rfl⟩⟩
  next hsuccess =>
  have hsuccess : r.status = 200 := Decidable.not_not.mp hsuccess
  cases hmembers : LedgerServer.members r accountShape with
  | error f =>
    rcases members_eq_error hmembers with hnested | ⟨hroom, hrefuses⟩
    · exact ⟨f, rfl, .inl ⟨hsuccess, hnested⟩⟩
    · exact ⟨f, rfl, .inr ⟨fun _ => hroom, hrefuses⟩⟩
  | ok members =>
    obtain ⟨hholds, text, htext, hne⟩ := members_accountShape_iff.mp hmembers
    have hsequence : readSequence text = .error (.ledger (.sequence text)) := by
      refine readSequence_of_not_numeral fun ds hds hne hdigits => ?_
      exact hnone ds ⟨hsuccess, hne, hdigits, members, hholds, hds ▸ htext⟩
    simp only [bind, Except.bind, htext, Option.bind_some, Json.text?, Option.getD_some, hsequence]
    refine ⟨_, rfl, .inr ⟨fun _ e hnests => ?_, _, rfl, rfl⟩⟩
    rw [members_eq_ok_iff, Response.members_eq_nested_iff.mpr hnests] at hmembers
    cases hmembers

/-- The ways in which a response is read as the answer to the question for an account. -/
inductive AccountRead (accountId : String) (r : Response) : Except Failure Snapshot → Prop where
  | missing (hmissing : r.status = 404) :
      AccountRead accountId r (.error (.ledger (.accountMissing accountId)))
  | found {ds : List Char} (htells : Tells r.Within r ds) (hlength : Json.Limited ds.length) :
      AccountRead accountId r (.ok ⟨accountId, Numeral.value ds⟩)
  | long {ds : List Char} (htells : Tells r.Within r ds) (hlong : ¬ Json.Limited ds.length) :
      AccountRead accountId r (.error (.digits ⟨ds.length⟩))
  | nested {e : Json.Nested} (hsuccess : r.status = 200) (hnone : ∀ ds, ¬ Tells r.Within r ds)
      (hnests : r.Nests accountShape e) : AccountRead accountId r (.error (.nested e))
  | refused {f : Failure} (hpresent : r.status ≠ 404) (hnone : ∀ ds, ¬ Tells r.Within r ds)
      (hroom : r.status = 200 → ∀ e, ¬ r.Nests accountShape e) (hrefuses : Refuses f) :
      AccountRead accountId r (.error f)

/-- A response is read in one of these ways. -/
theorem accountRead (accountId : String) (r : Response) :
    AccountRead accountId r (readAccount accountId r) := by
  by_cases hmissing : r.status = 404
  · rw [readAccount, if_pos hmissing]
    exact .missing hmissing
  by_cases htells : ∃ ds, Tells r.Within r ds
  · obtain ⟨ds, htells⟩ := htells
    rw [readAccount_of_tells htells]
    split
    · next hlength => exact .found htells hlength
    · next hlong => exact .long htells hlong
  · rw [not_exists] at htells
    obtain ⟨f, hread, ⟨hsuccess, e, rfl, hnests⟩ | ⟨hroom, hrefuses⟩⟩ :=
      readAccount_of_not_tells hmissing htells accountId
    · rw [hread]
      exact .nested hsuccess htells hnests
    · rw [hread]
      exact .refused hmissing htells hroom hrefuses

/-- An account is read from a response exactly if the response describes it. -/
theorem readAccount_eq_ok_iff {accountId : String} {snapshot : Snapshot} :
    readAccount accountId r = .ok snapshot ↔
      ∃ sequence : Nat, Describes r sequence ∧ snapshot = ⟨accountId, sequence⟩ := by
  constructor
  · intro hok
    have hread := hok ▸ accountRead accountId r
    cases hread with
    | found htells hlength => exact ⟨_, ⟨_, htells, hlength, rfl⟩, rfl⟩
  · rintro ⟨_, ⟨ds, htells, hlength, rfl⟩, rfl⟩
    rw [readAccount_of_tells htells]
    exact if_pos hlength

/-- Where no account is read, the failure says that there is none exactly if the status does. -/
theorem isMissingAccount_of_readAccount {accountId : String} {f : Failure}
    (hfailed : readAccount accountId r = .error f) :
    f.isMissingAccount = true ↔ r.status = 404 := by
  have hread := hfailed ▸ accountRead accountId r
  cases hread with
  | missing hmissing => exact iff_of_true rfl hmissing
  | long htells hlong =>
    refine iff_of_false nofun ?_
    rw [htells.1]
    decide
  | nested hsuccess hnone hnests =>
    refine iff_of_false nofun ?_
    rw [hsuccess]
    decide
  | refused hpresent hnone hroom hrefuses =>
    obtain ⟨e, -, hother⟩ := hrefuses
    exact iff_of_false (Bool.not_eq_true _ ▸ hother) hpresent

end Account

end LedgerServer

namespace ComplianceServer

variable {r : Response}

/-- A transaction is read from a response exactly if it is a success whose body says some text. -/
theorem read_eq_ok_iff {text : Text} : read r = .ok text ↔
    r.status = 200 ∧ r.Says r.Within "transaction_xdr" text ∧ text ≠ "" := by
  unfold read
  split
  · next hother =>
    refine ⟨nofun, ?_⟩
    rintro ⟨hstatus, -⟩
    exact absurd hstatus hother
  · next hstatus =>
    have hstatus : r.status = 200 := Decidable.not_not.mp hstatus
    rw [← Response.members_ofText_iff]
    show _ ↔ r.status = 200 ∧ ∃ members, r.members answerShape = .ok members ∧ _
    cases r.members answerShape with
    | error e => exact iff_of_false nofun (by rintro ⟨-, members, ⟨⟩, -⟩)
    | ok own =>
      rw [Except.ok.injEq]
      constructor
      · intro heq
        exact ⟨hstatus, _, rfl, heq⟩
      · rintro ⟨-, members, heq, htext⟩
        cases heq
        exact htext

/-- There is no room for a response exactly if it is a success with such a body. -/
theorem read_eq_nested_iff {e : Json.Nested} :
    read r = .error (.nested e) ↔ r.status = 200 ∧ r.Nests answerShape e := by
  unfold read
  split
  · next hother => exact iff_of_false nofun fun h => hother h.1
  · next hstatus =>
    rw [← Response.members_eq_nested_iff, and_iff_right (Decidable.not_not.mp hstatus)]
    cases r.members answerShape with
    | ok own => exact iff_of_false nofun nofun
    | error e => cases e <;> simp [Json.Unread.map]

end ComplianceServer

end Remittance

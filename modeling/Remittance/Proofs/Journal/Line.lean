import Remittance.Journal.Line
import Remittance.Proofs.Computation
import Remittance.Proofs.Json.Control
import Remittance.Proofs.Json.RoundTrip
import Remittance.Proofs.Time.Civil

/-!
# An entry on one line

The line of an entry in JSON has no control character, whatever texts stand in the entry, and is
read back as one object: the time, the level, the channel and the message, and then the values under
known names. Only the time can keep an entry without arguments from having a line, if it has no
date. Main statement: `line_reads_back`.
-/

set_option autoImplicit false

namespace Remittance

/-- Every name is among all names. -/
theorem Label.mem_all (l : Label) : l ∈ Label.all := by
  cases l <;> simp [Label.all]

namespace Journal

open Json (Members)

/-- Members show the values of an entry: those under known names that are not null, in the order of
the names. -/
structure Shows (values shown : Members) : Prop where
  ordered : (shown.map Prod.fst).Sublist (Label.all.map fun l => (l.word : Text))
  given : ∀ name value, (name, value) ∈ shown ↔
    ∃ l : Label, name = l.word ∧ values.get? l.word = some value ∧ value ≠ .null

namespace Entry

variable {e : Entry} {line : Text} {members : Members}

/-- A member is shown exactly if it is a value under a known name that is not null. -/
theorem mem_shown_iff {name : Text} {value : Json} : (name, value) ∈ e.shown ↔
    ∃ l : Label, name = l.word ∧ e.values.get? l.word = some value ∧ value ≠ .null := by
  unfold shown
  rw [List.mem_filterMap]
  constructor
  · rintro ⟨l, -, hl⟩
    split at hl
    · cases hl
    · cases hl
    · next given hnull hgiven =>
      cases hl
      exact ⟨l, rfl, hgiven, hnull⟩
  · rintro ⟨l, rfl, hgiven, hnull⟩
    refine ⟨l, l.mem_all, ?_⟩
    rw [hgiven]
    cases value with
    | null => exact absurd rfl hnull
    | _ => rfl

/-- What an entry shows are its values. -/
theorem shows_shown (e : Entry) : Shows e.values e.shown := by
  constructor
  case ordered =>
    unfold shown
    induction Label.all with
    | nil => simp
    | cons l rest ih =>
      rw [List.filterMap_cons]
      split
      · exact ih.cons _
      · next shown hshown =>
        split at hshown <;> cases hshown
        exact ih.cons_cons _
  case given => exact fun _ _ => mem_shown_iff

/-- The members that every line has. -/
def leading (e : Entry) (time : String) (message : Text) : Members :=
  [("timestamp", .text time), ("level", .text e.level), ("logger", .text e.channel),
    ("message", .text message)]

section Parts

/-- A moment with a date passes the check. -/
theorem checkMoment_of_isDated {m : Moment} (hdated : m.IsDated) : checkMoment m = .ok m := by
  obtain ⟨hlow, hhigh⟩ := m.isDated_iff.mp hdated
  obtain ⟨hfirst, hlast⟩ := hdated
  unfold checkMoment
  rw [if_neg (by omega), if_neg (by omega)]

/-- The check changes nothing. -/
theorem eq_of_checkMoment {m m' : Moment} (h : checkMoment m = .ok m') : m' = m := by
  unfold checkMoment at h
  split_ifs at h
  exact (Except.ok.inj h).symm

/-- The text of the time of an entry is that of its moment, if the moment has a date. -/
theorem timestamp_eq_ok_iff {time : String} : e.timestamp = .ok time ↔
    ∃ m, Moment.ofTime? e.created = some m ∧ m.iso? = .ok time := by
  unfold timestamp
  cases Moment.ofTime? e.created with
  | none => simp
  | some m =>
    simp only [bind_eq_ok_iff, mapError_eq_ok_iff, Option.some.injEq, exists_eq_left']
    constructor
    · rintro ⟨m', hcheck, htime⟩
      rwa [eq_of_checkMoment hcheck] at htime
    · intro htime
      exact ⟨m, checkMoment_of_isDated (m.exists_iso_iff.mp ⟨time, htime⟩), htime⟩

/-- The members of a line: four that every line has, the values, and the error that is noted. -/
theorem members_eq_ok_iff : e.members = .ok members ↔
    ∃ time message, e.timestamp = .ok time ∧ e.message = .ok message ∧
      members = e.leading time message ++ e.shown ++
        (match e.note with
          | some note => [("exception", .text note.message)]
          | none => []) := by
  unfold Entry.members
  simp only [bind_eq_ok_iff]
  constructor
  · rintro ⟨time, htime, message, hmessage, hmembers⟩
    exact ⟨time, message, htime, hmessage, (Except.ok.inj hmembers).symm⟩
  · rintro ⟨time, message, htime, hmessage, rfl⟩
    exact ⟨time, htime, message, hmessage, rfl⟩

/-- The line of an entry is what is written of its members. -/
theorem jsonLine_eq_ok_iff : e.jsonLine = .ok line ↔
    ∃ members, e.members = .ok members ∧ Json.write .spaced (.object members) = line :=
  map_eq_ok_iff

/-- No line of an entry has a control character, whatever texts and values the entry holds. -/
theorem unbroken_jsonLine (h : e.jsonLine = .ok line) : Json.Unbroken line.codes := by
  obtain ⟨members, -, rfl⟩ := jsonLine_eq_ok_iff.mp h
  apply Json.unbroken_codes <;> simp [Json.Layout.spaced]

/-- No name comes twice in a line, for those that every line has are no names of values. -/
theorem readable_members {room : Nat} (hmembers : e.members = .ok members)
    (hvalues : ∀ l : Label, ∀ value, e.values.get? l.word = some value →
      Json.Readable room value) :
    Json.Readable (room + 1) (.object members) := by
  obtain ⟨time, message, -, -, rfl⟩ := members_eq_ok_iff.mp hmembers
  refine .object _ ?_ ?_
  · have hall : ((["timestamp", "level", "logger", "message"] : List Text) ++
        (Label.all.map fun l : Label => (l.word : Text)) ++ (["exception"] : List Text)).Nodup := by
      decide
    refine hall.sublist ?_
    simp only [List.map_append]
    refine ((List.Sublist.refl _).append e.shows_shown.ordered).append ?_
    cases e.note <;> simp
  · intro m hm
    simp only [List.mem_append] at hm
    rcases hm with (hfirst | hshown) | hnote
    · simp only [leading, List.mem_cons, List.not_mem_nil, or_false] at hfirst
      rcases hfirst with rfl | rfl | rfl | rfl <;> exact .text _
    · obtain ⟨l, -, hgiven, -⟩ := mem_shown_iff.mp hshown
      exact hvalues l _ hgiven
    · cases hnoted : e.note with
      | none => simp [hnoted] at hnote
      | some note =>
        simp only [hnoted, List.mem_singleton] at hnote
        exact hnote ▸ .text _

/-- Where the values can be read, the line is read back as its members. -/
theorem read_jsonLine {room : Nat} {s : String} (h : e.jsonLine = .ok s)
    (hvalues : ∀ l : Label, ∀ value, e.values.get? l.word = some value →
      Json.Readable room value) :
    ∃ members, e.members = .ok members ∧ Json.read (room + 1) s = .ok (.object members) := by
  obtain ⟨members, hmembers, hwrite⟩ := jsonLine_eq_ok_iff.mp h
  refine ⟨members, hmembers, ?_⟩
  exact Json.read_write_of_parts Json.parts_spaced (readable_members hmembers hvalues) hwrite

/-- Values under other names make no difference. -/
theorem jsonLine_congr {values : Members}
    (h : ∀ l : Label, values.get? l.word = e.values.get? l.word) :
    { e with values := values }.jsonLine = e.jsonLine := by
  have hshown : { e with values := values }.shown = e.shown := by
    unfold shown
    simp only [h]
  unfold jsonLine Entry.members
  rw [hshown]
  rfl

end Parts

/-- An entry of texts: it has no arguments and notes no error, and its values under known names are
texts or null. -/
structure IsPlain (e : Entry) : Prop where
  bare : e.args = []
  unnoted : e.note = none
  texts : ∀ l : Label, ∀ value, e.values.get? l.word = some value →
    value = .null ∨ ∃ s : String, value = .text s

/-- Without arguments the template is the message. -/
theorem IsPlain.message_eq (hplain : e.IsPlain) : e.message = .ok (e.template : Text) := by
  rw [message, hplain.bare]
  rfl

/-- Texts and nulls can be read in any room. -/
theorem IsPlain.readable (hplain : e.IsPlain) (room : Nat) (l : Label) (value : Json)
    (hvalue : e.values.get? l.word = some value) : Json.Readable room value := by
  rcases hplain.texts l value hvalue with rfl | ⟨s, rfl⟩
  · exact .null
  · exact .text s

/-- The members of an entry of texts. -/
theorem IsPlain.members_eq_ok_iff (hplain : e.IsPlain) : e.members = .ok members ↔
    ∃ time, e.timestamp = .ok time ∧
      members = e.leading time e.template ++ e.shown := by
  simp [Entry.members_eq_ok_iff, hplain.message_eq, hplain.unnoted]

/-- The line of an entry of texts is one of characters. -/
theorem IsPlain.whole_line (hplain : e.IsPlain) (h : e.jsonLine = .ok line) : line.Whole := by
  obtain ⟨members, hmembers, rfl⟩ := jsonLine_eq_ok_iff.mp h
  obtain ⟨time, -, rfl⟩ := hplain.members_eq_ok_iff.mp hmembers
  rw [Json.whole_write_iff, Json.whole_object_iff]
  intro m hm
  rcases List.mem_append.mp hm with hfirst | hshown
  · have hwhole (name value : String) : Text.Whole name ∧ (Json.text value).Whole :=
      ⟨Text.whole_ofString name, Json.whole_text_iff.mpr (Text.whole_ofString value)⟩
    simp only [leading, List.mem_cons, List.not_mem_nil, or_false] at hfirst
    rcases hfirst with rfl | rfl | rfl | rfl <;> exact hwhole _ _
  · obtain ⟨l, hname, hgiven, hnull⟩ := mem_shown_iff.mp hshown
    obtain hvalue | ⟨s, hvalue⟩ := hplain.texts l m.2 hgiven
    · exact absurd hvalue hnull
    · rw [hname, hvalue, Json.whole_text_iff]
      exact ⟨Text.whole_ofString _, Text.whole_ofString s⟩

/-- Whatever its texts are, an entry has a line exactly if its time has a date. -/
theorem IsPlain.exists_line_iff (hplain : e.IsPlain) : (∃ line, e.jsonLine = .ok line) ↔
    ∃ m, Moment.ofTime? e.created = some m ∧ m.IsDated := by
  simp only [jsonLine_eq_ok_iff, hplain.members_eq_ok_iff, timestamp_eq_ok_iff,
    ← Moment.exists_iso_iff]
  constructor
  · rintro ⟨line, members, ⟨time, ⟨m, hm, htime⟩, -⟩, -⟩
    exact ⟨m, hm, time, htime⟩
  · rintro ⟨m, hm, time, htime⟩
    exact ⟨_, _, ⟨time, ⟨m, hm, htime⟩, rfl⟩, rfl⟩

/-- What the line of an entry is like. -/
structure OnOneLine (e : Entry) (reply : Except Fault Text) : Prop where
  /-- There is a line exactly if the time of the entry has a date. -/
  written : (∃ line, reply = .ok line) ↔
    ∃ m, Moment.ofTime? e.created = some m ∧ m.IsDated
  unbroken : ∀ line, reply = .ok line → Json.Unbroken line.codes
  read : ∀ line, reply = .ok line → ∃ (s : String) (m : Moment) (time : String) (shown : Members),
    line = s ∧ Moment.ofTime? e.created = some m ∧ m.iso? = .ok time ∧ Shows e.values shown ∧
      ∀ room, Json.read (room + 1) s = .ok (.object (e.leading time e.template ++ shown))
  others : ∀ values : Members, (∀ l : Label, values.get? l.word = e.values.get? l.word) →
    { e with values := values }.jsonLine = reply

/-- An entry of texts has a line if its time has a date. The line has no control character, is read
back as the entry's texts, and does not depend on values under other names. -/
theorem line_reads_back (e : Entry) (hplain : e.IsPlain) : OnOneLine e e.jsonLine := by
  constructor
  case written => exact hplain.exists_line_iff
  case unbroken => exact fun line => unbroken_jsonLine
  case read =>
    intro line hline
    obtain ⟨s, rfl⟩ := hplain.whole_line hline
    obtain ⟨members, hmembers, -⟩ := jsonLine_eq_ok_iff.mp hline
    obtain ⟨time, htime, rfl⟩ := hplain.members_eq_ok_iff.mp hmembers
    obtain ⟨m, hm, hiso⟩ := timestamp_eq_ok_iff.mp htime
    refine ⟨s, m, time, e.shown, rfl, hm, hiso, e.shows_shown, fun room => ?_⟩
    obtain ⟨members, hmembers', hread⟩ := read_jsonLine hline (hplain.readable room)
    rw [hmembers] at hmembers'
    cases hmembers'
    exact hread
  case others => exact fun values => jsonLine_congr

/-- An entry whose message and destination end a line, quote and escape. -/
def forgedEntry : Entry where
  created := .whole 1700000000
  level := "INFO"
  channel := "payments"
  template := "Payment failed\n\"\\"
  values := [("memo", .null), ("sender", .text "x"), ("destination", .text "a\r\nb")]

/-- The one line of that entry. -/
def forgedLine : String :=
  "\x7b\"timestamp\": \"2023-11-14T22:13:20+00:00\", \"level\": \"INFO\", " ++
    "\"logger\": \"payments\", \"message\": \"Payment failed\\n\\\"\\\\\", " ++
    "\"destination\": \"a\\r\\nb\"\x7d"

/-- What would end a line or a text is escaped, and comes back where the line is read. -/
theorem forged_entry_reads_back : forgedEntry.IsPlain ∧
    forgedEntry.jsonLine = .ok (forgedLine : Text) ∧ Json.Unbroken (forgedLine : Text).codes ∧
      ∃ m time shown, Moment.ofTime? forgedEntry.created = some m ∧ m.iso? = .ok time ∧
        Shows forgedEntry.values shown ∧
        ∀ room, Json.read (room + 1) forgedLine =
          .ok (.object (forgedEntry.leading time "Payment failed\n\"\\" ++ shown)) := by
  have hplain : forgedEntry.IsPlain := by
    refine ⟨rfl, rfl, fun l value hvalue => ?_⟩
    cases l <;> simp [forgedEntry, Members.get?, Label.word] at hvalue
    · exact .inr ⟨_, hvalue.symm⟩
    · exact .inl hvalue.symm
  have hline : forgedEntry.jsonLine = .ok (forgedLine : Text) := by
    have hsome : forgedEntry.jsonLine.toOption = some (forgedLine : Text) := by decide +kernel
    cases h : forgedEntry.jsonLine with
    | error f => simp [h, Except.toOption] at hsome
    | ok line => simpa [h, Except.toOption] using hsome
  have hone := line_reads_back forgedEntry hplain
  obtain ⟨s, m, time, shown, hs, hm, htime, hshows, hread⟩ := hone.read _ hline
  rw [← Text.ofString_inj.mp hs] at hread
  exact ⟨hplain, hline, hone.unbroken _ hline, m, time, shown, hm, htime, hshows, hread⟩

/-- An entry of the first second of the year 10000. -/
def lateEntry : Entry where
  created := .whole 253402300800
  level := "INFO"
  channel := "payments"
  template := "Payment failed"

/-- Not every entry of texts has a line. -/
theorem not_always_written : ¬ ∀ e : Entry, e.IsPlain → ∃ line, e.jsonLine = .ok line := by
  intro halways
  have hplain : lateEntry.IsPlain := ⟨rfl, rfl, fun l value hvalue => by cases hvalue⟩
  obtain ⟨m, hm, -, hlate⟩ := hplain.exists_line_iff.mp (halways lateEntry hplain)
  cases hm
  exact absurd hlate (by decide)

end Entry

end Journal

end Remittance

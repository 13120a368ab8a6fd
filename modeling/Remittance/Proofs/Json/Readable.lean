import Remittance.Proofs.Decimal.Numeral
import Remittance.Proofs.Decimal.Rounding
import Remittance.Proofs.Json.Soundness

/-!
# What can be read

The values that a text spells: their integers have no more digits than a numeral may have, their
other numbers are numbers of the format, their objects have each name once, and they are nested no
deeper than there is room for. Main statement: `readable_of_read`.
-/

set_option autoImplicit false

namespace Remittance.Json

/-- The values that a text can spell in so much room. -/
inductive Readable : (room : Nat) → Json → Prop where
  | null {room : Nat} : Readable room .null
  | bool {room : Nat} (b : Bool) : Readable room (.bool b)
  | int {room : Nat} (n : Int) (hlength : (Numeral.digits n.natAbs).length ≤ Numeral.maxDigits) :
      Readable room (.int n)
  | real {room : Nat} (x : Binary64) (hnumber : x.IsNumber) : Readable room (.real x)
  | text {room : Nat} (t : Text) : Readable room (.text t)
  | list {room : Nat} (items : List Json) (hitems : ∀ item ∈ items, Readable room item) :
      Readable (room + 1) (.list items)
  | object {room : Nat} (members : Members) (hnames : (members.map Prod.fst).Nodup)
      (hvalues : ∀ m ∈ members, Readable room m.2) : Readable (room + 1) (.object members)

/-- Members that an object can have: no two of one name, and all of values that can be read. -/
structure ReadableMembers (room : Nat) (members : Members) : Prop where
  names : (members.map Prod.fst).Nodup
  values : ∀ m ∈ members, Readable room m.2

section Put

variable {members : Members} {name : Text} {value : Json} {room : Nat}

/-- A member is one that was there, or has the value that was put. -/
theorem mem_put {m : Text × Json} (h : m ∈ members.put name value) :
    m ∈ members ∨ m.2 = value := by
  induction members with
  | nil => exact .inr (List.mem_singleton.mp h ▸ rfl)
  | cons first rest ih =>
    rw [Members.put] at h
    split at h
    · rcases List.mem_cons.mp h with rfl | hrest
      · exact .inr rfl
      · exact .inl (List.mem_cons_of_mem _ hrest)
    · rcases List.mem_cons.mp h with rfl | hrest
      · exact .inl List.mem_cons_self
      · exact (ih hrest).imp_left (List.mem_cons_of_mem _)

/-- A name is one that was there, or the one that was put. -/
theorem mem_names_put {n : Text} (h : n ∈ (members.put name value).map Prod.fst) :
    n ∈ members.map Prod.fst ∨ n = name := by
  induction members with
  | nil => exact .inr (List.mem_singleton.mp h)
  | cons first rest ih =>
    rw [Members.put] at h
    split at h
    · exact .inl h
    · rcases List.mem_cons.mp h with rfl | hrest
      · exact .inl List.mem_cons_self
      · exact (ih hrest).imp_left (List.mem_cons_of_mem _)

/-- A name that was there keeps its place and a new one comes last, so no name comes twice. -/
theorem nodup_put (h : (members.map Prod.fst).Nodup) :
    ((members.put name value).map Prod.fst).Nodup := by
  induction members with
  | nil => exact List.nodup_singleton name
  | cons first rest ih =>
    rw [List.map_cons, List.nodup_cons] at h
    rw [Members.put]
    split
    · rw [List.map_cons, List.nodup_cons]
      exact h
    · next hother =>
      rw [List.map_cons, List.nodup_cons]
      refine ⟨fun hmem => ?_, ih h.2⟩
      rcases mem_names_put hmem with hin | heq
      · exact h.1 hin
      · exact hother (beq_iff_eq.mpr heq)

/-- A value that can be read is put among members that an object can have. -/
theorem ReadableMembers.put (h : ReadableMembers room members) (hvalue : Readable room value) :
    ReadableMembers room (members.put name value) := by
  refine ⟨nodup_put h.names, fun m hm => ?_⟩
  rcases mem_put hm with hin | heq
  · exact h.values m hin
  · exact heq ▸ hvalue

end Put

variable {room : Nat}

/-- An object can have no members. -/
theorem readableMembers_nil : ReadableMembers room [] :=
  ⟨List.nodup_nil, fun _ hm => by cases hm⟩

/-- What the words stand for can be read. -/
theorem readable_of_words : ∀ w ∈ words, Readable room w.2 := by
  intro w hw
  simp only [words, List.mem_cons, List.not_mem_nil, or_false] at hw
  rcases hw with rfl | rfl | rfl | rfl | rfl | rfl
  · exact .null
  · exact .bool true
  · exact .bool false
  all_goals exact .real _ trivial

/-- The number that a run of digits spells is written with no more digits. -/
theorem SpellsNumber.readable {cs : List Char} {j : Json} (h : SpellsNumber Limited cs j) :
    Readable room j := by
  cases h with
  | @int negative whole hwhole hadmits =>
    have hlt := Numeral.value_lt hwhole.allDigits
    have hlength : (Numeral.digits (Numeral.value whole)).length ≤ Numeral.maxDigits :=
      ((Numeral.length_digits_le_iff (List.length_pos_iff.mpr hwhole.ne_nil)).mpr hlt).trans hadmits
    refine .int _ ?_
    cases negative with
    | true => rwa [if_pos rfl, Int.natAbs_neg, Int.natAbs_natCast]
    | false => rwa [if_neg Bool.false_ne_true, Int.natAbs_natCast]
  | real negative hwhole hfraction hexponent hsome =>
    exact .real _ (Binary64.isNumber_ofDecimal ..)

mutual

/-- What is spelt can be read. -/
theorem Spells.readable {room : Nat} {cs : List Char} {j : Json} :
    Spells Limited room cs j → Readable room j
  | .word hw => readable_of_words _ hw
  | .number hnumber => hnumber.readable
  | .text _ => .text _
  | .emptyList _ => .list [] fun _ hitem => by cases hitem
  | .list _ hitems => .list _ hitems.readable
  | .emptyObject _ => .object [] List.nodup_nil fun _ hm => by cases hm
  | .object _ hmembers =>
    .object _ (hmembers.readable readableMembers_nil).names
      (hmembers.readable readableMembers_nil).values

/-- The items of a list that are spelt can be read. -/
theorem SpellsItems.readable {room : Nat} {cs : List Char} {items : List Json} :
    SpellsItems Limited room cs items → ∀ item ∈ items, Readable room item
  | .last hitem _ => List.forall_mem_singleton.mpr hitem.readable
  | .more hitem _ _ hitems => List.forall_mem_cons.mpr ⟨hitem.readable, hitems.readable⟩

/-- The members of an object that are spelt can be read, after such as can be read. -/
theorem SpellsMembers.readable {room : Nat} {read members : Members} {cs : List Char} :
    SpellsMembers Limited room read cs members → ReadableMembers room read →
      ReadableMembers room members
  | .last _ _ _ hvalue _, hread => hread.put hvalue.readable
  | .more _ _ _ hvalue _ _ hmembers, hread => hmembers.readable (hread.put hvalue.readable)

end

/-- What is read of a text is a value that can be read. -/
theorem readable_of_read {s : String} {j : Json} (h : read room s = .ok j) : Readable room j := by
  obtain ⟨before, inner, after, -, hspells, -, -⟩ := document_of_read h
  exact hspells.readable

end Remittance.Json

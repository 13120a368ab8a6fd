import Remittance.Proofs.Xdr.Format

/-!
# Readers that look no further than they must

What a steady reader gives does not depend on what comes after the octets that it used. So of two
inputs that a format reads as a whole, neither is a proper beginning of the other: a format of
steady readers needs no mark at its end. There is one law for each way to build a format, so the law
of a layout follows its definition.
-/

set_option autoImplicit false

namespace Remittance.Xdr

variable {α β : Type}

/-- A steady reader gives the same value, and leaves more, if there are octets after its input. -/
structure Steady (read : Octets → Option (α × Octets)) : Prop where
  append : ∀ {input rest : Octets} {a : α}, read input = some (a, rest) →
    ∀ more, read (input ++ more) = some (a, rest ++ more)

namespace Steady

variable {read : Octets → Option (α × Octets)} {next : α × Octets → Option (β × Octets)}

/-- A reader that uses no octets is steady. -/
theorem pure (a : α) : Steady fun input => some (a, input) where
  append := by
    rintro input rest _ ⟨⟩ more
    rfl

/-- A reader that reads nothing is steady. -/
theorem none : Steady fun _ => (Option.none : Option (α × Octets)) where
  append := nofun

/-- One steady reader after another, which is chosen by what the first has read. -/
theorem bind (hread : Steady read) (hnext : ∀ a, Steady fun rest => next (a, rest)) :
    Steady fun input => read input >>= next where
  append := by
    intro input rest b hboth more
    obtain ⟨⟨a, between⟩, hfirst, hsecond⟩ := Option.bind_eq_some_iff.mp hboth
    exact Option.bind_eq_some_iff.mpr
      ⟨_, hread.append hfirst more, (hnext a).append hsecond more⟩

/-- A steady reader is steady under another description. -/
theorem map (hread : Steady read) (of : α → β) :
    Steady fun input => (read input).map fun r => (of r.1, r.2) where
  append := by
    intro input rest b hboth more
    obtain ⟨⟨a, between⟩, hfirst, heq⟩ := Option.map_eq_some_iff.mp hboth
    cases heq
    exact Option.map_eq_some_iff.mpr ⟨_, hread.append hfirst more, rfl⟩

end Steady

/-- A block is taken steadily. -/
theorem steady_takeBlock? (n : Nat) : Steady (takeBlock? n) where
  append := by
    intro input rest b hread more
    obtain rfl := takeBlock?_eq_some_iff.mp hread
    exact takeBlock?_eq_some_iff.mpr (List.append_assoc ..)

/-- Of octets that begin with `body`, a reader of parts reads exactly these after a tag, or it reads
nothing. -/
def PartReader.StopsAfter (read : PartReader) (tag : UInt32) (body : Octets) : Prop :=
  ∀ rest, read tag (body ++ rest) = none ∨ ∃ o, read tag (body ++ rest) = some (o, rest)

namespace Format

variable {f : Format α} {g : Format β}

/-- One value after another is read steadily. -/
theorem steady_pair (hf : Steady f.read) (hg : Steady g.read) : Steady (f.pair g).read :=
  hf.bind fun a => hg.bind fun b => .pure (a, b)

/-- A block is read steadily. -/
theorem steady_block (n : Nat) : Steady (block n).read :=
  (steady_takeBlock? n).bind fun b => (steady_takeBlock? (padding n)).bind fun _ => .pure b

/-- A format under another description is read steadily. -/
theorem steady_map (hf : Steady f.read) (back : β → α) (of : α → β) : Steady (f.map back of).read :=
  hf.map of

/-- A word is read steadily. -/
theorem steady_word : Steady word.read :=
  (steady_takeBlock? 4).map fun b => UInt32.ofNat (Octets.toNat b.val)

/-- A long word is read steadily. -/
theorem steady_long : Steady long.read :=
  (steady_takeBlock? 8).map fun b => UInt64.ofNat (Octets.toNat b.val)

/-- A signed word is read steadily. -/
theorem steady_signedWord : Steady signedWord.read := steady_map steady_word _ _

/-- A signed long word is read steadily. -/
theorem steady_signedLong : Steady signedLong.read := steady_map steady_long _ _

/-- A counted byte string is read steadily. -/
theorem steady_sized (max : Nat) : Steady (sized max).read := by
  refine steady_word.bind fun n => ?_
  by_cases hle : n.toNat ≤ max
  · simp only [dif_pos hle]
    exact (steady_block n.toNat).bind fun b =>
      .pure (⟨b.val, b.property.trans_le hle⟩ : BlockUpTo max)
  · simp only [dif_neg hle]
    exact .none

/-- Values in a row are read steadily. -/
theorem steady_readMany (hf : Steady f.read) (n : Nat) : Steady (readMany f n) := by
  induction n with
  | zero => exact .pure _
  | succ n ih => exact hf.bind fun a => ih.bind fun l => .pure _

/-- A counted list is read steadily. -/
theorem steady_listUpTo (max : Nat) (hf : Steady f.read) : Steady (listUpTo max f).read := by
  refine steady_word.bind fun n => ?_
  by_cases hle : n.toNat ≤ max
  · simp only [dif_pos hle]
    exact (steady_readMany hf n.toNat).bind fun l =>
      .pure (⟨l.val, l.property.trans_le hle⟩ : { l : List α // l.length ≤ max })
  · simp only [dif_neg hle]
    exact .none

/-- A value that may be missing is read steadily. -/
theorem steady_optional (hf : Steady f.read) : Steady (optional f).read := by
  refine steady_word.bind fun flag => ?_
  by_cases habsent : flag = 0
  · simp only [if_pos habsent]
    exact .pure none
  by_cases hpresent : flag = 1
  · simp only [if_neg habsent, if_pos hpresent]
    exact hf.bind fun a => .pure (some a)
  · simp only [if_neg habsent, if_neg hpresent]
    exact .none

/-- The body of the case with a tag is read steadily if the bodies of all cases are. -/
theorem steady_readArms {arms : List (Arm α)}
    (harms : arms.Forall fun arm => Steady arm.format.read) (tag : UInt32) :
    Steady fun input => readArms tag input arms := by
  induction arms with
  | nil => exact .none
  | cons arm arms ih =>
    obtain ⟨hfirst, hlater⟩ := (List.forall_cons _ _ _).mp harms
    by_cases htag : tag = arm.tag
    · simp only [readArms, if_pos htag]
      exact hfirst.map arm.inject
    · simp only [readArms, if_neg htag]
      exact ih hlater

/-- A tagged union is read steadily if the bodies of its cases are. -/
theorem steady_union {arms : List (Arm α)} (harms : arms.Forall fun arm => Steady arm.format.read) :
    Steady (union arms).read :=
  steady_word.bind fun tag => steady_readArms harms tag

/-- An open union is read steadily if the bodies of its cases are, and its parts of other kinds. -/
theorem steady_openUnion {arms : List (Arm α)} {part? : α → Option Part} {ofPart : Part → α}
    {other : PartReader} (harms : arms.Forall fun arm => Steady arm.format.read)
    (hother : ∀ tag, Steady (other tag)) : Steady (openUnion arms part? ofPart other).read := by
  refine steady_word.bind fun tag => ?_
  by_cases hknown : (arms.any fun arm => arm.tag == tag) = true
  · simp only [if_pos hknown]
    exact steady_readArms harms tag
  · simp only [if_neg hknown]
    exact (hother tag).map fun body => ofPart ⟨tag, body⟩

section Whole

variable {b c more : Octets} {a : α}

/-- Of an input that begins with `b`, a format reads exactly `b`, or it reads nothing. -/
def StopsAfter (f : Format α) (b : Octets) : Prop :=
  ∀ rest, f.read (b ++ rest) = none ∨ ∃ a, f.read (b ++ rest) = some (a, rest)

/-- A lawful format stops after what it writes. -/
theorem Lawful.stopsAfter (hf : f.Lawful) (a : α) : f.StopsAfter (f.write a) :=
  fun rest => .inr ⟨a, hf.written a rest⟩

/-- A steady format stops after what it reads as a whole. -/
theorem stopsAfter_of_readAll? (hf : Steady f.read) (hread : f.readAll? b = some a) :
    f.StopsAfter b :=
  fun rest => .inr ⟨a, hf.append (readAll?_eq_some_iff.mp hread) rest⟩

/-- A format under another description stops where it did. -/
theorem StopsAfter.map (hf : f.StopsAfter b) (back : β → α) (of : α → β) :
    (f.map back of).StopsAfter b := by
  intro rest
  rcases hf rest with hnone | ⟨a, hread⟩
  · left
    show (f.read (b ++ rest)).map _ = _
    rw [hnone, Option.map_none]
  · right
    refine ⟨of a, ?_⟩
    show (f.read (b ++ rest)).map _ = _
    rw [hread, Option.map_some]

/-- One value after another stops after both. -/
theorem StopsAfter.pair (hf : f.StopsAfter b) (hg : g.StopsAfter c) :
    (f.pair g).StopsAfter (b ++ c) := by
  intro rest
  rw [List.append_assoc]
  rcases hf (c ++ rest) with hnone | ⟨x, hfirst⟩
  · exact .inl (by simp [Format.pair, hnone])
  rcases hg rest with hnone | ⟨y, hsecond⟩
  · exact .inl (by simp [Format.pair, hfirst, hnone])
  · exact .inr ⟨(x, y), read_pair_eq_some_iff.mpr ⟨_, hfirst, hsecond⟩⟩

/-- Values in a row stop after all of them. -/
theorem StopsAfter.readMany {l : List β} {write : β → Octets} {n : Nat}
    (hf : ∀ x ∈ l, f.StopsAfter (write x)) (hn : n = l.length) (rest : Octets) :
    readMany f n (l.flatMap write ++ rest) = none ∨
      ∃ r, readMany f n (l.flatMap write ++ rest) = some (r, rest) := by
  induction l generalizing n with
  | nil =>
    subst hn
    exact .inr ⟨_, rfl⟩
  | cons x l ih =>
    subst hn
    rw [List.flatMap_cons, List.append_assoc, List.length_cons, Format.readMany]
    rcases hf x List.mem_cons_self (l.flatMap write ++ rest) with hnone | ⟨a, hfirst⟩
    · exact .inl (by rw [hnone]; rfl)
    rcases ih (fun y hy => hf y (List.mem_cons_of_mem _ hy)) rfl with hnone | ⟨r, hmany⟩
    · exact .inl (by simp [hfirst, hnone])
    · exact .inr ⟨⟨a :: r.val, by simp [r.property]⟩, by simp [hfirst, hmany]⟩

/-- A counted list stops after its count and its values. -/
theorem StopsAfter.listUpTo {l : List β} {write : β → Octets} {max : Nat}
    (hf : ∀ x ∈ l, f.StopsAfter (write x)) (hl : l.length < 2 ^ 32) :
    (listUpTo max f).StopsAfter (word.write (UInt32.ofNat l.length) ++ l.flatMap write) := by
  intro rest
  have hcount : (UInt32.ofNat l.length).toNat = l.length := UInt32.toNat_ofNat_of_lt' hl
  unfold Format.listUpTo
  dsimp only
  rw [List.append_assoc, lawful_word.written]
  generalize UInt32.ofNat l.length = n at hcount
  simp only [Option.bind_eq_bind, Option.bind_some]
  split
  · rcases StopsAfter.readMany hf hcount rest with hnone | ⟨r, hmany⟩
    · exact .inl (by rw [hnone]; rfl)
    · exact .inr ⟨_, by rw [hmany]; rfl⟩
  · exact .inl rfl

/-- A tag that no case of a union has is not read. -/
theorem read_union_of_other {arms : List (Arm α)} {tag : UInt32}
    (hother : ∀ arm ∈ arms, tag ≠ arm.tag) (rest : Octets) :
    (union arms).read (word.write tag ++ rest) = none := by
  unfold union
  dsimp only
  rw [lawful_word.written]
  show readArms tag rest arms = none
  induction arms with
  | nil => rfl
  | cons arm arms ih =>
    rw [readArms, if_neg (hother arm List.mem_cons_self)]
    exact ih fun arm' harm' => hother arm' (List.mem_cons_of_mem _ harm')

/-- An open union stops after a tag that no case has, if its reader of parts stops after the octets
that follow. -/
theorem stopsAfter_openUnion {arms : List (Arm α)} {part? : α → Option Part} {ofPart : Part → α}
    {other : PartReader} {tag : UInt32} {body : Octets}
    (hapart : (arms.any fun arm => arm.tag == tag) = false) (hother : other.StopsAfter tag body) :
    (openUnion arms part? ofPart other).StopsAfter (word.write tag ++ body) := by
  intro rest
  unfold openUnion
  dsimp only
  rw [List.append_assoc, lawful_word.written]
  simp only [Option.bind_eq_bind, Option.bind_some, hapart, Bool.false_eq_true, if_false]
  rcases hother rest with hnone | ⟨o, hread⟩
  · exact .inl (by rw [hnone, Option.map_none])
  · exact .inr ⟨ofPart ⟨tag, o⟩, by rw [hread, Option.map_some]⟩

/-- Where a format stops, no more octets may come. -/
theorem StopsAfter.readAll?_append (hf : f.StopsAfter b) (hmore : more ≠ []) :
    f.readAll? (b ++ more) = none := by
  unfold readAll?
  rcases hf more with hnone | ⟨a, hread⟩
  · rw [hnone]
  · rw [hread]
    split
    · rename_i heq
      cases heq
      exact absurd rfl hmore
    · rfl

/-- Of two different inputs, if one is read as a whole and one is the beginning of the other, then
the other one is not. -/
theorem readAll?_eq_none_of_beginning (hf : Steady f.read) (hread : f.readAll? b = some a)
    (hother : c ≠ b) (hbegins : c <+: b ∨ b <+: c) : f.readAll? c = none := by
  have hmore : ∀ {b more : Octets}, b ++ more ≠ b → more ≠ [] := by
    rintro b more hne rfl
    exact hne (List.append_nil b)
  rcases hbegins with ⟨more, rfl⟩ | ⟨more, rfl⟩
  · -- A reading of the shorter one would stop there, and leave some of the longer one.
    cases hshort : f.readAll? c with
    | none => rfl
    | some a' =>
      rw [(stopsAfter_of_readAll? hf hshort).readAll?_append (hmore hother.symm)] at hread
      cases hread
  · exact (stopsAfter_of_readAll? hf hread).readAll?_append (hmore hother)

end Whole

end Format

end Remittance.Xdr

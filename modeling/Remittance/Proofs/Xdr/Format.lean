import Mathlib.Data.List.Forall2
import Remittance.Proofs.Text.Octets
import Remittance.Xdr.Format

/-!
# The laws of formats

A lawful format reads back what it writes, and what it reads is what it writes up to the octets that
fill up a byte string, which come out as zeros. Where parts of unknown kinds are left to readers of
their own, that much can be said of the values without such parts only: such a format is faithful.
There is one law for each way to build a format, so the law of a layout follows its definition.
-/

set_option autoImplicit false

namespace Remittance

/-- Octets of which some may have been set to zero. -/
def Octets.Zeroed (b b' : Octets) : Prop := List.Forall₂ (fun x y => y = x ∨ y = 0) b b'

namespace Octets.Zeroed

variable {a a' b b' : Octets}

/-- Octets are zeroed at none of their places. -/
theorem refl (b : Octets) : b.Zeroed b := List.forall₂_same.mpr fun _ _ => .inl rfl

/-- Zeroed octets one after another are zeroed. -/
theorem append (ha : a.Zeroed a') (hb : b.Zeroed b') : (a ++ b).Zeroed (a' ++ b') :=
  List.rel_append ha hb

/-- Zeros are octets that are zeroed at all of their places. -/
theorem zeros (b : Octets) : b.Zeroed (List.replicate b.length 0) := by
  induction b with
  | nil => exact .nil
  | cons x b ih => exact .cons (.inr rfl) ih

end Octets.Zeroed

namespace Xdr

variable {α β : Type}

/-- A block is taken off an input exactly if the input begins with it. -/
theorem takeBlock?_eq_some_iff {n : Nat} {input rest : Octets} {b : Block n} :
    takeBlock? n input = some (b, rest) ↔ input = b.val ++ rest := by
  unfold takeBlock?
  constructor
  · intro htake
    split at htake
    · cases htake
      exact (List.take_append_drop n input).symm
    · cases htake
  · rintro rfl
    have htake : (b.val ++ rest).take n = b.val := List.take_left' b.property
    have hdrop : (b.val ++ rest).drop n = rest := List.drop_left' b.property
    rw [dif_pos (by rw [htake, b.property])]
    simp only [htake, hdrop]

/-- A block is taken off the octets that it was put in front of. -/
theorem takeBlock?_append {n : Nat} {b rest : Octets} (hb : b.length = n) :
    takeBlock? n (b ++ rest) = some (⟨b, hb⟩, rest) := takeBlock?_eq_some_iff.mpr rfl

namespace Format

/-- A lawful format reads back what it writes, with any octets after it, and what it reads is what
it writes, but for octets that it writes as zeros. -/
structure Lawful (f : Format α) : Prop where
  written : ∀ a rest, f.read (f.write a ++ rest) = some (a, rest)
  spelt : ∀ {input a rest}, f.read input = some (a, rest) →
    ∃ used, input = used ++ rest ∧ used.Zeroed (f.write a)

/-- A faithful format reads back the known values as it writes them, and reads no others. What it
reads of a native value is what it writes, but for octets that it writes as zeros. -/
structure Faithful (known native : α → Prop) (f : Format α) : Prop where
  written : ∀ a rest, known a → f.read (f.write a ++ rest) = some (a, rest)
  spelt : ∀ {input a rest}, f.read input = some (a, rest) →
    known a ∧ ∃ used, input = used ++ rest ∧ (native a → used.Zeroed (f.write a))

/-- A lawful format is faithful, and all values are known to it and native. -/
theorem Lawful.faithful {f : Format α} (hf : f.Lawful) :
    f.Faithful (fun _ => True) fun _ => True where
  written a rest _ := hf.written a rest
  spelt hread := by
    obtain ⟨used, hinput, hused⟩ := hf.spelt hread
    exact ⟨trivial, used, hinput, fun _ => hused⟩

/-- A format that is faithful to all values is lawful. -/
theorem Faithful.lawful {f : Format α} {known native : α → Prop} (hf : f.Faithful known native)
    (hknown : ∀ a, known a) (hnative : ∀ a, native a) : f.Lawful where
  written a rest := hf.written a rest (hknown a)
  spelt hread := by
    obtain ⟨-, used, hinput, hused⟩ := hf.spelt hread
    exact ⟨used, hinput, hused (hnative _)⟩

/-- A format is faithful to the same values, however they are described. -/
theorem Faithful.of_iff {f : Format α} {known native known' native' : α → Prop}
    (hf : f.Faithful known native) (hknown : ∀ a, known' a ↔ known a)
    (hnative : ∀ a, native' a ↔ native a) : f.Faithful known' native' := by
  rwa [funext fun a => propext (hknown a), funext fun a => propext (hnative a)]

/-- One value without octets has a lawful format. -/
theorem lawful_const : (const ()).Lawful where
  written _ _ := rfl
  spelt := by
    rintro input a rest ⟨⟩
    exact ⟨[], rfl, .nil⟩

/-- A faithful format under another description that loses nothing. -/
theorem Faithful.map {f : Format α} {known native : α → Prop} (hf : f.Faithful known native)
    {back : β → α} {of : α → β} (hof : ∀ b, of (back b) = b) (hback : ∀ a, back (of a) = a) :
    (f.map back of).Faithful (fun b => known (back b)) fun b => native (back b) where
  written b rest hknown := by
    show (f.read (f.write (back b) ++ rest)).map _ = _
    rw [hf.written _ _ hknown, Option.map_some, hof]
  spelt := by
    intro input b rest hread
    obtain ⟨⟨a, rest'⟩, hfirst, heq⟩ := Option.map_eq_some_iff.mp hread
    cases heq
    show known (back (of a)) ∧ ∃ used, input = used ++ rest' ∧
      (native (back (of a)) → used.Zeroed (f.write (back (of a))))
    rw [hback]
    exact hf.spelt hfirst

/-- A lawful format under another description that loses nothing. -/
theorem Lawful.map {f : Format α} (hf : f.Lawful) {back : β → α} {of : α → β}
    (hof : ∀ b, of (back b) = b) (hback : ∀ a, back (of a) = a) : (f.map back of).Lawful :=
  (hf.faithful.map hof hback).lawful (fun _ => trivial) fun _ => trivial

/-- A pair is read exactly if its parts are, one after the other. -/
theorem read_pair_eq_some_iff {f : Format α} {g : Format β} {input rest : Octets} {x : α × β} :
    (f.pair g).read input = some (x, rest) ↔
      ∃ between, f.read input = some (x.1, between) ∧ g.read between = some (x.2, rest) := by
  obtain ⟨a, b⟩ := x
  simp [pair, Option.bind_eq_some_iff]

/-- One value after another is faithful where both are. -/
theorem Faithful.pair {f : Format α} {g : Format β} {known native : α → Prop}
    {known' native' : β → Prop} (hf : f.Faithful known native) (hg : g.Faithful known' native') :
    (f.pair g).Faithful (fun x => known x.1 ∧ known' x.2) fun x => native x.1 ∧ native' x.2 where
  written x rest hknown := by
    refine read_pair_eq_some_iff.mpr ⟨g.write x.2 ++ rest, ?_, hg.written x.2 rest hknown.2⟩
    show f.read (f.write x.1 ++ g.write x.2 ++ rest) = _
    rw [List.append_assoc, hf.written _ _ hknown.1]
  spelt := by
    intro input x rest hread
    obtain ⟨between, hfirst, hsecond⟩ := read_pair_eq_some_iff.mp hread
    obtain ⟨hknown, used, rfl, hused⟩ := hf.spelt hfirst
    obtain ⟨hknown', used', rfl, hused'⟩ := hg.spelt hsecond
    exact ⟨⟨hknown, hknown'⟩, used ++ used', (List.append_assoc used used' rest).symm,
      fun hnative => (hused hnative.1).append (hused' hnative.2)⟩

/-- One value after another is lawful. -/
theorem Lawful.pair {f : Format α} {g : Format β} (hf : f.Lawful) (hg : g.Lawful) :
    (f.pair g).Lawful :=
  (hf.faithful.pair hg.faithful).lawful (fun _ => ⟨trivial, trivial⟩) fun _ => ⟨trivial, trivial⟩

/-- A block is read exactly from its octets and those that fill it up. -/
theorem read_block_eq_some_iff {n : Nat} {input rest : Octets} {b : Block n} :
    (block n).read input = some (b, rest) ↔
      ∃ fill : Block (padding n), input = b.val ++ (fill.val ++ rest) := by
  unfold block
  simp only [Option.bind_eq_bind, Option.bind_eq_some_iff, Prod.exists, takeBlock?_eq_some_iff,
    Option.pure_def, Option.some.injEq, Prod.mk.injEq]
  constructor
  · rintro ⟨b', between, rfl, fill, rest', rfl, rfl, rfl⟩
    exact ⟨fill, rfl⟩
  · rintro ⟨fill, rfl⟩
    exact ⟨b, _, rfl, fill, rest, rfl, rfl, rfl⟩

/-- The octets of a block are kept, and those that fill it up are set to zero. -/
theorem lawful_block (n : Nat) : (block n).Lawful where
  written b rest :=
    read_block_eq_some_iff.mpr ⟨⟨List.replicate (padding n) 0, List.length_replicate⟩,
      List.append_assoc ..⟩
  spelt := by
    intro input b rest hread
    obtain ⟨fill, rfl⟩ := read_block_eq_some_iff.mp hread
    refine ⟨b.val ++ fill.val, (List.append_assoc ..).symm, (Octets.Zeroed.refl b.val).append ?_⟩
    have hzeros := Octets.Zeroed.zeros fill.val
    rwa [fill.property] at hzeros

/-- Numbers of a fixed width are kept. -/
theorem lawful_number {width : Nat} {toNat : α → Nat} {of : Nat → α}
    (hlt : ∀ a, toNat a < 256 ^ width) (hof : ∀ a, of (toNat a) = a)
    (hto : ∀ n < 256 ^ width, toNat (of n) = n) :
    Lawful ⟨fun a => Octets.ofNat width (toNat a), fun input =>
      (takeBlock? width input).map fun r => (of (Octets.toNat r.1.val), r.2)⟩ where
  written a rest := by
    dsimp only
    rw [takeBlock?_append (Octets.length_ofNat width _), Option.map_some]
    dsimp only
    rw [Octets.toNat_ofNat, Nat.mod_eq_of_lt (hlt a), hof]
  spelt := by
    intro input a rest hread
    obtain ⟨⟨b, rest'⟩, htake, heq⟩ := Option.map_eq_some_iff.mp hread
    cases heq
    obtain rfl := takeBlock?_eq_some_iff.mp htake
    refine ⟨b.val, rfl, ?_⟩
    have hsame : Octets.ofNat width (Octets.toNat b.val) = b.val := by
      have hb := Octets.ofNat_toNat b.val
      rwa [b.property] at hb
    have hlt := Octets.toNat_lt b.val
    rw [b.property] at hlt
    dsimp only
    rw [hto _ hlt, hsame]
    exact .refl b.val

/-- Words are lawful. -/
theorem lawful_word : word.Lawful :=
  lawful_number (fun n => n.toNat_lt) (fun _ => UInt32.ofNat_toNat)
    fun _ hn => UInt32.toNat_ofNat_of_lt' hn

/-- Long words are lawful. -/
theorem lawful_long : long.Lawful :=
  lawful_number (fun n => n.toNat_lt) (fun _ => UInt64.ofNat_toNat)
    fun _ hn => UInt64.toNat_ofNat_of_lt' hn

/-- Signed words are lawful. -/
theorem lawful_signedWord : signedWord.Lawful :=
  lawful_word.map Int32.toInt32_toUInt32 UInt32.toUInt32_toInt32

/-- Signed long words are lawful. -/
theorem lawful_signedLong : signedLong.Lawful :=
  lawful_long.map Int64.toInt64_toUInt64 UInt64.toUInt64_toInt64

/-- A counted byte string is kept, and what fills it up is set to zero. -/
theorem lawful_sized {max : Nat} (hmax : max < 2 ^ 32) : (sized max).Lawful where
  written b rest := by
    have hcount : (UInt32.ofNat b.val.length).toNat = b.val.length :=
      UInt32.toNat_ofNat_of_lt' (Nat.lt_of_le_of_lt b.property hmax)
    unfold sized
    dsimp only
    rw [List.append_assoc, lawful_word.written]
    generalize UInt32.ofNat b.val.length = n at hcount
    have hbody : (block n.toNat).read (b.val ++ (List.replicate (padding b.val.length) 0 ++ rest)) =
        some (⟨b.val, hcount.symm⟩, rest) :=
      read_block_eq_some_iff.mpr ⟨⟨List.replicate (padding b.val.length) 0, by simp [hcount]⟩, rfl⟩
    simp [hcount, b.property, hbody]
  spelt := by
    intro input b rest hread
    obtain ⟨⟨n, between⟩, hcount, hrest⟩ := Option.bind_eq_some_iff.mp hread
    dsimp only at hrest
    split at hrest
    · obtain ⟨⟨body, rest'⟩, hbody, heq⟩ := Option.bind_eq_some_iff.mp hrest
      cases heq
      obtain ⟨used, rfl, hused⟩ := lawful_word.spelt hcount
      obtain ⟨used', rfl, hused'⟩ := (lawful_block n.toNat).spelt hbody
      refine ⟨used ++ used', (List.append_assoc ..).symm, ?_⟩
      show (used ++ used').Zeroed (word.write (UInt32.ofNat body.val.length) ++
        (body.val ++ List.replicate (padding body.val.length) 0))
      rw [body.property, UInt32.ofNat_toNat]
      exact hused.append hused'
    · cases hrest

section Many

variable {f : Format α}

/-- Known values in a row are read back. -/
theorem Faithful.readMany_written {known native : α → Prop} (hf : f.Faithful known native)
    (l : List α) (hknown : ∀ a ∈ l, known a) {n : Nat} (hl : l.length = n) (rest : Octets) :
    readMany f n (l.flatMap f.write ++ rest) = some (⟨l, hl⟩, rest) := by
  induction l generalizing n with
  | nil =>
    subst hl
    rfl
  | cons a l ih =>
    subst hl
    obtain ⟨hfirst, hlater⟩ := List.forall_mem_cons.mp hknown
    rw [List.flatMap_cons, List.append_assoc]
    show readMany f (l.length + 1) _ = _
    unfold readMany
    simp [hf.written a _ hfirst, ih hlater rfl]

/-- Values that were read in a row are known, and native ones are spelt as they are written. -/
theorem Faithful.readMany_spelt {known native : α → Prop} (hf : f.Faithful known native) {n : Nat}
    {input rest : Octets} {l : { l : List α // l.length = n }}
    (hread : readMany f n input = some (l, rest)) :
    (∀ a ∈ l.val, known a) ∧ ∃ used, input = used ++ rest ∧
      ((∀ a ∈ l.val, native a) → used.Zeroed (l.val.flatMap f.write)) := by
  induction n generalizing input with
  | zero =>
    cases hread
    exact ⟨List.forall_mem_nil _, [], rfl, fun _ => .nil⟩
  | succ n ih =>
    obtain ⟨⟨a, between⟩, hfirst, hrest⟩ := Option.bind_eq_some_iff.mp hread
    obtain ⟨⟨more, rest'⟩, hmore, heq⟩ := Option.bind_eq_some_iff.mp hrest
    cases heq
    obtain ⟨hknown, used, rfl, hused⟩ := hf.spelt hfirst
    obtain ⟨hknown', used', rfl, hused'⟩ := ih hmore
    refine ⟨List.forall_mem_cons.mpr ⟨hknown, hknown'⟩, used ++ used',
      (List.append_assoc ..).symm, ?_⟩
    intro hnative
    obtain ⟨hfirst, hlater⟩ := List.forall_mem_cons.mp hnative
    exact (hused hfirst).append (hused' hlater)

/-- A counted list is faithful where its values are. -/
theorem Faithful.listUpTo {known native : α → Prop} (hf : f.Faithful known native) {max : Nat}
    (hmax : max < 2 ^ 32) :
    (listUpTo max f).Faithful (fun l => ∀ a ∈ l.val, known a) fun l => ∀ a ∈ l.val, native a where
  written l rest hknown := by
    have hcount : (UInt32.ofNat l.val.length).toNat = l.val.length :=
      UInt32.toNat_ofNat_of_lt' (Nat.lt_of_le_of_lt l.property hmax)
    unfold Format.listUpTo
    dsimp only
    rw [List.append_assoc, lawful_word.written]
    generalize UInt32.ofNat l.val.length = n at hcount
    simp [hcount, l.property, hf.readMany_written l.val hknown hcount.symm rest]
  spelt := by
    intro input l rest hread
    obtain ⟨⟨n, between⟩, hcount, hrest⟩ := Option.bind_eq_some_iff.mp hread
    dsimp only at hrest
    split at hrest
    · obtain ⟨⟨many, rest'⟩, hmany, heq⟩ := Option.bind_eq_some_iff.mp hrest
      cases heq
      obtain ⟨used, rfl, hused⟩ := lawful_word.spelt hcount
      obtain ⟨hknown, used', rfl, hused'⟩ := hf.readMany_spelt hmany
      refine ⟨hknown, used ++ used', (List.append_assoc ..).symm, fun hnative => ?_⟩
      show (used ++ used').Zeroed (word.write (UInt32.ofNat many.val.length) ++
        many.val.flatMap f.write)
      rw [many.property, UInt32.ofNat_toNat]
      exact hused.append (hused' hnative)
    · cases hrest

/-- A counted list of values of a lawful format is lawful. -/
theorem Lawful.listUpTo (hf : f.Lawful) {max : Nat} (hmax : max < 2 ^ 32) :
    (listUpTo max f).Lawful :=
  (hf.faithful.listUpTo hmax).lawful (fun _ _ _ => trivial) fun _ _ _ => trivial

/-- Only the flags zero and one are read, so a flag is kept too. -/
theorem Lawful.optional (hf : f.Lawful) : (optional f).Lawful where
  written a rest := by
    unfold Format.optional
    dsimp only
    cases a with
    | none => simp [lawful_word.written]
    | some a => simp [lawful_word.written, hf.written]
  spelt := by
    intro input a rest hread
    obtain ⟨⟨flag, between⟩, hflag, hrest⟩ := Option.bind_eq_some_iff.mp hread
    obtain ⟨used, rfl, hused⟩ := lawful_word.spelt hflag
    dsimp only at hrest
    split at hrest
    · rename_i hzero
      subst hzero
      cases hrest
      exact ⟨used, rfl, hused⟩
    · split at hrest
      · rename_i hone
        subst hone
        obtain ⟨⟨value, rest'⟩, hvalue, heq⟩ := Option.bind_eq_some_iff.mp hrest
        cases heq
        obtain ⟨used', rfl, hused'⟩ := hf.spelt hvalue
        exact ⟨used ++ used', (List.append_assoc ..).symm, hused.append hused'⟩
      · cases hrest

end Many

end Format

/-- A case of a tagged union is sound: its format is lawful, and the values that have this case are
those that it makes of a body. -/
structure Arm.Sound (arm : Arm α) : Prop where
  format : arm.format.Lawful
  project_inject : ∀ body, arm.project (arm.inject body) = some body
  inject_project : ∀ a body, arm.project a = some body → arm.inject body = a

/-- A case without a body is sound. -/
theorem Arm.sound_unit [DecidableEq α] (tag : UInt32) (a : α) : (Arm.unit tag a).Sound where
  format := Format.lawful_const
  project_inject _ := if_pos rfl
  inject_project := by
    intro x body hproject
    dsimp only [Arm.unit] at hproject
    split at hproject
    · rename_i hx
      exact hx.symm
    · cases hproject

/-- The cases of a tagged union are sound, have tags of their own, and every value has exactly one
of them. -/
structure SoundArms (arms : List (Arm α)) : Prop where
  sound : arms.Forall Arm.Sound
  tags : arms.Pairwise fun x y => x.tag ≠ y.tag
  apart : arms.Pairwise fun x y => ∀ body, x.project (y.inject body) = none
  total : ∀ a, (arms.any fun arm => (arm.project a).isSome) = true

section Arms

variable {arms : List (Arm α)}

/-- A value is written as one of its cases. -/
theorem exists_writeArms {a : α} (htotal : ∃ arm ∈ arms, (arm.project a).isSome = true) :
    ∃ arm ∈ arms, ∃ body, arm.project a = some body ∧
      writeArms a arms = Format.word.write arm.tag ++ arm.format.write body := by
  induction arms with
  | nil => simp at htotal
  | cons arm arms ih =>
    cases hproject : arm.project a with
    | some body =>
      refine ⟨arm, List.mem_cons_self, body, hproject, ?_⟩
      rw [writeArms, hproject]
    | none =>
      have hlater : ∃ arm ∈ arms, (arm.project a).isSome = true := by
        obtain ⟨arm', hmem, hsome⟩ := htotal
        rcases List.mem_cons.mp hmem with rfl | hin
        · rw [hproject] at hsome
          cases hsome
        · exact ⟨arm', hin, hsome⟩
      obtain ⟨arm', hmem, body, hbody, hwrite⟩ := ih hlater
      refine ⟨arm', List.mem_cons_of_mem _ hmem, body, hbody, ?_⟩
      rw [writeArms, hproject]
      exact hwrite

/-- What a case makes of a body is written as this case. -/
theorem writeArms_inject (hsound : arms.Forall Arm.Sound)
    (hapart : arms.Pairwise fun x y => ∀ body, x.project (y.inject body) = none) {arm : Arm α}
    (hmem : arm ∈ arms) (body : arm.Body) :
    writeArms (arm.inject body) arms = Format.word.write arm.tag ++ arm.format.write body := by
  induction arms with
  | nil => cases hmem
  | cons first arms ih =>
    obtain ⟨hsoundFirst, hsoundLater⟩ := (List.forall_cons _ _ _).mp hsound
    obtain ⟨hfirst, hlater⟩ := List.pairwise_cons.mp hapart
    rcases List.mem_cons.mp hmem with rfl | hin
    · rw [writeArms, hsoundFirst.project_inject]
    · rw [writeArms, hfirst arm hin body]
      exact ih hsoundLater hlater hin

/-- A tag is read as the case that has it. -/
theorem readArms_tag (htags : arms.Pairwise fun x y => x.tag ≠ y.tag) {arm : Arm α}
    (hmem : arm ∈ arms) (input : Octets) :
    readArms arm.tag input arms =
      (arm.format.read input).map fun r => (arm.inject r.1, r.2) := by
  induction arms with
  | nil => cases hmem
  | cons first arms ih =>
    obtain ⟨hfirst, hlater⟩ := List.pairwise_cons.mp htags
    rcases List.mem_cons.mp hmem with rfl | hin
    · rw [readArms, if_pos rfl]
    · rw [readArms, if_neg (hfirst arm hin).symm]
      exact ih hlater hin

/-- What is read after a tag is what the case with the tag makes of a body. -/
theorem exists_of_readArms {tag : UInt32} {input rest : Octets} {a : α}
    (hread : readArms tag input arms = some (a, rest)) :
    ∃ arm ∈ arms, tag = arm.tag ∧
      ∃ body, arm.format.read input = some (body, rest) ∧ a = arm.inject body := by
  induction arms with
  | nil => cases hread
  | cons first arms ih =>
    rw [readArms] at hread
    split at hread
    · rename_i htag
      obtain ⟨⟨body, rest'⟩, hbody, heq⟩ := Option.map_eq_some_iff.mp hread
      cases heq
      exact ⟨first, List.mem_cons_self, htag, body, hbody, rfl⟩
    · obtain ⟨arm, hmem, hrest⟩ := ih hread
      exact ⟨arm, List.mem_cons_of_mem _ hmem, hrest⟩

/-- A tagged union of sound cases is lawful. -/
theorem SoundArms.lawful (hsound : SoundArms arms) : (Format.union arms).Lawful where
  written a rest := by
    obtain ⟨arm, hmem, body, hproject, hwrite⟩ :=
      exists_writeArms (List.any_eq_true.mp (hsound.total a))
    have harm := List.forall_iff_forall_mem.mp hsound.sound arm hmem
    unfold Format.union
    dsimp only
    rw [hwrite, List.append_assoc, Format.lawful_word.written]
    simp only [Option.bind_eq_bind, Option.bind_some]
    rw [readArms_tag hsound.tags hmem, harm.format.written, Option.map_some,
      harm.inject_project a body hproject]
  spelt := by
    intro input a rest hread
    obtain ⟨⟨tag, between⟩, htag, hrest⟩ := Option.bind_eq_some_iff.mp hread
    obtain ⟨arm, hmem, rfl, body, hbody, rfl⟩ := exists_of_readArms hrest
    obtain ⟨used, rfl, hused⟩ := Format.lawful_word.spelt htag
    obtain ⟨used', rfl, hused'⟩ :=
      (List.forall_iff_forall_mem.mp hsound.sound arm hmem).format.spelt hbody
    refine ⟨used ++ used', (List.append_assoc ..).symm, ?_⟩
    show (used ++ used').Zeroed (writeArms (arm.inject body) arms)
    rw [writeArms_inject hsound.sound hsound.apart hmem]
    exact hused.append hused'

end Arms

/-- A reader of parts is lawful: what it gives does not depend on what comes after the octets that
it used, and it reads a part as itself from the octets that it gave for it. -/
structure PartReader.Lawful (read : PartReader) : Prop where
  used : ∀ {tag input body rest}, read tag input = some (body, rest) → rest <:+ input
  steady : ∀ {tag input body rest}, read tag input = some (body, rest) →
    ∀ more, read tag (input ++ more) = some (body, rest ++ more)
  standard : ∀ {tag input body rest}, read tag input = some (body, rest) →
    ∀ more, read tag (body ++ more) = some (body, more)

/-- A part of a kind that no case has, and that its reader reads from its octets as itself. -/
structure Part.Known (p : Part) (arms : List (Arm α)) (read : PartReader) : Prop where
  apart : (arms.any fun arm => arm.tag == p.tag) = false
  read : ∀ more, read p.tag (p.body ++ more) = some (p.body, more)

/-- The cases of an open union are sound, have tags of their own, and every value either has exactly
one of them or is a part of a kind of its own. -/
structure OpenArms (arms : List (Arm α)) (part? : α → Option Part) (ofPart : Part → α) : Prop where
  sound : arms.Forall Arm.Sound
  tags : arms.Pairwise fun x y => x.tag ≠ y.tag
  apart : arms.Pairwise fun x y => ∀ body, x.project (y.inject body) = none
  total : ∀ a, part? a = none → (arms.any fun arm => (arm.project a).isSome) = true
  cases : arms.Forall fun arm => ∀ body, part? (arm.inject body) = none
  part?_ofPart : ∀ p, part? (ofPart p) = some p
  ofPart_part? : ∀ a p, part? a = some p → ofPart p = a

/-- An open union reads back its cases as it writes them, and the parts that its reader knows. -/
theorem OpenArms.written {arms : List (Arm α)} {part? : α → Option Part} {ofPart : Part → α}
    {other : PartReader} (harms : OpenArms arms part? ofPart) {a : α}
    (hknown : ∀ p, part? a = some p → p.Known arms other) (rest : Octets) :
    (Format.openUnion arms part? ofPart other).read
      ((Format.openUnion arms part? ofPart other).write a ++ rest) = some (a, rest) := by
  unfold Format.openUnion
  dsimp only
  cases hpart : part? a with
  | some p =>
    obtain ⟨hapart, hread⟩ := hknown p hpart
    rw [List.append_assoc, Format.lawful_word.written]
    simp only [Option.bind_eq_bind, Option.bind_some, hapart, Bool.false_eq_true, if_false, hread,
      Option.map_some]
    rw [harms.ofPart_part? a p hpart]
  | none =>
    obtain ⟨arm, hmem, body, hproject, hwrite⟩ :=
      exists_writeArms (List.any_eq_true.mp (harms.total a hpart))
    have harm := List.forall_iff_forall_mem.mp harms.sound arm hmem
    have htag : (arms.any fun arm' => arm'.tag == arm.tag) = true :=
      List.any_eq_true.mpr ⟨arm, hmem, beq_self_eq_true _⟩
    dsimp only
    rw [hwrite, List.append_assoc, Format.lawful_word.written]
    simp only [Option.bind_eq_bind, Option.bind_some, htag, if_true]
    rw [readArms_tag harms.tags hmem, harm.format.written, Option.map_some,
      harm.inject_project a body hproject]

/-- An open union is faithful to the parts that its reader of parts knows; its cases are native. -/
theorem OpenArms.faithful {arms : List (Arm α)} {part? : α → Option Part} {ofPart : Part → α}
    {other : PartReader} (harms : OpenArms arms part? ofPart) (hother : other.Lawful) :
    (Format.openUnion arms part? ofPart other).Faithful
      (fun a => ∀ p, part? a = some p → p.Known arms other) fun a => part? a = none where
  written _ rest hknown := harms.written hknown rest
  spelt := by
    intro input a rest hread
    obtain ⟨⟨tag, between⟩, htag, hrest⟩ := Option.bind_eq_some_iff.mp hread
    obtain ⟨used, rfl, hused⟩ := Format.lawful_word.spelt htag
    dsimp only at hrest
    split at hrest
    · obtain ⟨arm, hmem, rfl, body, hbody, rfl⟩ := exists_of_readArms hrest
      have hnone := List.forall_iff_forall_mem.mp harms.cases arm hmem body
      obtain ⟨used', rfl, hused'⟩ :=
        (List.forall_iff_forall_mem.mp harms.sound arm hmem).format.spelt hbody
      refine ⟨fun p hp => ?_, used ++ used', (List.append_assoc ..).symm, fun _ => ?_⟩
      · rw [hnone] at hp
        cases hp
      · unfold Format.openUnion
        dsimp only
        rw [hnone]
        dsimp only
        rw [writeArms_inject harms.sound harms.apart hmem]
        exact hused.append hused'
    · rename_i hapart
      obtain ⟨⟨body, rest'⟩, hbody, heq⟩ := Option.map_eq_some_iff.mp hrest
      cases heq
      obtain ⟨used', rfl⟩ := hother.used hbody
      refine ⟨fun p hp => ?_, used ++ used', (List.append_assoc ..).symm, fun hnative => ?_⟩
      · cases (harms.part?_ofPart _).symm.trans hp
        exact ⟨Bool.eq_false_iff.mpr hapart, hother.standard hbody⟩
      · cases (harms.part?_ofPart _).symm.trans hnative

section Whole

variable {f : Format α}

/-- The whole input is read exactly if nothing is left of it. -/
theorem readAll?_eq_some_iff {input : Octets} {a : α} :
    f.readAll? input = some a ↔ f.read input = some (a, []) := by
  unfold Format.readAll?
  constructor
  · intro hread
    split at hread
    · rename_i heq
      cases hread
      exact heq
    · cases hread
  · intro hread
    rw [hread]

/-- What is written of a known value is read back as a whole. -/
theorem Format.Faithful.readAll?_write {known native : α → Prop} (hf : f.Faithful known native)
    {a : α} (hknown : known a) : f.readAll? (f.write a) = some a := by
  have hread := hf.written a [] hknown
  rw [List.append_nil] at hread
  exact readAll?_eq_some_iff.mpr hread

/-- What is read as a whole is known, and a native value is written back but for the octets that
fill it up. -/
theorem Format.Faithful.of_readAll? {known native : α → Prop} (hf : f.Faithful known native)
    {input : Octets} {a : α} (hread : f.readAll? input = some a) :
    known a ∧ (native a → input.Zeroed (f.write a)) := by
  obtain ⟨hknown, used, rfl, hused⟩ := hf.spelt (readAll?_eq_some_iff.mp hread)
  refine ⟨hknown, fun hnative => ?_⟩
  rw [List.append_nil]
  exact hused hnative

/-- What is written is read back as a whole. -/
theorem Format.Lawful.readAll?_write (hf : f.Lawful) (a : α) : f.readAll? (f.write a) = some a := by
  have hread := hf.written a []
  rw [List.append_nil] at hread
  exact readAll?_eq_some_iff.mpr hread

end Whole

end Xdr

end Remittance

import Remittance.Json.Shape

/-!
# What a shape accepts

Which values are of a shape, apart from how they are checked and which fault is named: objects that
have the members that are required, and whose members are of the kinds that their rules allow. The
check accepts these and no others.
-/

set_option autoImplicit false

namespace Remittance.Json

/-- A value is of a kind. -/
inductive Kind.Is : Kind → Json → Prop where
  | text (t : Text) : Is .text (.text t)
  | integer (n : Int) : Is .integer (.int n)
  | whole (x : Binary64) (n : Int) (hwhole : x.toInt? = some n) : Is .integer (.real x)
  | null : Is .null .null
  | object (members : Members) : Is .object (.object members)

/-- A rule allows a value: it is of one of the kinds, and not empty where the rule says so. -/
structure MemberRule.Allows (rule : MemberRule) (value : Json) : Prop where
  kind : ∃ kind ∈ rule.kinds, kind.Is value
  filled : rule.nonEmpty = true → value ≠ .text ""

/-- A rule for texts allows a text that is not empty. -/
theorem MemberRule.allows_text {rule : MemberRule} {t : Text} (hkind : .text ∈ rule.kinds)
    (hfilled : rule.nonEmpty = true → t ≠ "") : rule.Allows (.text t) where
  kind := ⟨.text, hkind, .text t⟩
  filled hrule heq := hfilled hrule (Json.text.inj heq)

/-- Members are those of an object of a shape. -/
structure Shape.Describes (shape : Shape) (members : Members) : Prop where
  required : ∀ name ∈ shape.required, ∃ value, members.get? name = some value
  allowed : ∀ rule ∈ shape.rules, ∀ value, members.get? rule.name = some value → rule.Allows value

/-- A kind admits the values that are of it. -/
theorem Kind.admits_iff {kind : Kind} {value : Json} :
    kind.admits value = true ↔ kind.Is value := by
  constructor
  · intro hadmits
    cases kind with
    | text => cases value <;> first | exact .text _ | cases hadmits
    | null => cases value <;> first | exact .null | cases hadmits
    | object => cases value <;> first | exact .object _ | cases hadmits
    | integer =>
      cases value with
      | int n => exact .integer n
      | real x =>
        obtain ⟨n, hwhole⟩ := Option.isSome_iff_exists.mp hadmits
        exact .whole x n hwhole
      | _ => cases hadmits
  · intro his
    cases his with
    | whole x n hwhole => exact Option.isSome_iff_exists.mpr ⟨n, hwhole⟩
    | _ => rfl

/-- A rule finds no fault with the values that it allows. -/
theorem MemberRule.fault?_eq_none_iff {rule : MemberRule} {value : Json} :
    rule.fault? value = none ↔ rule.Allows value := by
  have hkind : (rule.kinds.any fun kind => kind.admits value) = true ↔
      ∃ kind ∈ rule.kinds, kind.Is value := by
    simp only [List.any_eq_true, Kind.admits_iff]
  unfold MemberRule.fault?
  split
  · rename_i hnone
    refine iff_of_false nofun fun hallows => ?_
    rw [hkind.mpr hallows.kind] at hnone
    cases hnone
  · rename_i hsome
    have hkind := hkind.mp (by simpa using hsome)
    split
    · rename_i s
      rw [ite_eq_right_iff]
      constructor
      · intro hempty
        refine ⟨hkind, fun hfilled => ?_⟩
        rintro ⟨⟩
        cases hempty (by rw [hfilled]; rfl)
      · rintro ⟨-, hfilled⟩ hempty
        obtain ⟨hrule, hs⟩ := Bool.and_eq_true_iff.mp hempty
        rw [Text.isEmpty_iff.mp hs] at hfilled
        exact absurd rfl (hfilled hrule)
    · rename_i hother
      exact iff_of_true rfl ⟨hkind, fun _ => hother ""⟩

/-- A rule finds no fault with members if it allows the one that it is about. -/
theorem MemberRule.check_eq_none_iff {rule : MemberRule} {members : Members} :
    rule.check members = none ↔
      ∀ value, members.get? rule.name = some value → rule.Allows value := by
  unfold MemberRule.check
  cases hmember : members.get? rule.name with
  | none => exact iff_of_true rfl nofun
  | some value =>
    simp only [Option.bind_eq_bind, Option.bind_some, Option.some.injEq, forall_eq',
      ← MemberRule.fault?_eq_none_iff]
    cases rule.fault? value <;> simp

/-- A value passes the check of a shape exactly if it is an object of that shape. -/
theorem Shape.check_eq_ok_iff {shape : Shape} {value : Json} {members : Members} :
    shape.check value = .ok members ↔ value = .object members ∧ shape.Describes members := by
  cases value with
  | object own =>
    have hrequired : (shape.required.find? fun name => (Members.get? own name).isNone) = none ↔
        ∀ name ∈ shape.required, ∃ value, Members.get? own name = some value := by
      simp [Option.ne_none_iff_exists']
    have hallowed : (shape.rules.filterMap fun rule => rule.check own) = [] ↔
        ∀ rule ∈ shape.rules, ∀ value, Members.get? own rule.name = some value →
          rule.Allows value := by
      simp only [List.filterMap_eq_nil_iff, MemberRule.check_eq_none_iff]
    rw [Json.object.injEq, Shape.check]
    split
    · rename_i name hmissing
      refine iff_of_false nofun ?_
      rintro ⟨rfl, hdescribes⟩
      rw [hrequired.mpr hdescribes.required] at hmissing
      cases hmissing
    · rename_i hpresent
      split
      · rename_i hsound
        rw [Except.ok.injEq]
        constructor
        · rintro rfl
          exact ⟨rfl, hrequired.mp hpresent, hallowed.mp hsound⟩
        · exact And.left
      · rename_i e more hfaults
        refine iff_of_false nofun ?_
        rintro ⟨rfl, hdescribes⟩
        rw [hallowed.mpr hdescribes.allowed] at hfaults
        cases hfaults
  | _ => exact iff_of_false nofun (by rintro ⟨⟨⟩, -⟩)

end Remittance.Json

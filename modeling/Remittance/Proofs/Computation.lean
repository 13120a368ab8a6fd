/-!
# Computations that may fail

A computation succeeds if and only if all its parts do, one after the other.
-/

set_option autoImplicit false

namespace Remittance

/-- A sequence succeeds exactly if both of its parts do. -/
theorem bind_eq_ok_iff {ε α β : Type} {x : Except ε α} {f : α → Except ε β} {b : β} :
    (x >>= f) = .ok b ↔ ∃ a, x = .ok a ∧ f a = .ok b := by
  cases x with
  | ok a =>
    constructor
    · intro hb
      exact ⟨a, rfl, hb⟩
    · rintro ⟨a', heq, hb⟩
      cases heq
      exact hb
  | error e =>
    constructor
    · intro hb
      cases hb
    · rintro ⟨a, heq, -⟩
      cases heq

/-- A computation fails where its first part that fails does. -/
theorem bind_eq_error_iff {ε α β : Type} {x : Except ε α} {f : α → Except ε β} {e : ε} :
    (x >>= f) = .error e ↔ x = .error e ∨ ∃ a, x = .ok a ∧ f a = .error e := by
  cases x with
  | ok a =>
    constructor
    · intro he
      exact .inr ⟨a, rfl, he⟩
    · rintro (heq | ⟨a', heq, he⟩)
      · cases heq
      · cases heq
        exact he
  | error e' =>
    constructor
    · intro he
      cases he
      exact .inl rfl
    · rintro (heq | ⟨a, heq, -⟩)
      · cases heq
        rfl
      · cases heq

/-- A mapped value is that of a success. -/
theorem map_eq_ok_iff {ε α β : Type} {x : Except ε α} {f : α → β} {b : β} :
    x.map f = .ok b ↔ ∃ a, x = .ok a ∧ f a = b := by
  cases x with
  | ok a =>
    constructor
    · intro hb
      exact ⟨a, rfl, Except.ok.inj hb⟩
    · rintro ⟨a', heq, hb⟩
      cases heq
      exact congrArg Except.ok hb
  | error e =>
    constructor
    · intro hb
      cases hb
    · rintro ⟨a, heq, -⟩
      cases heq

/-- To map the errors leaves a success as it is. -/
theorem mapError_eq_ok_iff {α ε ε' : Type} {f : ε → ε'} {x : Except ε α} {a : α} :
    x.mapError f = .ok a ↔ x = .ok a := by
  cases x with
  | ok b =>
    show Except.ok b = Except.ok a ↔ Except.ok b = Except.ok a
    rw [Except.ok.injEq, Except.ok.injEq]
  | error e => exact ⟨nofun, nofun⟩

/-- A mapped error is that of a failure. -/
theorem mapError_eq_error_iff {α ε ε' : Type} {f : ε → ε'} {x : Except ε α} {e : ε'} :
    x.mapError f = .error e ↔ ∃ e', x = .error e' ∧ f e' = e := by
  cases x with
  | ok b =>
    refine ⟨nofun, ?_⟩
    rintro ⟨e', heq, -⟩
    cases heq
  | error e₁ =>
    show Except.error (f e₁) = Except.error e ↔ _
    constructor
    · intro heq
      exact ⟨e₁, rfl, Except.error.inj heq⟩
    · rintro ⟨e', heq, rfl⟩
      rw [Except.error.inj heq]

/-- A row of checks lets through what each of them does. -/
theorem forM_eq_ok {ε α : Type} {f : α → Except ε Unit} {l : List α}
    (hall : ∀ a ∈ l, f a = .ok ()) : l.forM f = .ok () := by
  induction l with
  | nil => rfl
  | cons a l ih =>
    show (f a >>= fun _ => l.forM f) = _
    refine bind_eq_ok_iff.mpr ⟨(), hall a List.mem_cons_self, ih ?_⟩
    intro b hb
    exact hall b (List.mem_cons_of_mem a hb)

/-- A row of checks that lets through does so at each of them. -/
theorem eq_ok_of_forM {ε α : Type} {f : α → Except ε Unit} {l : List α} (hrow : l.forM f = .ok ()) :
    ∀ a ∈ l, f a = .ok () := by
  induction l with
  | nil =>
    intro a ha
    cases ha
  | cons b l ih =>
    have hrow : (f b >>= fun _ => l.forM f) = .ok () := hrow
    obtain ⟨_, hfirst, hlater⟩ := bind_eq_ok_iff.mp hrow
    intro a ha
    rcases List.mem_cons.mp ha with rfl | ha
    · exact hfirst
    · exact ih hlater a ha

/-- A row of checks fails where the first one that fails does. -/
theorem forM_eq_error {ε α : Type} {f : α → Except ε Unit} {before after : List α} {a : α} {e : ε}
    (hbefore : ∀ b ∈ before, f b = .ok ()) (hfails : f a = .error e) :
    (before ++ a :: after).forM f = .error e := by
  induction before with
  | nil =>
    show (f a >>= fun _ => after.forM f) = _
    exact bind_eq_error_iff.mpr (.inl hfails)
  | cons b before ih =>
    show (f b >>= fun _ => (before ++ a :: after).forM f) = _
    refine bind_eq_error_iff.mpr (.inr ⟨(), hbefore b List.mem_cons_self, ih ?_⟩)
    intro c hc
    exact hbefore c (List.mem_cons_of_mem b hc)

end Remittance

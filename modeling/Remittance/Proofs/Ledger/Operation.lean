import Remittance.Ledger.Operation

/-!
# The assets of an operation

An operation with its assets put into another form and then into a third is the operation with each
asset taken there at once. What the third form of an asset is, is asked only of the assets that the
operation names.
-/

set_option autoImplicit false

namespace Remittance

variable {A B C : Type} {f : A → Option B} {g : B → Option C} {h : A → C}

/-- Two changes of a list, one after the other, are one, if what the second gives for a member of
the first is settled by the member itself. -/
theorem allSome_comp {l : List A} {m : List B} (hf : allSome f l = some m)
    (hgh : ∀ a ∈ l, ∀ b, f a = some b → g b = some (h a)) : allSome g m = some (l.map h) := by
  induction l generalizing m with
  | nil =>
    cases hf
    rfl
  | cons a l ih =>
    obtain ⟨b, hb, hrest⟩ := Option.bind_eq_some_iff.mp hf
    obtain ⟨more, hmore, heq⟩ := Option.bind_eq_some_iff.mp hrest
    cases heq
    have hlater := ih hmore fun a ha => hgh a (List.mem_cons_of_mem _ ha)
    rw [allSome, hgh a List.mem_cons_self b hb, hlater]
    rfl

/-- Each member of a changed list comes from a member of the list. -/
theorem exists_of_mem_allSome {l : List A} {m : List B} {b : B} (hf : allSome f l = some m)
    (hb : b ∈ m) : ∃ a ∈ l, f a = some b := by
  induction l generalizing m with
  | nil =>
    cases hf
    cases hb
  | cons a l ih =>
    obtain ⟨b', hb', hrest⟩ := Option.bind_eq_some_iff.mp hf
    obtain ⟨more, hmore, heq⟩ := Option.bind_eq_some_iff.mp hrest
    cases heq
    rcases List.mem_cons.mp hb with rfl | hlater
    · exact ⟨a, List.mem_cons_self, hb'⟩
    · obtain ⟨a', ha', hsome⟩ := ih hmore hlater
      exact ⟨a', List.mem_cons_of_mem _ ha', hsome⟩

/-- A list of limited length is changed as its members are. -/
theorem allSomeUpTo_eq_some_iff {n : Nat} {l : { l : List A // l.length ≤ n }}
    {m : { m : List B // m.length ≤ n }} :
    allSomeUpTo f l = some m ↔ allSome f l.val = some m.val := by
  unfold allSomeUpTo
  constructor
  · intro heq
    split at heq
    · cases heq
    · rename_i m' hm'
      cases heq
      exact hm'
  · intro heq
    split
    · rename_i hnone
      rw [hnone] at heq
      cases heq
    · rename_i m' hm'
      rw [hm'] at heq
      cases heq
      rfl

/-- A list of limited length with each member changed. -/
def mapUpTo {n : Nat} (h : A → B) (l : { l : List A // l.length ≤ n }) :
    { m : List B // m.length ≤ n } :=
  ⟨l.val.map h, by rw [List.length_map]; exact l.property⟩

/-- Two changes of a list of limited length are one. -/
theorem allSomeUpTo_comp {n : Nat} {l : { l : List A // l.length ≤ n }}
    {m : { m : List B // m.length ≤ n }} (hf : allSomeUpTo f l = some m)
    (hgh : ∀ a ∈ l.val, ∀ b, f a = some b → g b = some (h a)) :
    allSomeUpTo g m = some (mapUpTo h l) :=
  allSomeUpTo_eq_some_iff.mpr (allSome_comp (allSomeUpTo_eq_some_iff.mp hf) hgh)

/-- A list whose members all stay as they are stays as it is. -/
theorem mapUpTo_eq_self {n : Nat} {h : A → A} {l : { l : List A // l.length ≤ n }}
    (hsame : ∀ a ∈ l.val, h a = a) : mapUpTo h l = l :=
  Subtype.ext ((List.map_congr_left hsame).trans (List.map_id' l.val))

/-- The assets that a trust line names. -/
def TrustLine.assets : TrustLine A → List A
  | .asset a => [a]
  | .pool a b _ => [a, b]

/-- The assets that an action names. -/
def Action.assets : Action A → List A
  | .payment _ a _ => [a]
  | .pathReceive a _ _ b _ path => a :: b :: path.val
  | .pathSend a _ _ b _ path => a :: b :: path.val
  | .changeTrust line _ => line.assets
  | _ => []

/-- The trust line with its assets changed. -/
def TrustLine.mapAssets (h : A → B) : TrustLine A → TrustLine B
  | .asset a => .asset (h a)
  | .pool a b fee => .pool (h a) (h b) fee

/-- The action with its assets changed. -/
def Action.mapAssets (h : A → B) : Action A → Action B
  | .createAccount d n => .createAccount d n
  | .payment d a n => .payment d (h a) n
  | .pathReceive a n d b m path => .pathReceive (h a) n d (h b) m (mapUpTo h path)
  | .pathSend a n d b m path => .pathSend (h a) n d (h b) m (mapUpTo h path)
  | .changeTrust line n => .changeTrust (line.mapAssets h) n
  | .accountMerge d => .accountMerge d
  | .inflation => .inflation
  | .manageData name value => .manageData name value
  | .bumpSequence n => .bumpSequence n
  | .foreign part => .foreign part

/-- The part of a kind of its own that an action is stays as it is. -/
theorem Action.foreign?_mapAssets (h : A → B) (action : Action A) :
    (action.mapAssets h).foreign? = action.foreign? := by
  cases action <;> rfl

/-- An action is of a kind of its own exactly if it is so with its assets in another form. -/
theorem Action.foreign?_of_mapAssets? {action : Action A} {action' : Action B}
    (hf : action.mapAssets? f = some action') : action'.foreign? = action.foreign? := by
  cases action with
  | payment d a n =>
    obtain ⟨b, -, rfl⟩ := Option.map_eq_some_iff.mp hf
    rfl
  | pathReceive a n d b m path =>
    obtain ⟨x, -, hrest⟩ := Option.bind_eq_some_iff.mp hf
    obtain ⟨y, -, hlater⟩ := Option.bind_eq_some_iff.mp hrest
    obtain ⟨z, -, heq⟩ := Option.bind_eq_some_iff.mp hlater
    cases heq
    rfl
  | pathSend a n d b m path =>
    obtain ⟨x, -, hrest⟩ := Option.bind_eq_some_iff.mp hf
    obtain ⟨y, -, hlater⟩ := Option.bind_eq_some_iff.mp hrest
    obtain ⟨z, -, heq⟩ := Option.bind_eq_some_iff.mp hlater
    cases heq
    rfl
  | changeTrust line n =>
    obtain ⟨line', -, rfl⟩ := Option.map_eq_some_iff.mp hf
    rfl
  | _ =>
    cases hf
    rfl

/-- The operation with its assets changed. -/
def Operation.mapAssets (h : A → B) (op : Operation A) : Operation B :=
  ⟨op.source, op.action.mapAssets h⟩

/-- Two changes of the assets of a trust line are one. -/
theorem TrustLine.mapAssets?_comp {line : TrustLine A} {line' : TrustLine B}
    (hf : line.mapAssets? f = some line')
    (hgh : ∀ a ∈ line.assets, ∀ b, f a = some b → g b = some (h a)) :
    line'.mapAssets? g = some (line.mapAssets h) := by
  cases line with
  | asset a =>
    obtain ⟨b, hb, rfl⟩ := Option.map_eq_some_iff.mp hf
    simp [mapAssets?, mapAssets, hgh a (by simp [assets]) b hb]
  | pool a a' fee =>
    obtain ⟨b, hb, hrest⟩ := Option.bind_eq_some_iff.mp hf
    obtain ⟨b', hb', heq⟩ := Option.bind_eq_some_iff.mp hrest
    cases heq
    simp [mapAssets?, mapAssets, hgh a (by simp [assets]) b hb, hgh a' (by simp [assets]) b' hb']

/-- The changes of the members of a payment along a path, one after another. -/
theorem path_comp {a a' : A} {path : { l : List A // l.length ≤ 5 }} {D E : Type}
    {make : B → B → { l : List B // l.length ≤ 5 } → D} {y : D}
    (made : C → C → { l : List C // l.length ≤ 5 } → E)
    (hf : (do pure (make (← f a) (← f a') (← allSomeUpTo f path)) : Option D) = some y)
    (hgh : ∀ x ∈ a :: a' :: path.val, ∀ b, f x = some b → g b = some (h x)) :
    ∃ b b' path', y = make b b' path' ∧
      (do pure (made (← g b) (← g b') (← allSomeUpTo g path')) : Option E) =
        some (made (h a) (h a') (mapUpTo h path)) := by
  obtain ⟨b, hb, hrest⟩ := Option.bind_eq_some_iff.mp hf
  obtain ⟨b', hb', hrest'⟩ := Option.bind_eq_some_iff.mp hrest
  obtain ⟨path', hpath, heq⟩ := Option.bind_eq_some_iff.mp hrest'
  cases heq
  refine ⟨b, b', path', rfl, ?_⟩
  have hmapped := allSomeUpTo_comp hpath fun x hx => hgh x (by simp [hx])
  simp [hgh a (by simp) b hb, hgh a' (by simp) b' hb', hmapped]

/-- Two changes of the assets of an action are one. -/
theorem Action.mapAssets?_comp {action : Action A} {action' : Action B}
    (hf : action.mapAssets? f = some action')
    (hgh : ∀ a ∈ action.assets, ∀ b, f a = some b → g b = some (h a)) :
    action'.mapAssets? g = some (action.mapAssets h) := by
  cases action with
  | payment d a n =>
    obtain ⟨b, hb, rfl⟩ := Option.map_eq_some_iff.mp hf
    simp [mapAssets?, mapAssets, hgh a (by simp [assets]) b hb]
  | pathReceive a n d a' m path =>
    obtain ⟨b, b', path', rfl, hmapped⟩ := path_comp (Action.pathReceive · n d · m ·) hf hgh
    exact hmapped
  | pathSend a n d a' m path =>
    obtain ⟨b, b', path', rfl, hmapped⟩ := path_comp (Action.pathSend · n d · m ·) hf hgh
    exact hmapped
  | changeTrust line n =>
    obtain ⟨line', hline, rfl⟩ := Option.map_eq_some_iff.mp hf
    simp [mapAssets?, mapAssets, TrustLine.mapAssets?_comp hline hgh]
  | _ =>
    cases hf
    rfl

/-- Two changes of the assets of an operation are one. -/
theorem Operation.mapAssets?_comp {op : Operation A} {op' : Operation B}
    (hf : op.mapAssets? f = some op')
    (hgh : ∀ a ∈ op.action.assets, ∀ b, f a = some b → g b = some (h a)) :
    op'.mapAssets? g = some (op.mapAssets h) := by
  obtain ⟨action', haction, rfl⟩ := Option.map_eq_some_iff.mp hf
  simp [mapAssets?, mapAssets, Action.mapAssets?_comp haction hgh]

/-- A change that every member has, a list has. -/
theorem allSome_some (h : A → B) (l : List A) :
    allSome (fun a => some (h a)) l = some (l.map h) := by
  induction l with
  | nil => rfl
  | cons a l ih =>
    rw [allSome, ih]
    rfl

/-- A change that every member has, a list of limited length has. -/
theorem allSomeUpTo_some {n : Nat} (h : A → B) (l : { l : List A // l.length ≤ n }) :
    allSomeUpTo (fun a => some (h a)) l = some (mapUpTo h l) :=
  allSomeUpTo_eq_some_iff.mpr (allSome_some h l.val)

/-- A change that every asset has, an operation has. -/
theorem Operation.mapAssets?_some (h : A → B) (op : Operation A) :
    op.mapAssets? (fun a => some (h a)) = some (op.mapAssets h) := by
  obtain ⟨source, action⟩ := op
  cases action with
  | changeTrust line n => cases line <;> rfl
  | pathReceive a n d b m path =>
    simp [mapAssets?, mapAssets, Action.mapAssets?, Action.mapAssets, allSomeUpTo_some]
  | pathSend a n d b m path =>
    simp [mapAssets?, mapAssets, Action.mapAssets?, Action.mapAssets, allSomeUpTo_some]
  | _ => rfl

/-- The assets of a changed action are those of the action, changed. -/
theorem Action.assets_mapAssets (h : A → B) (action : Action A) :
    (action.mapAssets h).assets = action.assets.map h := by
  cases action with
  | changeTrust line n => cases line <;> rfl
  | _ => rfl

/-- An action is left as it is by a change that leaves its assets as they are. -/
theorem Action.mapAssets_eq_self {h : A → A} {action : Action A}
    (hsame : ∀ a ∈ action.assets, h a = a) : action.mapAssets h = action := by
  cases action with
  | payment d a n => simp [mapAssets, hsame a (by simp [assets])]
  | pathReceive a n d b m path =>
    rw [mapAssets, hsame a (by simp [assets]), hsame b (by simp [assets]),
      mapUpTo_eq_self fun x hx => hsame x (by simp [assets, hx])]
  | pathSend a n d b m path =>
    rw [mapAssets, hsame a (by simp [assets]), hsame b (by simp [assets]),
      mapUpTo_eq_self fun x hx => hsame x (by simp [assets, hx])]
  | changeTrust line n =>
    cases line with
    | asset a => simp [mapAssets, TrustLine.mapAssets, hsame a (by simp [assets, TrustLine.assets])]
    | pool a b fee =>
      simp [mapAssets, TrustLine.mapAssets, hsame a (by simp [assets, TrustLine.assets]),
        hsame b (by simp [assets, TrustLine.assets])]
  | _ => rfl

/-- An operation is left as it is by a change that leaves its assets as they are. -/
theorem Operation.mapAssets_eq_self {h : A → A} {op : Operation A}
    (hsame : ∀ a ∈ op.action.assets, h a = a) : op.mapAssets h = op := by
  rw [mapAssets, Action.mapAssets_eq_self hsame]

end Remittance

import Remittance.Proofs.Ledger.Build

/-!
# Amounts are exact

The text of an amount stands for a rational number, and its units are that number times 10^7: no
text is rounded, every number of units has a text, and the order of the numbers is that of the
units. The ledger reads the same text a second time, by wider rules, and writes the same units. Of
texts with too many digits before the point nothing is said here.
-/

set_option autoImplicit false

namespace Remittance

/-- The octets of an operation. -/
def Wire.operationOctets (op : Operation Wire.Asset) : Octets := (Wire.operation .none).write op

namespace Amount

variable {s s' : Text} {n n' : Nat} {whole part whole' part' : List Char}

/-- The text of a number of units, with all seven places. -/
def spelling (n : Nat) : String :=
  String.ofList (Numeral.digits (n / 10 ^ 7) ++ '.' :: Numeral.padded 7 (n % 10 ^ 7))

/-- The largest number of units is the largest of 63 bits. -/
theorem maximum_eq : maximum = 2 ^ 63 - 1 := by decide

/-- What a text that is accepted says. -/
theorem number_of_parse (hplain : Plain s whole part) (hparse : parse s = .ok n) :
    number whole part * 10 ^ 7 = n ∧ 1 ≤ n ∧ n ≤ 2 ^ 63 - 1 := by
  obtain ⟨whole', part', hplain', hunits, hpos, hmax⟩ := parse_eq_ok hparse
  obtain ⟨rfl, rfl⟩ := hplain.unique hplain'
  rw [maximum_eq] at hmax
  refine ⟨?_, hpos, hmax⟩
  rw [hunits, units_eq_number hplain.part_length]

/-- A text whose number is a number of units in range is accepted. -/
theorem parse_of_number (hplain : Plain s whole part) (hlength : whole.length ≤ Numeral.maxDigits)
    (hnumber : number whole part * 10 ^ 7 = n) (hpos : 1 ≤ n) (hmax : n ≤ 2 ^ 63 - 1) :
    parse s = .ok n := by
  have hunits : units (Numeral.value whole) part = n := by
    have hcast : (units (Numeral.value whole) part : ℚ) = n := by
      rw [units_eq_number hplain.part_length, hnumber]
    exact_mod_cast hcast
  rw [← maximum_eq] at hmax
  rw [parse_of_plain hplain hlength, hunits]
  exact if_neg (by omega)

/-- A text that is not overlong is accepted exactly if it spells a number of units in range. -/
theorem parse_eq_ok_iff (hshort : ¬ Overlong s) :
    parse s = .ok n ↔ ∃ whole part, Plain s whole part ∧ number whole part * 10 ^ 7 = n ∧
      1 ≤ n ∧ n ≤ 2 ^ 63 - 1 := by
  constructor
  · intro hparse
    obtain ⟨whole, part, hplain, -⟩ := parse_eq_ok hparse
    exact ⟨whole, part, hplain, number_of_parse hplain hparse⟩
  · rintro ⟨whole, part, hplain, hnumber, hpos, hmax⟩
    exact parse_of_number hplain (length_whole_le hshort hplain) hnumber hpos hmax

/-- A text that is refused is refused as an amount, whatever is wrong with it. -/
theorem code_of_refused (hshort : ¬ Overlong s) (hrefused : ∀ n, parse s ≠ .ok n) :
    ∃ e f, parse s = .error e ∧ Build.Rejection.ofAmount e = .fault f ∧ f.code = .amount := by
  obtain ⟨-, n, hparse⟩ | ⟨-, hfails | hfails⟩ := parse_of_not_overlong hshort
  · exact absurd hparse (hrefused n)
  · exact ⟨_, _, hfails, rfl, rfl⟩
  · exact ⟨_, _, hfails, rfl, rfl⟩

/-- Units are in the order of the numbers that they count. -/
theorem units_order (hplain : Plain s whole part) (hplain' : Plain s' whole' part')
    (hparse : parse s = .ok n) (hparse' : parse s' = .ok n') :
    (n = n' ↔ number whole part = number whole' part') ∧
      (n < n' ↔ number whole part < number whole' part') := by
  obtain ⟨hnumber, -⟩ := number_of_parse hplain hparse
  obtain ⟨hnumber', -⟩ := number_of_parse hplain' hparse'
  have hscale : (0 : ℚ) < 10 ^ 7 := by norm_num
  constructor
  · rw [← mul_left_inj' hscale.ne', hnumber, hnumber', Nat.cast_inj]
  · rw [← mul_lt_mul_iff_left₀ hscale, hnumber, hnumber', Nat.cast_lt]

/-- The text of a number of units is plain. -/
theorem plain_spelling (n : Nat) :
    Plain (spelling n) (Numeral.digits (n / 10 ^ 7)) (Numeral.padded 7 (n % 10 ^ 7)) where
  text := by rw [spelling, spelt, if_neg (Numeral.padded_ne_nil _ _)]
  whole_ne := List.ne_nil_of_length_pos (Numeral.length_digits_pos _)
  whole_digits _ := Numeral.isDigit_of_mem_digits
  part_digits _ := Numeral.isDigit_of_mem_padded
  part_length := (Numeral.length_padded (by decide) (Nat.mod_lt _ (by decide))).le

/-- Every number of units in range is reached. -/
theorem parse_spelling (hpos : 1 ≤ n) (hmax : n ≤ 2 ^ 63 - 1) : parse (spelling n) = .ok n := by
  have hlength : (Numeral.padded 7 (n % 10 ^ 7)).length = 7 :=
    Numeral.length_padded (by decide) (Nat.mod_lt _ (by decide))
  have hfew : (Numeral.digits (n / 10 ^ 7)).length ≤ 19 := by
    rw [Numeral.length_digits_le_iff (by decide)]
    omega
  have hwhole : (Numeral.digits (n / 10 ^ 7)).length ≤ Numeral.maxDigits :=
    hfew.trans (by decide)
  apply parse_of_number (plain_spelling n) hwhole _ hpos hmax
  rw [number, hlength, Numeral.value_digits, Numeral.value_padded, add_mul, div_mul_cancel₀]
  · have hsplit := Nat.div_add_mod' n (10 ^ 7)
    exact_mod_cast hsplit
  · norm_num

/-- A number of units in range is written as the ledger's word for it. -/
theorem signedLong_write (hmax : n ≤ maximum) :
    Xdr.Format.signedLong.write (Int64.ofNat n) = Octets.ofNat 8 n := by
  have hword : (Int64.ofNat n).toUInt64.toNat = n := by
    rw [maximum_eq] at hmax
    rw [Int64.toUInt64_ofNat', UInt64.toNat_ofNat_of_lt' (show n < 2 ^ 64 by omega)]
  show Octets.ofNat 8 (Int64.ofNat n).toUInt64.toNat = _
  rw [hword]

/-- The operation of a transfer ends with the units of its amount. -/
theorem suffix_of_ledgerAction {transfer : Transfer} {action : Action LedgerAsset}
    (hparse : parse transfer.amount = .ok n) (haction : Build.ledgerAction transfer = .ok action) :
    ∃ op, Operation.mapAssets? (fun a => some a.toWire) ⟨none, action⟩ = some op ∧
      Octets.ofNat 8 n <:+ Wire.operationOctets op := by
  have hmax : n ≤ maximum := by
    obtain ⟨_, _, -, -, -, hmax⟩ := parse_eq_ok hparse
    exact hmax
  rw [← signedLong_write hmax]
  cases transfer with
  | createAccount destination amount =>
    obtain ⟨key, -, hrest⟩ := bind_eq_ok_iff.mp haction
    obtain ⟨m, hamount, hend⟩ := bind_eq_ok_iff.mp hrest
    cases hamount.symm.trans (Admission.amount_of_parse .startingBalance hparse)
    cases hend
    refine ⟨⟨none, .createAccount key (Int64.ofNat n)⟩, rfl, ?_⟩
    have hwrite : Wire.operationOctets ⟨none, .createAccount key (Int64.ofNat n)⟩ =
        Xdr.Format.word.write 0 ++ (Xdr.Format.word.write 0 ++ (Wire.key.write key ++
          Xdr.Format.signedLong.write (Int64.ofNat n))) := rfl
    rw [hwrite, ← List.append_assoc, ← List.append_assoc]
    exact List.suffix_append _ _
  | payment destination amount asset =>
    obtain ⟨a, -, hrest⟩ := bind_eq_ok_iff.mp haction
    obtain ⟨party, -, hrest⟩ := bind_eq_ok_iff.mp hrest
    obtain ⟨m, hamount, hend⟩ := bind_eq_ok_iff.mp hrest
    cases hamount.symm.trans (Admission.amount_of_parse .payment hparse)
    cases hend
    refine ⟨⟨none, .payment party a.toWire (Int64.ofNat n)⟩, rfl, ?_⟩
    have hwrite : Wire.operationOctets ⟨none, .payment party a.toWire (Int64.ofNat n)⟩ =
        Xdr.Format.word.write 0 ++ (Xdr.Format.word.write 1 ++ (Wire.party.write party ++
          (Wire.asset.write a.toWire ++ Xdr.Format.signedLong.write (Int64.ofNat n)))) := rfl
    rw [hwrite, ← List.append_assoc, ← List.append_assoc, ← List.append_assoc]
    exact List.suffix_append _ _

/-- What is built from parts is a transaction of one operation, the one of its transfer. -/
theorem exists_action_of_build {p : Parts} {e : Envelope} (hbuild : build p = .ok e) :
    ∃ action, Build.ledgerAction p.transfer = .ok action ∧
      e.transaction.operations.val = [⟨none, action⟩] := by
  obtain ⟨_, -, hassemble⟩ := bind_eq_ok_iff.mp hbuild
  split at hassemble
  · rename_i t ht
    cases hassemble
    obtain ⟨_, -, hrest⟩ := bind_eq_ok_iff.mp ht
    obtain ⟨action, haction, hrest⟩ := bind_eq_ok_iff.mp hrest
    obtain ⟨_, -, hend⟩ := bind_eq_ok_iff.mp hrest
    cases hend
    exact ⟨action, haction, rfl⟩
  · cases hassemble

/-- The octets of a transaction of one operation end with that operation and the word that ends most
transactions. -/
theorem suffix_of_operations {w : Wire.Transaction} {op : Operation Wire.Asset}
    (hone : w.operations.val = [op]) (hending : w.ending = none) :
    Wire.operationOctets op ++ Xdr.Format.word.write 0 <:+ w.octets := by
  have hlist : (Xdr.Format.listUpTo 100 (Wire.operation .none)).write w.operations =
      Xdr.Format.word.write 1 ++ Wire.operationOctets op := by
    show Xdr.Format.word.write (UInt32.ofNat w.operations.val.length) ++
      w.operations.val.flatMap Wire.operationOctets = _
    rw [hone, List.flatMap_singleton]
    rfl
  have hlast : (Wire.ending .none).write w.ending = Xdr.Format.word.write 0 := by
    rw [hending]
    rfl
  have hwrite : w.octets = Wire.party.write w.source ++
      (Xdr.Format.word.write w.fee ++ (Xdr.Format.signedLong.write w.sequence ++
        (Wire.conditions.write w.conditions ++ (Wire.memo.write w.memo ++
          ((Xdr.Format.listUpTo 100 (Wire.operation .none)).write w.operations ++
            (Wire.ending .none).write w.ending))))) := rfl
  rw [hwrite, hlist, hlast]
  simp only [← List.append_assoc]
  rw [List.append_assoc _ (Wire.operationOctets op)]
  exact List.suffix_append _ _

/-- The octets of a transaction that was built end with the units of its amount, but for the word
that ends every transaction. -/
theorem suffix_of_build {p : Parts} {e : Envelope} {b : Octets}
    (hparse : parse p.transfer.amount = .ok n) (hbuild : build p = .ok e)
    (hencode : e.transaction.encode? = some b) :
    Octets.ofNat 8 n ++ Xdr.Format.word.write 0 <:+ b := by
  obtain ⟨w, hwire, rfl⟩ := Option.map_eq_some_iff.mp hencode
  obtain ⟨action, haction, hone⟩ := exists_action_of_build hbuild
  obtain ⟨op, hop, hsuffix⟩ := suffix_of_ledgerAction hparse haction
  obtain ⟨-, -, -, -, -, -, hoperations⟩ := Build.toWire?_eq_some hwire
  have hending := (Build.written_of_build hbuild hwire).1.ending
  have hwritten : w.operations.val = [op] := by
    rw [hone, allSome, hop] at hoperations
    exact (Option.some.inj hoperations).symm
  obtain ⟨front, hfront⟩ := hsuffix
  refine List.IsSuffix.trans ?_ (suffix_of_operations hwritten hending)
  rw [← hfront, List.append_assoc]
  exact List.suffix_append _ _

/-- What is so of a text as an amount, unless it has too many digits before its point. -/
structure Exact (s : Text) : Prop where
  accepted : ∀ n, parse s = .ok n ↔ ∃ whole part, Plain s whole part ∧
    number whole part * 10 ^ 7 = n ∧ 1 ≤ n ∧ n ≤ 2 ^ 63 - 1
  /-- Any other text is refused as an amount. -/
  refused : (∀ n, parse s ≠ .ok n) → ∃ e f, parse s = .error e ∧
    Build.Rejection.ofAmount e = .fault f ∧ f.code = .amount
  /-- Equal units are those of equal numbers, and more units those of a larger one. -/
  ordered : ∀ n s' n' whole part whole' part', Plain s whole part → Plain s' whole' part' →
    parse s = .ok n → parse s' = .ok n' →
    (n = n' ↔ number whole part = number whole' part') ∧
      (n < n' ↔ number whole part < number whole' part')
  /-- The ledger takes the text for the same amount. -/
  admitted : ∀ n role, parse s = .ok n → Admission.amount role s = .ok n
  /-- The operation of a transfer is written with these units at its end. -/
  written : ∀ n transfer action, transfer.amount = s → parse s = .ok n →
    Build.ledgerAction transfer = .ok action →
    ∃ op, Operation.mapAssets? (fun a => some a.toWire) ⟨none, action⟩ = some op ∧
      Octets.ofNat 8 n <:+ Wire.operationOctets op
  /-- So is a transaction that is built. -/
  built : ∀ n p e b, p.transfer.amount = s → parse s = .ok n → build p = .ok e →
    e.transaction.encode? = some b → Octets.ofNat 8 n ++ Xdr.Format.word.write 0 <:+ b

/-- Amounts are read exactly, and every number of units in range has a text. -/
theorem parse_exact : (∀ s, ¬ Overlong s → Exact s) ∧
    ∀ n, 1 ≤ n → n ≤ 2 ^ 63 - 1 → ¬ Overlong (spelling n) ∧ parse (spelling n) = .ok n := by
  constructor
  · intro s hshort
    exact {
      accepted := fun _ => parse_eq_ok_iff hshort
      refused := code_of_refused hshort
      ordered := fun _ _ _ _ _ _ _ hplain hplain' => units_order hplain hplain'
      admitted := fun _ role => Admission.amount_of_parse role
      written := fun _ _ _ htext hparse => suffix_of_ledgerAction (htext ▸ hparse)
      built := fun _ _ _ _ htext hparse => suffix_of_build (htext ▸ hparse) }
  · intro n hpos hmax
    have hparse := parse_spelling hpos hmax
    refine ⟨fun hlong => ?_, hparse⟩
    obtain ⟨e, hfails⟩ := parse_of_overlong hlong
    cases hparse.symm.trans hfails

/-- The largest amount is read and admitted, one unit more is refused. -/
theorem largest_exact : parse "922337203685.4775807" = .ok (2 ^ 63 - 1) ∧
    Admission.amount .payment "922337203685.4775807" = .ok (2 ^ 63 - 1) ∧
    ∃ e f, parse "922337203685.4775808" = .error e ∧ Build.Rejection.ofAmount e = .fault f ∧
      f.code = .amount := by
  have hspelling : spelling (2 ^ 63 - 1) = "922337203685.4775807" := by decide +kernel
  have hlargest := parse_exact.2 (2 ^ 63 - 1) (by decide) le_rfl
  rw [hspelling] at hlargest
  refine ⟨hlargest.2, (parse_exact.1 _ hlargest.1).admitted _ .payment hlargest.2, ?_⟩
  apply (parse_exact.1 "922337203685.4775808" (not_overlong (by decide))).refused
  intro n hparse
  have hmore : parse "922337203685.4775808" = .error (.outOfRange "922337203685.4775808") := by
    decide +kernel
  cases hmore.symm.trans hparse

end Amount

end Remittance

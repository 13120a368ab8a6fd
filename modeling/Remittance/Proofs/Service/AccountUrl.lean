import Remittance.Proofs.Text.Percent
import Remittance.Service.LedgerServer
import Mathlib.Data.List.DropRight

/-!
# Where an account is asked for

The server of the ledger is asked for an account at one URL, whose last segment spells the account
id and nothing else, whatever characters the id has. Main statement: `id_fills_segment`, for every
id, every base and every answer. Ids of one or two points are segments like all others: what a
segment means to the one who reads the path is not said here.
-/

set_option autoImplicit false

namespace Remittance

namespace Http

/-- A base is a URL up to the slashes at its end. -/
structure IsBase (url : String) (base : List Char) : Prop where
  rest : ∃ count, url.toList = base ++ List.replicate count '/'
  trimmed : ∀ front, base ≠ front ++ ['/']

/-- What is left of a URL without the slashes at its end is its base. -/
theorem isBase_withoutLastSlashes (url : String) : IsBase url (withoutLastSlashes url).toList := by
  have hbase : (withoutLastSlashes url).toList =
      url.toList.rdropWhile fun c => decide (c = '/') := by
    rw [withoutLastSlashes, String.toList_ofList]
    rfl
  rw [hbase]
  constructor
  case rest =>
    generalize url.toList = cs
    induction cs using List.reverseRecOn with
    | nil => exact ⟨0, rfl⟩
    | append_singleton cs c ih =>
      by_cases hc : c = '/'
      · obtain ⟨count, hcount⟩ := ih
        refine ⟨count + 1, ?_⟩
        rw [List.rdropWhile_concat_pos _ _ _ (by simpa using hc), List.replicate_succ',
          ← List.append_assoc, ← hcount, hc]
      · refine ⟨0, ?_⟩
        rw [List.rdropWhile_concat_neg _ _ _ (by simpa using hc)]
        simp
  case trimmed =>
    intro front hfront
    have hne : (url.toList.rdropWhile fun c => decide (c = '/')) ≠ [] := by
      rw [hfront]
      simp
    apply List.rdropWhile_last_not _ _ hne
    simp [hfront]

end Http

namespace LedgerServer

/-- An address is that of an account on a server: the base, the path to the accounts, and one
segment, which stands for the account id. -/
structure Locates (url accountId : String) (address segment : List Char) : Prop where
  parts : ∃ base, Http.IsBase url base ∧ address = base ++ "/accounts/".toList ++ segment
  built : Percent.IsSegment segment
  undivided : '/' ∉ segment ∧ '?' ∉ segment ∧ '#' ∉ segment
  octets : Percent.decodeOctets segment = Octets.ofText accountId
  text : Percent.decodeSegment (String.ofList segment) = accountId

/-- The address of an account is the base, the path and the segment. -/
theorem toList_accountUrl (url accountId : String) :
    (accountUrl url accountId).toList = (Http.withoutLastSlashes url).toList ++
      "/accounts/".toList ++ (Percent.encodeSegment accountId).toList := by
  rw [accountUrl, String.toList_append, String.toList_append]

/-- The address of an account locates it. -/
theorem locates_accountUrl (url accountId : String) :
    Locates url accountId (accountUrl url accountId).toList
      (Percent.encodeSegment accountId).toList := by
  have hsegment := Percent.isSegment_encodeSegment accountId
  constructor
  case parts => exact ⟨_, Http.isBase_withoutLastSlashes url, toList_accountUrl url accountId⟩
  case built => exact hsegment
  case undivided =>
    refine ⟨?_, ?_, ?_⟩ <;> exact hsegment.notMem (by simp [Percent.IsPlain]) (by simp)
  case octets => exact Percent.decodeOctets_encodeSegment accountId
  case text =>
    rw [String.ofList_toList]
    exact Percent.decodeSegment_encodeSegment accountId

/-- On one server, different ids have different URLs. -/
theorem accountUrl_injective {url accountId other : String}
    (h : accountUrl url accountId = accountUrl url other) : accountId = other := by
  have hlist := congrArg String.toList h
  rw [toList_accountUrl, toList_accountUrl, List.append_cancel_left_eq, String.toList_inj] at hlist
  rw [← Percent.decodeSegment_encodeSegment accountId, hlist,
    Percent.decodeSegment_encodeSegment]

/-- An account is asked for once, at the base and in one segment that stands for its id, and no
other id leads there. -/
theorem id_fills_segment (url accountId : String) {σ : Type}
    (answer : σ → Http.Request → Reply Response × σ) (s : σ) :
    ∃ address segment, ((account url accountId).run answer s).2.1 =
        [.get (String.ofList address) none] ∧
      Locates url accountId address segment ∧
      ∀ other : Text, other ≠ accountId → ((account url other).run answer s).2.1 ≠
        [.get (String.ofList address) none] := by
  refine ⟨_, _, ?_, locates_accountUrl url accountId, ?_⟩
  · rw [account_eq_once, String.ofList_toList]
    rfl
  · intro other hother hsame
    rw [String.ofList_toList] at hsame
    obtain ⟨id, rfl⟩ | ⟨e, htorn⟩ := other.eq_ofString_or_torn
    · rw [account_eq_once] at hsame
      have hurl : [Http.Request.get (accountUrl url id) none] =
          [.get (accountUrl url accountId) none] := hsame
      simp only [List.cons.injEq, Http.Request.get.injEq, and_true] at hurl
      exact hother (congrArg _ (accountUrl_injective hurl))
    · rw [account, htorn] at hsame
      cases hsame

end LedgerServer

end Remittance

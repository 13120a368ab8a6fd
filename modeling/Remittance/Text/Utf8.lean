import Remittance.Text.Octets

/-!
# Reading UTF-8

One step reads either a character or a maximal malformed part of the input. A strict reader stops
at the first malformed part and names its place; a lenient one puts U+FFFD in its stead.
-/

set_option autoImplicit false

namespace Remittance.Utf8

/-- Why a part of the input is no character. -/
inductive Reason where
  /-- The first octet cannot begin a character. -/
  | start
  /-- A later octet cannot continue the character begun. -/
  | continuation
  /-- The input ends inside a character. -/
  | truncated
deriving DecidableEq

/-- The wording of a reason. -/
def Reason.message : Reason → String
  | .start => "invalid start byte"
  | .continuation => "invalid continuation byte"
  | .truncated => "unexpected end of data"

/-- What stands in the first `width` octets of an input: a character, or a malformed part. -/
inductive Step where
  | char (width : Nat) (c : Char)
  | malformed (width : Nat) (reason : Reason)

/-- The allowed range of the second octet after a first octet, and how many octets follow it. -/
def lead? (o : UInt8) : Option (UInt8 × UInt8 × Nat) :=
  if 0xC2 ≤ o ∧ o ≤ 0xDF then some (0x80, 0xBF, 0)
  else if o = 0xE0 then some (0xA0, 0xBF, 1)
  else if o = 0xED then some (0x80, 0x9F, 1)
  else if 0xE1 ≤ o ∧ o ≤ 0xEF then some (0x80, 0xBF, 1)
  else if o = 0xF0 then some (0x90, 0xBF, 2)
  else if o = 0xF4 then some (0x80, 0x8F, 2)
  else if 0xF1 ≤ o ∧ o ≤ 0xF3 then some (0x80, 0xBF, 2)
  else none

/-- Whether an octet may stand at the third or fourth place of a character. -/
def isContinuation (o : UInt8) : Bool := 0x80 ≤ o && o ≤ 0xBF

/-- The payload bits of a first octet. -/
def leadBits (o : UInt8) : Nat :=
  if o < 0xE0 then o.toNat % 32 else if o < 0xF0 then o.toNat % 16 else o.toNat % 8

/-- Reads `count` more continuation octets after `width` octets that were well formed. -/
def tail : (count : Nat) → (width value : Nat) → Octets → Step × Octets
  | 0, width, value, rest => (.char width (Char.ofNat value), rest)
  | _ + 1, width, _, [] => (.malformed width .truncated, [])
  | count + 1, width, value, o :: rest =>
    if isContinuation o then tail count (width + 1) (value * 64 + o.toNat % 64) rest
    else (.malformed width .continuation, o :: rest)

/-- Reads one character or one malformed part from a non-empty input. -/
def step (o : UInt8) (rest : Octets) : Step × Octets :=
  if o < 0x80 then (.char 1 (Char.ofNat o.toNat), rest)
  else match lead? o with
    | none => (.malformed 1 .start, rest)
    | some (low, high, more) =>
      match rest with
      | [] => (.malformed 1 .truncated, [])
      | o' :: rest' =>
        if low ≤ o' ∧ o' ≤ high then tail more 2 (leadBits o * 64 + o'.toNat % 64) rest'
        else (.malformed 1 .continuation, rest)

/-- To read a tail adds no octets. -/
theorem length_tail_le (count width value : Nat) (b : Octets) :
    (tail count width value b).2.length ≤ b.length := by
  induction count generalizing width value b with
  | zero => simp [tail]
  | succ n ih =>
    cases b with
    | nil => simp [tail]
    | cons o rest =>
      simp only [tail]
      split
      · exact Nat.le_succ_of_le (ih _ _ _)
      · simp

/-- To read a step adds no octets. -/
theorem length_step_le (o : UInt8) (rest : Octets) : (step o rest).2.length ≤ rest.length := by
  unfold step
  split
  · exact Nat.le_refl _
  · split
    · exact Nat.le_refl _
    · cases rest with
      | nil => simp
      | cons o' rest' =>
        dsimp only
        split
        · exact Nat.le_succ_of_le (length_tail_le _ _ _ _)
        · exact Nat.le_refl _

/-- The input cut into characters and malformed parts. -/
def steps : Octets → List Step
  | [] => []
  | o :: rest => (step o rest).1 :: steps (step o rest).2
termination_by b => b.length
decreasing_by exact Nat.lt_succ_of_le (length_step_le o rest)

/-- A malformed part: the value of its first octet, its place, its width and the reason. -/
structure Malformed where
  first : UInt8
  position : Nat
  width : Nat
  reason : Reason
deriving DecidableEq

/-- Reads a whole input strictly; `offset` is the place of its first octet. -/
def decodeFrom (offset : Nat) : Octets → Except Malformed (List Char)
  | [] => .ok []
  | o :: rest =>
    match step o rest, length_step_le o rest with
    | (.malformed width reason, _), _ => .error ⟨o, offset, width, reason⟩
    | (.char width c, rest'), _ =>
      match decodeFrom (offset + width) rest' with
      | .ok cs => .ok (c :: cs)
      | .error e => .error e
termination_by b => b.length
decreasing_by
  rename_i h
  exact Nat.lt_succ_of_le h

/-- The text that well-formed octets spell, or the first malformed part. -/
def decode (b : Octets) : Except Malformed String := (decodeFrom 0 b).map String.ofList

/-- The text that the octets spell, each malformed part being read as U+FFFD. -/
def decodeLossy (b : Octets) : String :=
  String.ofList ((steps b).map fun s => match s with
    | .char _ c => c
    | .malformed _ _ => Char.ofNat 0xFFFD)

end Remittance.Utf8

/-!
# Punycode

The ASCII form of a text: its ASCII characters, and after a hyphen the places and numbers of all
others, in increasing order of their numbers and as differences to what came before. A difference is
written in base 36, least significant digit first, with thresholds that adapt to what was written.
Both directions are here; reading takes letters of both cases.
-/

set_option autoImplicit false

namespace Remittance.Punycode

/-- The digit of a number below 36: the letters first, and then the decimal digits. -/
def digit (n : Nat) : Char :=
  if n < 26 then Char.ofNat (97 + n) else Char.ofNat (48 + (n - 26))

/-- The threshold of the digit at a place; places go up by 36. -/
def threshold (bias place : Nat) : Nat := max 1 (min 26 (place - bias))

/-- A threshold is at least one, so that every further digit divides. -/
theorem one_le_threshold (bias place : Nat) : 1 ≤ threshold bias place := Nat.le_max_left _ _

/-- The digits of a difference from a place on. -/
def digits (bias place n : Nat) : List Char :=
  let t := threshold bias place
  if n < t then [digit n]
  else digit (t + (n - t) % (36 - t)) :: digits bias (place + 36) ((n - t) / (36 - t))
termination_by n
decreasing_by
  have := one_le_threshold bias place
  exact Nat.lt_of_le_of_lt (Nat.div_le_self _ _) (by omega)

/-- What is left of a difference once it was divided by 35 as long as it exceeds 455, and 36 for
each division. -/
def settle (n : Nat) : Nat × Nat :=
  if 455 < n then
    let r := settle (n / 35)
    (r.1, r.2 + 36)
  else (n, 0)
termination_by n
decreasing_by exact Nat.div_lt_self (by omega) (by omega)

/-- The bias after a difference was written as the `count`-th one of a text. -/
def adapt (n count : Nat) (first : Bool) : Nat :=
  let start := if first then n / 700 else n / 2
  let r := settle (start + start / count)
  r.2 + 36 * r.1 / (r.1 + 38)

/-- How far the writing of a text has come. -/
structure State where
  written : List Char
  difference : Nat
  bias : Nat
  count : Nat

/-- Passes over a character of the text while the number `n` is looked for. -/
def State.pass (basic n : Nat) (s : State) (c : Char) : State :=
  if c.toNat < n then { s with difference := s.difference + 1 }
  else if c.toNat = n then
    { written := s.written ++ digits s.bias 36 s.difference
      difference := 0
      bias := adapt s.difference (s.count + 1) (s.count == basic)
      count := s.count + 1 }
  else s

/-- Writes the characters with the numbers, which increase; `least` is the number after the one
before. -/
def State.write (basic : Nat) (cs : List Char) : (least : Nat) → List Nat → State → State
  | _, [], s => s
  | least, n :: rest, s =>
    let s := { s with difference := s.difference + (n - least) * (s.count + 1) }
    let s := cs.foldl (State.pass basic n) s
    State.write basic cs (n + 1) rest { s with difference := s.difference + 1 }

/-- The numbers of the characters that are not ASCII, in increasing order. -/
def others (cs : List Char) : List Nat :=
  (((cs.map Char.toNat).filter fun n => decide (0x80 ≤ n)).mergeSort fun a b =>
    decide (a ≤ b)).eraseDups

/-- The ASCII form of a text. -/
def encode (cs : List Char) : List Char :=
  let basic := cs.filter fun c => c.toNat < 0x80
  let s := State.write basic.length cs 0x80 (others cs) ⟨[], 0, 72, basic.length⟩
  (if basic.isEmpty then [] else basic ++ ['-']) ++ s.written

/-- The number below 36 that a digit stands for; letters of both cases do. -/
def digitValue? (c : Char) : Option Nat :=
  let n := c.toLower.toNat
  if 97 ≤ n ∧ n ≤ 122 then some (n - 97)
  else if 48 ≤ n ∧ n ≤ 57 then some (n - 22)
  else none

/-- The difference at the beginning of the input, and the input behind it; `weight` is what the next
digit counts, and `value` what the digits before it come to. -/
def difference? (bias : Nat) : (place weight value : Nat) → List Char → Option (Nat × List Char)
  | _, _, _, [] => none
  | place, weight, value, c :: rest =>
    (digitValue? c).bind fun d =>
      let t := threshold bias place
      let value := value + d * weight
      if d < t then some (value, rest)
      else difference? bias (place + 36) (weight * (36 - t)) value rest

/-- To read a difference takes a character. -/
theorem length_lt_of_difference? {bias place weight value n : Nat} {cs rest : List Char}
    (h : difference? bias place weight value cs = some (n, rest)) : rest.length < cs.length := by
  induction cs generalizing place weight value with
  | nil => simp [difference?] at h
  | cons c cs ih =>
    simp only [difference?] at h
    obtain ⟨d, -, h⟩ := Option.bind_eq_some_iff.1 h
    split at h
    · simp only [Option.some.injEq, Prod.mk.injEq] at h
      simp [h.2]
    · have := ih h
      simp only [List.length_cons]
      omega

/-- The greatest number of a character. -/
def maxNumber : Nat := 0x10FFFF

/-- The numbers of the characters of a text, the first of which are known. Each difference tells the
next number that is not less than `least`, and its place, counted from `place`. -/
def insertAll? (first : Bool) (bias least place : Nat) (known : List Nat) (cs : List Char) :
    Option (List Nat) :=
  if cs.isEmpty then some known
  else
    match _h : difference? bias 36 1 0 cs with
    | none => none
    | some (n, rest) =>
      let count := known.length + 1
      let number := least + (place + n) / count
      let place := (place + n) % count
      if maxNumber < number then none
      else
        insertAll? false (adapt n count first) number (place + 1)
          (known.take place ++ number :: known.drop place) rest
termination_by cs.length
decreasing_by exact length_lt_of_difference? _h

/-- What stands in front of the last hyphen, and what stands behind it; without one, all stands
behind it. -/
def cutBasic (cs : List Char) : List Char × List Char :=
  if cs.contains '-' then
    (((cs.reverse.dropWhile (· ≠ '-')).drop 1).reverse, (cs.reverse.takeWhile (· ≠ '-')).reverse)
  else ([], cs)

/-- The text that an ASCII form stands for, if it is one. -/
def decode? (cs : List Char) : Option (List Char) :=
  let (basic, extended) := cutBasic cs
  (insertAll? true 72 0x80 0 (basic.map Char.toNat) extended).bind fun numbers =>
    if numbers.all Nat.isValidChar then some (numbers.map Char.ofNat) else none

end Remittance.Punycode

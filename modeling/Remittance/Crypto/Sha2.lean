import Remittance.Text.Octets

/-!
# SHA-2

One definition of the hash function for words of any width, with the constants that make it
SHA-256 and SHA-512.
-/

set_option autoImplicit false

namespace Remittance.Sha2

/-- Three amounts: two rotations, and a rotation or shift. -/
structure Amounts where
  first : Nat
  second : Nat
  third : Nat

/-- The parameters of one hash function of the family. -/
structure Variant where
  width : Nat
  initial : List Nat
  constants : List Nat
  sum0 : Amounts
  sum1 : Amounts
  mix0 : Amounts
  mix1 : Amounts

/-- The eight words that a block is mixed into. -/
structure State (w : Nat) where
  a : BitVec w
  b : BitVec w
  c : BitVec w
  d : BitVec w
  e : BitVec w
  f : BitVec w
  g : BitVec w
  h : BitVec w

/-- The exclusive or of three rotations. -/
def rotations {w : Nat} (k : Amounts) (x : BitVec w) : BitVec w :=
  x.rotateRight k.first ^^^ x.rotateRight k.second ^^^ x.rotateRight k.third

/-- The exclusive or of two rotations and a shift. -/
def mixed {w : Nat} (k : Amounts) (x : BitVec w) : BitVec w :=
  x.rotateRight k.first ^^^ x.rotateRight k.second ^^^ (x >>> k.third)

/-- One round, with the sum of a message word and a constant. -/
def round (v : Variant) {w : Nat} (s : State w) (input : BitVec w) : State w :=
  let choice := (s.e &&& s.f) ^^^ (~~~s.e &&& s.g)
  let t1 := s.h + rotations v.sum1 s.e + choice + input
  let majority := (s.a &&& s.b) ^^^ (s.a &&& s.c) ^^^ (s.b &&& s.c)
  let t2 := rotations v.sum0 s.a + majority
  ⟨t1 + t2, s.a, s.b, s.c, s.d + t1, s.e, s.f, s.g⟩

/-- `count` more words of the message schedule, which is kept last word first. -/
def extend (v : Variant) {w : Nat} : (count : Nat) → List (BitVec w) → List (BitVec w)
  | 0, words => words
  | count + 1, words =>
    let next := mixed v.mix1 (words.getD 1 0) + words.getD 6 0 + mixed v.mix0 (words.getD 14 0) +
      words.getD 15 0
    extend v count (next :: words)

/-- The first `count` pieces of `size` octets. -/
def pieces (size : Nat) : (count : Nat) → Octets → List Octets
  | 0, _ => []
  | count + 1, b => b.take size :: pieces size count (b.drop size)

/-- The state after a block. -/
def absorb (v : Variant) (s : State v.width) (block : Octets) : State v.width :=
  let words := (pieces (v.width / 8) 16 block).map fun p => BitVec.ofNat v.width (Octets.toNat p)
  let schedule := (extend v (v.constants.length - 16) words.reverse).reverse
  let inputs := List.zipWith (fun word k => word + BitVec.ofNat v.width k) schedule v.constants
  let t := inputs.foldl (round v) s
  ⟨s.a + t.a, s.b + t.b, s.c + t.c, s.d + t.d, s.e + t.e, s.f + t.f, s.g + t.g, s.h + t.h⟩

/-- The message with a one bit, zeros up to the end of a block, and its length in bits. -/
def pad (v : Variant) (message : Octets) : Octets :=
  let block := 2 * v.width
  let field := v.width / 4
  let used := message.length + 1 + field
  message ++ 0x80 :: List.replicate ((block - used % block) % block) 0 ++
    Octets.ofNat field (8 * message.length)

/-- The state before the first block. -/
def start (v : Variant) : State v.width :=
  let word (i : Nat) := BitVec.ofNat v.width (v.initial.getD i 0)
  ⟨word 0, word 1, word 2, word 3, word 4, word 5, word 6, word 7⟩

/-- The hash of a message. -/
def hash (v : Variant) (message : Octets) : Octets :=
  let padded := pad v message
  let block := 2 * v.width
  let s := (pieces block (padded.length / block) padded).foldl (absorb v) (start v)
  [s.a, s.b, s.c, s.d, s.e, s.f, s.g, s.h].flatMap fun x => Octets.ofNat (v.width / 8) x.toNat

/-- The parameters of SHA-256. -/
def variant256 : Variant where
  width := 32
  initial := [
    0x6a09e667, 0xbb67ae85, 0x3c6ef372, 0xa54ff53a, 0x510e527f, 0x9b05688c, 0x1f83d9ab, 0x5be0cd19]
  constants := [
    0x428a2f98, 0x71374491, 0xb5c0fbcf, 0xe9b5dba5, 0x3956c25b, 0x59f111f1, 0x923f82a4, 0xab1c5ed5,
    0xd807aa98, 0x12835b01, 0x243185be, 0x550c7dc3, 0x72be5d74, 0x80deb1fe, 0x9bdc06a7, 0xc19bf174,
    0xe49b69c1, 0xefbe4786, 0x0fc19dc6, 0x240ca1cc, 0x2de92c6f, 0x4a7484aa, 0x5cb0a9dc, 0x76f988da,
    0x983e5152, 0xa831c66d, 0xb00327c8, 0xbf597fc7, 0xc6e00bf3, 0xd5a79147, 0x06ca6351, 0x14292967,
    0x27b70a85, 0x2e1b2138, 0x4d2c6dfc, 0x53380d13, 0x650a7354, 0x766a0abb, 0x81c2c92e, 0x92722c85,
    0xa2bfe8a1, 0xa81a664b, 0xc24b8b70, 0xc76c51a3, 0xd192e819, 0xd6990624, 0xf40e3585, 0x106aa070,
    0x19a4c116, 0x1e376c08, 0x2748774c, 0x34b0bcb5, 0x391c0cb3, 0x4ed8aa4a, 0x5b9cca4f, 0x682e6ff3,
    0x748f82ee, 0x78a5636f, 0x84c87814, 0x8cc70208, 0x90befffa, 0xa4506ceb, 0xbef9a3f7, 0xc67178f2]
  sum0 := ⟨2, 13, 22⟩
  sum1 := ⟨6, 11, 25⟩
  mix0 := ⟨7, 18, 3⟩
  mix1 := ⟨17, 19, 10⟩

/-- The parameters of SHA-512. -/
def variant512 : Variant where
  width := 64
  initial := [
    0x6a09e667f3bcc908, 0xbb67ae8584caa73b, 0x3c6ef372fe94f82b, 0xa54ff53a5f1d36f1,
    0x510e527fade682d1, 0x9b05688c2b3e6c1f, 0x1f83d9abfb41bd6b, 0x5be0cd19137e2179]
  constants := [
    0x428a2f98d728ae22, 0x7137449123ef65cd, 0xb5c0fbcfec4d3b2f, 0xe9b5dba58189dbbc,
    0x3956c25bf348b538, 0x59f111f1b605d019, 0x923f82a4af194f9b, 0xab1c5ed5da6d8118,
    0xd807aa98a3030242, 0x12835b0145706fbe, 0x243185be4ee4b28c, 0x550c7dc3d5ffb4e2,
    0x72be5d74f27b896f, 0x80deb1fe3b1696b1, 0x9bdc06a725c71235, 0xc19bf174cf692694,
    0xe49b69c19ef14ad2, 0xefbe4786384f25e3, 0x0fc19dc68b8cd5b5, 0x240ca1cc77ac9c65,
    0x2de92c6f592b0275, 0x4a7484aa6ea6e483, 0x5cb0a9dcbd41fbd4, 0x76f988da831153b5,
    0x983e5152ee66dfab, 0xa831c66d2db43210, 0xb00327c898fb213f, 0xbf597fc7beef0ee4,
    0xc6e00bf33da88fc2, 0xd5a79147930aa725, 0x06ca6351e003826f, 0x142929670a0e6e70,
    0x27b70a8546d22ffc, 0x2e1b21385c26c926, 0x4d2c6dfc5ac42aed, 0x53380d139d95b3df,
    0x650a73548baf63de, 0x766a0abb3c77b2a8, 0x81c2c92e47edaee6, 0x92722c851482353b,
    0xa2bfe8a14cf10364, 0xa81a664bbc423001, 0xc24b8b70d0f89791, 0xc76c51a30654be30,
    0xd192e819d6ef5218, 0xd69906245565a910, 0xf40e35855771202a, 0x106aa07032bbd1b8,
    0x19a4c116b8d2d0c8, 0x1e376c085141ab53, 0x2748774cdf8eeb99, 0x34b0bcb5e19b48a8,
    0x391c0cb3c5c95a63, 0x4ed8aa4ae3418acb, 0x5b9cca4f7763e373, 0x682e6ff3d6b2b8a3,
    0x748f82ee5defb2fc, 0x78a5636f43172f60, 0x84c87814a1f0ab72, 0x8cc702081a6439ec,
    0x90befffa23631e28, 0xa4506cebde82bde9, 0xbef9a3f7b2c67915, 0xc67178f2e372532b,
    0xca273eceea26619c, 0xd186b8c721c0c207, 0xeada7dd6cde0eb1e, 0xf57d4f7fee6ed178,
    0x06f067aa72176fba, 0x0a637dc5a2c898a6, 0x113f9804bef90dae, 0x1b710b35131c471b,
    0x28db77f523047d84, 0x32caab7b40c72493, 0x3c9ebe0a15c9bebc, 0x431d67c49c100d4c,
    0x4cc5d4becb3e42b6, 0x597f299cfc657e2a, 0x5fcb6fab3ad6faec, 0x6c44198c4a475817]
  sum0 := ⟨28, 34, 39⟩
  sum1 := ⟨14, 18, 41⟩
  mix0 := ⟨1, 8, 7⟩
  mix1 := ⟨19, 61, 6⟩

/-- SHA-256. -/
def sha256 (message : Octets) : Octets := hash variant256 message

/-- SHA-512. -/
def sha512 (message : Octets) : Octets := hash variant512 message

/-- A SHA-256 hash has 32 octets. -/
theorem length_sha256 (message : Octets) : (sha256 message).length = 32 := by
  simp [sha256, hash, variant256]

/-- A SHA-512 hash has 64 octets. -/
theorem length_sha512 (message : Octets) : (sha512 message).length = 64 := by
  simp [sha512, hash, variant512]

end Remittance.Sha2

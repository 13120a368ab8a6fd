import Remittance.Crypto.Sha2

/-!
# Ed25519

Public keys and signatures over the twisted Edwards curve of Curve25519, in exact arithmetic
modulo its prime. A signature depends on the secret seed and the message only.
-/

set_option autoImplicit false

namespace Remittance.Ed25519

/-- The prime of the field, `2^255 - 19`. -/
def prime : Nat :=
  0x7FFFFFFFFFFFFFFFFFFFFFFFFFFFFFFFFFFFFFFFFFFFFFFFFFFFFFFFFFFFFFED

/-- The order of the base point, which exceeds `2^252` by a number of 125 bits. -/
def order : Nat :=
  0x1000000000000000000000000000000014DEF9DEA2F79CD65812631A5CF5D3ED

/-- `base ^ exponent` modulo the prime, using the last `bits` bits of the exponent. -/
def power : (bits : Nat) → (base exponent : Nat) → Nat
  | 0, _, _ => 1
  | bits + 1, base, exponent =>
    let rest := power bits (base * base % prime) (exponent / 2)
    if exponent % 2 = 1 then base * rest % prime else rest

/-- The inverse modulo the prime. -/
def inverse (x : Nat) : Nat := power 255 x (prime - 2)

/-- A point in extended coordinates: the affine point is `(x / z, y / z)`, and `t` is
`x * y / z`. -/
structure Point where
  x : Nat
  y : Nat
  z : Nat
  t : Nat

/-- The neutral point. -/
def Point.neutral : Point := ⟨0, 1, 1, 0⟩

/-- The coefficient of the curve, twice. -/
def twiceD : Nat := 16295367250680780974490674513165176452449235426866156013048779062215315747161

/-- The sum of two points. -/
def Point.add (p q : Point) : Point :=
  let a := (p.y + prime - p.x) * (q.y + prime - q.x) % prime
  let b := (p.y + p.x) * (q.y + q.x) % prime
  let c := p.t * twiceD % prime * q.t % prime
  let d := 2 * p.z * q.z % prime
  let e := b + prime - a
  let f := d + prime - c
  let g := d + c
  let h := b + a
  ⟨e * f % prime, g * h % prime, f * g % prime, e * h % prime⟩

/-- The base point. -/
def Point.base : Point :=
  let x := 15112221349535400772501151409588531511454012693041857206046113283949847762202
  let y := 46316835694926478169428394003475163141307993866256225615783033603165251855960
  ⟨x, y, 1, x * y % prime⟩

/-- The sum of `n` copies of a point, using the last `bits` bits of `n`. -/
def Point.multiple : (bits : Nat) → (n : Nat) → Point → Point
  | 0, _, _ => .neutral
  | bits + 1, n, p =>
    let rest := Point.multiple bits (n / 2) (p.add p)
    if n % 2 = 1 then p.add rest else rest

/-- A point as 32 octets: its ordinate, with the parity of its abscissa in the highest bit. -/
def Point.encode (p : Point) : Octets :=
  let inv := inverse p.z
  let x := p.x * inv % prime
  let y := p.y * inv % prime
  Octets.ofNatLittle 32 (y + x % 2 * Nat.pow 2 255)

/-- The secret scalar of a seed and the octets that make its signatures unpredictable. -/
structure Expanded where
  scalar : Nat
  nonceKey : Octets

/-- The expansion of a seed: half of its hash, with five bits fixed, and the other half. -/
def expand (seed : Octets) : Expanded :=
  let h := Sha2.sha512 seed
  let low := Octets.toNatLittle (h.take 32) % Nat.pow 2 254 / 8 * 8
  ⟨low + Nat.pow 2 254, h.drop 32⟩

/-- The public key of a seed. -/
def publicKey (seed : Octets) : Octets :=
  (Point.multiple 256 (expand seed).scalar .base).encode

/-- The number that a hash spells, modulo the order of the base point. -/
def challenge (b : Octets) : Nat := Octets.toNatLittle (Sha2.sha512 b) % order

/-- The signature of a message under a seed whose public key is `key`. -/
def sign (seed key message : Octets) : Octets :=
  let secret := expand seed
  let r := challenge (secret.nonceKey ++ message)
  let commitment := (Point.multiple 256 r .base).encode
  let k := challenge (commitment ++ key ++ message)
  commitment ++ Octets.ofNatLittle 32 ((r + k * secret.scalar) % order)

/-- A public key has 32 octets. -/
theorem length_publicKey (seed : Octets) : (publicKey seed).length = 32 := by
  simp [publicKey, Point.encode, Octets.ofNatLittle]

/-- A signature has 64 octets. -/
theorem length_sign (seed key message : Octets) : (sign seed key message).length = 64 := by
  simp [sign, Point.encode, Octets.ofNatLittle]

end Remittance.Ed25519

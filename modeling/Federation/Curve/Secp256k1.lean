/-
# The curve secp256k1

Points of `y² = x³ + 7` over the field of `p` elements, in projective coordinates
`(X : Y : Z)` with `x = X / Z²` and `y = Y / Z³`; the neutral point has `Z = 0`. Public keys
are read from their standard encodings.
-/

namespace Federation.Curve

/-- The order of the field. -/
def fieldOrder : Nat := 0xFFFFFFFFFFFFFFFFFFFFFFFFFFFFFFFFFFFFFFFFFFFFFFFFFFFFFFFEFFFFFC2F

/-- The order of the group. -/
def groupOrder : Nat := 0xFFFFFFFFFFFFFFFFFFFFFFFFFFFFFFFEBAAEDCE6AF48A03BBFD25E8CD0364141

/-- `base ^ exponent` modulo `modulus`, by squaring over the lowest `bits` bits. -/
def powMod (modulus : Nat) : (bits : Nat) → (base exponent : Nat) → Nat
  | 0, _, _ => 1 % modulus
  | bits + 1, base, exponent =>
    let half := powMod modulus bits (base * base % modulus) (exponent / 2)
    if exponent % 2 = 1 then half * base % modulus else half

/-- The inverse modulo a prime. -/
def inverse (prime a : Nat) : Nat := powMod prime 256 (a % prime) (prime - 2)

/-- A point in projective coordinates. -/
structure Point where
  x : Nat
  y : Nat
  z : Nat
deriving DecidableEq, Repr

namespace Point

/-- The neutral point. -/
def zero : Point := ⟨1, 1, 0⟩

/-- The point with given coordinates. -/
def ofAffine (x y : Nat) : Point := ⟨x, y, 1⟩

/-- The base point. -/
def base : Point :=
  ofAffine 0x79BE667EF9DCBBAC55A06295CE870B07029BFCDB2DCE28D959F2815B16F81798
    0x483ADA7726A3C4655DA4FBFC0E1108A8FD17B448A68554199C47D08FFB10D4B8

/-- Subtraction in the field. -/
def sub (a b : Nat) : Nat := (a + fieldOrder - b % fieldOrder) % fieldOrder

/-- Twice a point. -/
def double (p : Point) : Point :=
  if p.z = 0 ∨ p.y = 0 then zero
  else
    let a := p.x * p.x % fieldOrder
    let b := p.y * p.y % fieldOrder
    let c := b * b % fieldOrder
    let s := 4 * p.x * b % fieldOrder
    let m := 3 * a % fieldOrder
    let x := sub (m * m) (2 * s)
    let y := sub (m * sub s x) (8 * c)
    ⟨x, y, 2 * p.y * p.z % fieldOrder⟩

/-- The sum of two points. -/
def add (p q : Point) : Point :=
  if p.z = 0 then q
  else if q.z = 0 then p
  else
    -- Over common denominators, `u1` and `u2` are the abscissas, `s1` and `s2` the ordinates.
    let pz2 := p.z * p.z % fieldOrder
    let qz2 := q.z * q.z % fieldOrder
    let u1 := p.x * qz2 % fieldOrder
    let u2 := q.x * pz2 % fieldOrder
    let s1 := p.y * (qz2 * q.z % fieldOrder) % fieldOrder
    let s2 := q.y * (pz2 * p.z % fieldOrder) % fieldOrder
    if u1 = u2 then
      if s1 = s2 then double p else zero
    else
      let h := sub u2 u1
      let r := sub s2 s1
      let h2 := h * h % fieldOrder
      let h3 := h2 * h % fieldOrder
      let v := u1 * h2 % fieldOrder
      let x := sub (r * r) (h3 + 2 * v)
      let y := sub (r * sub v x) (s1 * h3)
      ⟨x, y, h * p.z % fieldOrder * q.z % fieldOrder⟩

/-- A multiple of a point, by doubling over the lowest `bits` bits of the factor. -/
def multiple : (p : Point) → (bits : Nat) → (factor : Nat) → Point
  | _, 0, _ => zero
  | p, bits + 1, n =>
    let rest := multiple p.double bits (n / 2)
    if n % 2 = 1 then rest.add p else rest

/-- The first coordinate of a point other than the neutral one. -/
def affineX? (p : Point) : Option Nat :=
  if p.z = 0 then none
  else
    let i := inverse fieldOrder p.z
    some (p.x * (i * i % fieldOrder) % fieldOrder)

/-- The point with a first coordinate and a second one of given parity. -/
def ofX? (x : Nat) (odd : Bool) : Option Point :=
  if fieldOrder ≤ x then none
  else
    let square := (x * x % fieldOrder * x + 7) % fieldOrder
    let root := powMod fieldOrder 256 square ((fieldOrder + 1) / 4)
    if root * root % fieldOrder ≠ square then none
    else if (root % 2 = 1) = odd then some (ofAffine x root)
    else some (ofAffine x (fieldOrder - root))

end Point

/-- The number written by bytes, most significant first. -/
def ofBytes (bytes : List UInt8) : Nat :=
  bytes.foldl (fun n b => n * 256 + b.toNat) 0

/-- Reads a public key: compressed with the parity of the second coordinate, uncompressed,
or compact, which takes the even second coordinate. -/
def Point.ofEncoding? : List UInt8 → Option Point
  | [] => none
  | tag :: rest =>
    if tag = 2 ∨ tag = 3 then
      if rest.length = 32 then ofX? (ofBytes rest) (tag = 3) else none
    else if tag = 4 then
      if rest.length = 64 then
        let x := ofBytes (rest.take 32)
        let y := ofBytes (rest.drop 32)
        if x < fieldOrder ∧ y < fieldOrder
            ∧ y * y % fieldOrder = (x * x % fieldOrder * x + 7) % fieldOrder
        then some (ofAffine x y) else none
      else none
    else if tag = 5 then
      if rest.length = 32 then
        ofX? (ofBytes rest) false
      else none
    else none

end Federation.Curve

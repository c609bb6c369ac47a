/-
# Signatures over the curve

A signature is a pair of numbers below the order of the group, neither of them zero. Of the
two signatures that the same key and message allow only the one with the smaller second
number is accepted.
-/

import Federation.Curve.Secp256k1
import Federation.Digest.Sha256

namespace Federation.Curve

/-- A signature in the form of its two numbers. -/
structure Ecdsa where
  r : Nat
  s : Nat
deriving DecidableEq, Repr

/-- Reads the sixty-four bytes of a signature. -/
def Ecdsa.ofBytes? (bytes : List UInt8) : Option Ecdsa :=
  if bytes.length = 64 then
    let r := ofBytes (bytes.take 32)
    let s := ofBytes (bytes.drop 32)
    if 0 < r ∧ r < groupOrder ∧ 0 < s ∧ s < groupOrder then some ⟨r, s⟩ else none
  else none

/-- Does a key accept a signature over a message? -/
def Ecdsa.verify (key : Point) (message : List UInt8) (sig : Ecdsa) : Bool :=
  if groupOrder / 2 < sig.s then false
  else
    let z := ofBytes (Digest.sha256 message) % groupOrder
    let w := inverse groupOrder sig.s
    let sum := (Point.base.multiple 256 (z * w % groupOrder)).add
      (key.multiple 256 (sig.r * w % groupOrder))
    match sum.affineX? with
    | some x => x % groupOrder == sig.r
    | none => false

end Federation.Curve

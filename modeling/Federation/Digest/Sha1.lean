/-
# SHA-1

The digest of twenty bytes that names the issuer of an artifact.
-/

import Federation.Digest.Block

namespace Federation.Digest

namespace Sha1

/-- The five words of the state. -/
structure State where
  a : UInt32
  b : UInt32
  c : UInt32
  d : UInt32
  e : UInt32

/-- The state before the first block. -/
def State.initial : State := ⟨0x67452301, 0xEFCDAB89, 0x98BADCFE, 0x10325476, 0xC3D2E1F0⟩

/-- Extends the sixteen words of a block to eighty. -/
def schedule (words : Array UInt32) : Array UInt32 :=
  (List.range 64).foldl
    (fun w i =>
      let t := i + 16
      w.push (rotateLeft
        (w.getD (t - 3) 0 ^^^ w.getD (t - 8) 0 ^^^ w.getD (t - 14) 0 ^^^ w.getD (t - 16) 0) 1))
    words

/-- The function and constant of a round. -/
def mix (round : Nat) (b c d : UInt32) : UInt32 × UInt32 :=
  if round < 20 then ((b &&& c) ||| (~~~b &&& d), 0x5A827999)
  else if round < 40 then (b ^^^ c ^^^ d, 0x6ED9EBA1)
  else if round < 60 then ((b &&& c) ||| (b &&& d) ||| (c &&& d), 0x8F1BBCDC)
  else (b ^^^ c ^^^ d, 0xCA62C1D6)

/-- One round. -/
def step (w : Array UInt32) (s : State) (round : Nat) : State :=
  let (f, k) := mix round s.b s.c s.d
  ⟨rotateLeft s.a 5 + f + s.e + k + w.getD round 0, s.a, rotateLeft s.b 30, s.c, s.d⟩

/-- Takes in one block. -/
def absorb (s : State) (words : Array UInt32) : State :=
  let w := schedule words
  let t := (List.range 80).foldl (step w) s
  ⟨s.a + t.a, s.b + t.b, s.c + t.c, s.d + t.d, s.e + t.e⟩

end Sha1

/-- The SHA-1 digest of a byte string. -/
def sha1 (bytes : List UInt8) : List UInt8 :=
  let s := (blocks bytes).foldl Sha1.absorb .initial
  [s.a, s.b, s.c, s.d, s.e].flatMap wordBytes

end Federation.Digest

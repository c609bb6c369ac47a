/-
# Trust

A trust engine decides whether a signature over a text is accepted. A key ring is one that
holds named public keys and knows one algorithm.
-/

import Federation.Curve.Signature
import Federation.Metadata.Entity
import Federation.Text.Hex
import Federation.Failure

namespace Federation

open Federation.Metadata

/-- Decides about signatures. -/
structure TrustEngine where
  accepts : (content : String) → Signature → Bool

/-- Named public keys; of several under one name the last counts. -/
structure KeyRing where
  keys : List (String × Curve.Point)

namespace KeyRing

/-- The algorithm whose signatures are checked. -/
def algorithm : String := "ES256K"

/-- No keys. -/
def empty : KeyRing := ⟨[]⟩

/-- Puts a key under a name. -/
def put (ring : KeyRing) (name : String) (key : Curve.Point) : KeyRing :=
  ⟨(ring.keys.filter (·.1 != name)) ++ [(name, key)]⟩

/-- The number of names. -/
def size (ring : KeyRing) : Nat := ring.keys.length

/-- Reads keys in hexadecimal, each with its name. -/
def ofHex : List (String × String) → Except Failure KeyRing :=
  go empty
where
  /-- Adds keys to a ring, up to the first that cannot be read. -/
  go (ring : KeyRing) : List (String × String) → Except Failure KeyRing
    | [] => .ok ring
    | (name, hex) :: rest =>
      match Text.Hex.decode (Text.trim hex) with
      | .error fault =>
        .error (.configuration ("Invalid hex for trust key " ++ name ++ ": " ++ fault.message))
      | .ok bytes =>
        match Curve.Point.ofEncoding? bytes with
        | none => .error (.configuration ("Invalid trust key " ++ name ++ ": signature error"))
        | some key => go (ring.put name key) rest

/-- Is a signature of the known algorithm, by a known key, and right? -/
def accepts (ring : KeyRing) (content : String) (signature : Signature) : Bool :=
  signature.algorithm == algorithm &&
    match ring.keys.lookup signature.keyName, Text.Hex.decode signature.value with
    | some key, .ok bytes =>
      match Curve.Ecdsa.ofBytes? bytes with
      | some sig => sig.verify key (Text.utf8 content)
      | none => false
    | _, _ => false

/-- The engine of a key ring. -/
def engine (ring : KeyRing) : TrustEngine := ⟨ring.accepts⟩

end KeyRing

end Federation

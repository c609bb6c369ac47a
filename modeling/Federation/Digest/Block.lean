/-
# Blocks of a message

Both digests read a message in blocks of sixteen words. Behind the message stand a one bit,
zeros, and the length of the message in bits in the last two words.
-/

namespace Federation.Digest

/-- Rotates a word to the left. -/
def rotateLeft (x : UInt32) (n : UInt32) : UInt32 :=
  (x <<< n) ||| (x >>> (32 - n))

/-- Rotates a word to the right. -/
def rotateRight (x : UInt32) (n : UInt32) : UInt32 :=
  (x >>> n) ||| (x <<< (32 - n))

/-- The bytes of a word, most significant first. -/
def wordBytes (w : UInt32) : List UInt8 :=
  [(w >>> 24).toUInt8, (w >>> 16).toUInt8, (w >>> 8).toUInt8, w.toUInt8]

/-- The bytes that follow a message of a given length. -/
def padding (length : Nat) : List UInt8 :=
  let bits := length * 8
  (0x80 : UInt8) :: (List.replicate ((119 - length % 64) % 64) (0 : UInt8)
    ++ (List.range 8).map fun i => UInt8.ofNat (bits >>> (8 * (7 - i))))

/-- Groups bytes into words. -/
def words : List UInt8 → List UInt32
  | a :: b :: c :: d :: rest =>
    ((a.toUInt32 <<< 24) ||| (b.toUInt32 <<< 16) ||| (c.toUInt32 <<< 8) ||| d.toUInt32)
      :: words rest
  | _ => []

/-- Groups words into blocks of sixteen; `fuel` bounds their number. -/
def blocksOf : (fuel : Nat) → List UInt32 → List (Array UInt32)
  | 0, _ => []
  | _ + 1, [] => []
  | fuel + 1, ws => (ws.take 16).toArray :: blocksOf fuel (ws.drop 16)

/-- The blocks of a padded message. -/
def blocks (bytes : List UInt8) : List (Array UInt32) :=
  let ws := words (bytes ++ padding bytes.length)
  blocksOf (ws.length / 16 + 1) ws

end Federation.Digest

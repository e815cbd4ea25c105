import SealedKeys.Bytes

/-!
Words of thirty-two and of sixty-four bits, most significant byte first, as hashing uses them.
-/

namespace SealedKeys

namespace Word32

/-- Rotation to the left by fewer than thirty-two places. -/
def rotateLeft (word places : UInt32) : UInt32 :=
  (word <<< places) ||| (word >>> (32 - places))

/-- Rotation to the right by fewer than thirty-two places. -/
def rotateRight (word places : UInt32) : UInt32 :=
  (word >>> places) ||| (word <<< (32 - places))

/-- The four bytes of a word. -/
def bytes (word : UInt32) : Bytes :=
  [(word >>> 24).toUInt8, (word >>> 16).toUInt8, (word >>> 8).toUInt8, word.toUInt8]

/-- The words a byte string consists of; a last incomplete word is dropped. -/
def ofBytes : Bytes → List UInt32
  | a :: b :: c :: d :: rest =>
    ((a.toUInt32 <<< 24) ||| (b.toUInt32 <<< 16) ||| (c.toUInt32 <<< 8) ||| d.toUInt32)
      :: ofBytes rest
  | _ => []

end Word32

namespace Word64

/-- Rotation to the right by fewer than sixty-four places. -/
def rotateRight (word places : UInt64) : UInt64 :=
  (word >>> places) ||| (word <<< (64 - places))

/-- The eight bytes of a word. -/
def bytes (word : UInt64) : Bytes :=
  Word32.bytes (word >>> 32).toUInt32 ++ Word32.bytes word.toUInt32

/-- Pairs of words of thirty-two bits joined, the first above the second. -/
def ofHalves : List UInt32 → List UInt64
  | high :: low :: rest => ((high.toUInt64 <<< 32) ||| low.toUInt64) :: ofHalves rest
  | _ => []

/-- The words a byte string consists of; a last incomplete word is dropped. -/
def ofBytes (content : Bytes) : List UInt64 :=
  ofHalves (Word32.ofBytes content)

end Word64

end SealedKeys

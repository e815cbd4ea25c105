import SealedKeys.Digest.Stretch

/-!
The PSS encoding of a digest, and its check.

The digest is hashed once more together with a salt. The salt itself, behind a byte `01` and
zero bytes, is hidden under a mask made from that second hash; what remains of the unused top
bits is cleared. `Pss.verify` undoes all this for one expected length of the salt.
-/

namespace SealedKeys

namespace Rsa

namespace Pss

/-- The second hash, over eight zero bytes, the digest and the salt. -/
def saltedDigest (hash : HashFunction) (digest salt : Bytes) : Bytes :=
  hash.digest (List.replicate 8 0 ++ digest ++ salt)

/-- The number of bytes of an encoding that has the given number of bits. -/
def encodedLength (bits : Nat) : Nat :=
  (bits + 7) / 8

/-- The bits of the first byte that an encoding with the given number of bits uses. -/
def topMask (bits : Nat) : UInt8 :=
  0xff >>> UInt8.ofNat (8 * encodedLength bits - bits)

/-- Clears bits of the first byte. -/
def clearTop (kept : UInt8) : Bytes → Bytes
  | [] => []
  | first :: rest => (first &&& kept) :: rest

/-- The encoding of a digest in the given number of bits, if digest and salt fit. -/
def encode? (hash : HashFunction) (digest salt : Bytes) (bits : Nat) : Option Bytes :=
  let length := encodedLength bits
  if length < hash.size + salt.length + 2 then none
  else
    let salted := saltedDigest hash digest salt
    let block := List.replicate (length - hash.size - salt.length - 2) 0 ++ 0x01 :: salt
    let masked := Bytes.xor block (hash.stretch salted (length - hash.size - 1))
    some (clearTop (topMask bits) masked ++ salted ++ [0xbc])

/-- Whether an encoded message in the given number of bits is an encoding of the digest with a
salt of the given length. -/
def verify (hash : HashFunction) (digest encoded : Bytes) (bits saltLength : Nat) : Bool :=
  let length := encodedLength bits
  let blockLength := length - hash.size - 1
  let masked := encoded.take blockLength
  let salted := (encoded.drop blockLength).take hash.size
  let block := clearTop (topMask bits) (Bytes.xor masked (hash.stretch salted blockLength))
  let zeroCount := length - hash.size - saltLength - 2
  decide (digest.length = hash.size)
    && decide (encoded.length = length)
    && decide (hash.size + saltLength + 2 ≤ length)
    && encoded.getLast? == some 0xbc
    && clearTop (topMask bits) masked == masked
    && block.take (zeroCount + 1) == List.replicate zeroCount 0 ++ [0x01]
    && saltedDigest hash digest (block.drop (zeroCount + 1)) == salted

end Pss

end Rsa

end SealedKeys

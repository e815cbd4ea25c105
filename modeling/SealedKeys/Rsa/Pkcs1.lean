import SealedKeys.Digest.HashFunction

/-!
The PKCS#1 v1.5 encoding of a digest.

The encoded message is a zero byte, a byte `01`, at least eight bytes `ff`, a zero byte, and the
digest behind a fixed mark that names its hash. It fits only if the modulus has eleven bytes
more than mark and digest together.
-/

namespace SealedKeys

namespace Rsa

namespace Pkcs1

/-- The mark in front of a digest: the beginning of its DER form, which names the hash. -/
def mark : ModuleHash → Bytes
  | .sha1 =>
    [0x30, 0x21, 0x30, 0x09, 0x06, 0x05, 0x2b, 0x0e, 0x03, 0x02, 0x1a, 0x05, 0x00, 0x04, 0x14]
  | .sha256 =>
    [0x30, 0x31, 0x30, 0x0d, 0x06, 0x09, 0x60, 0x86, 0x48, 0x01, 0x65, 0x03, 0x04, 0x02, 0x01,
      0x05, 0x00, 0x04, 0x20]
  | .sha384 =>
    [0x30, 0x41, 0x30, 0x0d, 0x06, 0x09, 0x60, 0x86, 0x48, 0x01, 0x65, 0x03, 0x04, 0x02, 0x02,
      0x05, 0x00, 0x04, 0x30]
  | .sha512 =>
    [0x30, 0x51, 0x30, 0x0d, 0x06, 0x09, 0x60, 0x86, 0x48, 0x01, 0x65, 0x03, 0x04, 0x02, 0x03,
      0x05, 0x00, 0x04, 0x40]

/-- The encoding of a digest for a modulus of `size` bytes, if it fits. -/
def encode? (hash : ModuleHash) (digest : Bytes) (size : Nat) : Option Bytes :=
  let marked := mark hash ++ digest
  if size < marked.length + 11 then none
  else some (0x00 :: 0x01 :: List.replicate (size - marked.length - 3) 0xff ++ 0x00 :: marked)

/-- An encoding is as long as the modulus. -/
theorem length_encode? {hash : ModuleHash} {digest encoded : Bytes} {size : Nat}
    (fits : encode? hash digest size = some encoded) : encoded.length = size := by
  unfold encode? at fits
  simp only at fits
  split at fits
  · cases fits
  · cases fits
    simp only [List.cons_append, List.length_cons, List.length_append, List.length_replicate] at *
    omega

end Pkcs1

end Rsa

end SealedKeys

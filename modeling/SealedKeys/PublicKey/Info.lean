import SealedKeys.Der.Oid
import SealedKeys.Der.Reader
import SealedKeys.PublicKey

/-!
The DER form of a public key: an algorithm identifier and the key as a bit string.

`PublicKey.info` writes it and `PublicKey.ofInfo?` reads it back.
-/

namespace SealedKeys

namespace PublicKey

/-- The identifier of RSA keys. -/
def rsaEncryption : Oid := .ofArcs [1, 2, 840, 113549, 1, 1, 1]

/-- The identifier of elliptic curve keys. -/
def ecPublicKey : Oid := .ofArcs [1, 2, 840, 10045, 2, 1]

/-- The identifier of the curve NIST P-256. -/
def prime256v1 : Oid := .ofArcs [1, 2, 840, 10045, 3, 1, 7]

/-- The algorithm identifier of a key. -/
def algorithmIdentifier : PublicKey → Bytes
  | .rsa _ => Der.sequence [rsaEncryption.element, Der.null]
  | .p256 _ => Der.sequence [ecPublicKey.element, prime256v1.element]

/-- The key itself: modulus and exponent of an RSA key, or both coordinates of a point behind a
byte `04`. -/
def content : PublicKey → Bytes
  | .rsa key => Der.sequence [Der.integer key.modulus, Der.integer key.exponent]
  | .p256 point => 0x04 :: Bytes.ofNat 32 point.x ++ Bytes.ofNat 32 point.y

/-- The DER form of a public key. -/
def info (key : PublicKey) : Bytes :=
  Der.sequence [key.algorithmIdentifier, Der.bitString key.content]

/-- The RSA key whose modulus and exponent these are. -/
def rsaOfContent? (content : Bytes) : Option PublicKey := do
  let body ← Der.only? Der.Tag.sequence content
  let (modulusContent, rest) ← Der.take? Der.Tag.integer body
  let exponentContent ← Der.only? Der.Tag.integer rest
  let modulus ← Der.natural? modulusContent
  let exponent ← Der.natural? exponentContent
  match Rsa.PublicKey.ofParts? modulus exponent with
  | .ok key => some (.rsa key)
  | .error _ => none

/-- The public key with a given DER form. -/
def ofInfo? (encoded : Bytes) : Option PublicKey := do
  let body ← Der.only? Der.Tag.sequence encoded
  let (algorithm, rest) ← Der.take? Der.Tag.sequence body
  let bits ← Der.only? Der.Tag.bitString rest
  match bits with
  | 0 :: content =>
    if algorithm = rsaEncryption.element ++ Der.null then rsaOfContent? content
    else if algorithm = ecPublicKey.element ++ prime256v1.element then
      (P256.Point.ofUncompressed? content).map .p256
    else none
  | _ => none

end PublicKey

end SealedKeys

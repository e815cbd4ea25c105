import SealedKeys.KeyAlgorithm
import SealedKeys.P256
import SealedKeys.Rsa.Key

/-!
Public keys in the form that general cryptography works with: an RSA key, or a point of the
curve NIST P-256.
-/

namespace SealedKeys

/-- A public key. -/
inductive PublicKey where
  | rsa (key : Rsa.PublicKey)
  | p256 (point : P256.Point)
  deriving DecidableEq

namespace PublicKey

/-- The family of the key. -/
def algorithm : PublicKey → KeyAlgorithm
  | .rsa _ => .rsa
  | .p256 _ => .ecc

/-- The RSA key, if it is one. -/
def rsa? : PublicKey → Option Rsa.PublicKey
  | .rsa key => some key
  | .p256 _ => none

end PublicKey

end SealedKeys

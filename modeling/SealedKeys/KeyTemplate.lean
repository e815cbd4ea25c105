import SealedKeys.PublicArea

/-!
Templates: what a caller wants of a key that a module is to create.
-/

namespace SealedKeys

/-- The family and size of a key to be created. -/
inductive TemplateAlgorithm where
  /-- An RSA key. The exponent, a word of thirty-two bits, is zero for the usual one. -/
  | rsa (keyBits : Nat) (exponent : UInt32)
  | ecc (curve : Curve)
  | keyedHash
  deriving DecidableEq, Repr

/-- What a key to be created shall be. -/
structure KeyTemplate where
  algorithm : TemplateAlgorithm := .rsa 2048 0
  nameHash : ModuleHash := .sha256
  attributes : Attributes := .signingKey
  deriving DecidableEq, Repr

/-- Whether an RSA key is wanted. -/
def TemplateAlgorithm.isRsa : TemplateAlgorithm → Bool
  | .rsa _ _ => true
  | _ => false

/-- A template's algorithm as it is shown to a developer. -/
def TemplateAlgorithm.inspect : TemplateAlgorithm → String
  | .rsa keyBits exponent => Inspect.record "Rsa"
      [("key_bits", toString keyBits), ("exponent", toString exponent)]
  | .ecc curve => Inspect.record "Ecc" [("curve", curve.inspect)]
  | .keyedHash => "KeyedHash"

namespace KeyTemplate

/-- An RSA signing key of the given size, with the usual exponent. -/
def rsa (keyBits : Nat) : KeyTemplate where
  algorithm := .rsa keyBits 0

/-- A signing key on the given curve. -/
def ecc (curve : Curve) : KeyTemplate where
  algorithm := .ecc curve

/-- A keyed-hash object. -/
def keyedHash : KeyTemplate where
  algorithm := .keyedHash

end KeyTemplate

end SealedKeys

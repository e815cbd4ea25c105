import SealedKeys.Digest.Algorithm
import SealedKeys.Inspect
import SealedKeys.KeyAlgorithm

/-!
The public area of an object: what a secure module tells about it to anyone.

It holds the hash that names the object, the attributes that bound its use, and the public
parameters of its key. An RSA exponent of zero stands for the usual one, 65537;
`RsaParameters.effectiveExponent` resolves that.
-/

namespace SealedKeys

/-- What an object may be used for and how it came to be. -/
structure Attributes where
  fixedToModule : Bool
  fixedParent : Bool
  sensitiveDataOrigin : Bool
  /-- Whether the object's authorization value unlocks its use. -/
  userWithAuth : Bool
  decrypt : Bool
  sign : Bool
  deriving DecidableEq, Repr

namespace Attributes

/-- The attributes of a key made in the module for signing, unlocked by its authorization
value. -/
def signingKey : Attributes where
  fixedToModule := true
  fixedParent := true
  sensitiveDataOrigin := true
  userWithAuth := true
  decrypt := false
  sign := true

/-- The attributes a word of bits sets; bits without a meaning here are passed over. -/
def ofBits (bits : Nat) : Attributes where
  fixedToModule := bits.testBit 1
  fixedParent := bits.testBit 4
  sensitiveDataOrigin := bits.testBit 5
  userWithAuth := bits.testBit 6
  decrypt := bits.testBit 17
  sign := bits.testBit 18

/-- The word of bits that sets exactly these attributes. -/
def bits (attributes : Attributes) : Nat :=
  attributes.fixedToModule.toNat <<< 1
    + attributes.fixedParent.toNat <<< 4
    + attributes.sensitiveDataOrigin.toNat <<< 5
    + attributes.userWithAuth.toNat <<< 6
    + attributes.decrypt.toNat <<< 17
    + attributes.sign.toNat <<< 18

/-- Attributes as they are shown to a developer. -/
def inspect (attributes : Attributes) : String :=
  Inspect.record "ObjectAttributes"
    [("fixed_tpm", Inspect.truth attributes.fixedToModule),
      ("fixed_parent", Inspect.truth attributes.fixedParent),
      ("sensitive_data_origin", Inspect.truth attributes.sensitiveDataOrigin),
      ("user_with_auth", Inspect.truth attributes.userWithAuth),
      ("decrypt", Inspect.truth attributes.decrypt),
      ("sign", Inspect.truth attributes.sign)]

/-- Attributes are read back from the bits they are written as. -/
theorem ofBits_bits (attributes : Attributes) : ofBits attributes.bits = attributes := by
  rcases attributes with ⟨a, b, c, d, e, f⟩
  cases a <;> cases b <;> cases c <;> cases d <;> cases e <;> cases f <;> rfl

end Attributes

/-- The public half of an RSA key as a module reports it. -/
structure RsaParameters where
  keyBits : Nat
  /-- Zero stands for the usual exponent. -/
  exponent : Nat
  /-- The modulus, most significant byte first. -/
  modulus : Bytes
  deriving DecidableEq, Repr

namespace RsaParameters

/-- The usual public exponent. -/
def defaultExponent : Nat := 65537

/-- The public exponent an exponent field stands for. -/
def resolveExponent (exponent : Nat) : Nat :=
  if exponent = 0 then defaultExponent else exponent

/-- The public exponent of the key. -/
def effectiveExponent (parameters : RsaParameters) : Nat :=
  resolveExponent parameters.exponent

end RsaParameters

/-- The public half of an elliptic curve key as a module reports it. -/
structure EccParameters where
  curve : Curve
  /-- First coordinate, most significant byte first. -/
  x : Bytes
  /-- Second coordinate, most significant byte first. -/
  y : Bytes
  deriving DecidableEq, Repr

/-- The public parameters of an object, by family. -/
inductive PublicParameters where
  | rsa (parameters : RsaParameters)
  | ecc (parameters : EccParameters)
  | keyedHash
  | symCipher
  deriving DecidableEq, Repr

/-- What a secure module tells about an object to anyone. -/
structure PublicArea where
  nameHash : ModuleHash
  attributes : Attributes
  parameters : PublicParameters
  deriving DecidableEq, Repr

namespace PublicParameters

/-- Public parameters as they are shown to a developer. -/
def inspect : PublicParameters → String
  | .rsa parameters => Inspect.wrapped "Rsa" (Inspect.record "RsaParameters"
      [("key_bits", toString parameters.keyBits),
        ("exponent", toString parameters.exponent),
        ("modulus", Inspect.bytes parameters.modulus)])
  | .ecc parameters => Inspect.wrapped "Ecc" (Inspect.record "EccParameters"
      [("curve", parameters.curve.inspect),
        ("x", Inspect.bytes parameters.x),
        ("y", Inspect.bytes parameters.y)])
  | .keyedHash => "KeyedHash"
  | .symCipher => "SymCipher"

end PublicParameters

namespace PublicArea

/-- The family of the object. -/
def algorithm (area : PublicArea) : KeyAlgorithm :=
  match area.parameters with
  | .rsa _ => .rsa
  | .ecc _ => .ecc
  | .keyedHash => .keyedHash
  | .symCipher => .symCipher

/-- The RSA parameters, for an RSA key. -/
def rsa? (area : PublicArea) : Option RsaParameters :=
  match area.parameters with
  | .rsa parameters => some parameters
  | _ => none

/-- A public area as it is shown to a developer. -/
def inspect (area : PublicArea) : String :=
  Inspect.record "PublicKeyDescriptor"
    [("name_alg", area.nameHash.inspect),
      ("attributes", area.attributes.inspect),
      ("parameters", area.parameters.inspect)]

end PublicArea

end SealedKeys

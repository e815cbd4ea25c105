import SealedKeys.Digest.Algorithm
import SealedKeys.Inspect

/-!
Signature schemes: what callers ask for and what a secure module is told.

A scheme is a padding with a hash. For PSS the module alone decides the length of the salt, by
`Scheme.saltLength?`: the length of the digest, cut down to what the encoded message leaves room
for, and none where not even an empty salt fits.
-/

namespace SealedKeys

/-- How a digest is padded before the RSA operation. -/
inductive Padding where
  /-- RSASSA-PKCS1-v1_5, which is deterministic. -/
  | pkcs1
  /-- RSASSA-PSS, salted by the module. -/
  | pss
  deriving DecidableEq, Repr

namespace Padding

/-- The module's number for the padding. -/
def id : Padding → Nat
  | .pkcs1 => 0x0014
  | .pss => 0x0016

/-- The name of the padding. -/
def name : Padding → String
  | .pkcs1 => "RSASSA-PKCS1-v1_5"
  | .pss => "RSASSA-PSS"

end Padding

/-- A padding with a hash, as a module's sign command takes them. -/
structure Scheme where
  padding : Padding
  hash : ModuleHash
  deriving DecidableEq, Repr

namespace Scheme

/-- The name of the scheme. -/
def name (scheme : Scheme) : String :=
  scheme.padding.name ++ "/" ++ scheme.hash.name

/-- The length in bytes of a PSS encoding for a modulus of the given number of bits: it has one
bit less than the modulus. -/
def encodedLength (modulusBits : Nat) : Nat :=
  (modulusBits - 1 + 7) / 8

/-- The length of the salt a module uses under this scheme with a modulus of the given number of
bits. There is none for PKCS#1 v1.5, and none if the key cannot hold a PSS encoding at all. -/
def saltLength? (scheme : Scheme) (modulusBits : Nat) : Option Nat :=
  match scheme.padding with
  | .pkcs1 => none
  | .pss =>
    let hashLength := scheme.hash.size
    if encodedLength modulusBits < hashLength + 2 then none
    else some (min (encodedLength modulusBits - hashLength - 2) hashLength)

end Scheme

/-- The salt length a caller asks for. -/
inductive SaltLength where
  /-- Whatever the module uses. -/
  | auto
  /-- As long as the digest. -/
  | equalsHash
  /-- Exactly this many bytes. -/
  | bytes (count : Nat)
  deriving DecidableEq, Repr

/-- What a caller says about a PSS signature. -/
structure PssOptions where
  hash : HashAlgorithm
  saltLength : SaltLength := .auto
  deriving DecidableEq, Repr

/-- What a caller says about a digest that is to be signed. -/
inductive SignOptions where
  /-- PKCS#1 v1.5 over a digest of this hash. -/
  | pkcs1 (hash : HashAlgorithm)
  /-- PSS over a digest of the given hash. -/
  | pss (options : PssOptions)
  deriving DecidableEq, Repr

namespace SaltLength

/-- A salt length as it is shown to a developer. -/
def inspect : SaltLength → String
  | .auto => "Auto"
  | .equalsHash => "EqualsHash"
  | .bytes count => Inspect.wrapped "Bytes" (toString count)

end SaltLength

namespace SignOptions

/-- The hash the digest was computed with. -/
def algorithm : SignOptions → HashAlgorithm
  | .pkcs1 hash => hash
  | .pss options => options.hash

/-- The PSS part of the options, if PSS is asked for. -/
def pss? : SignOptions → Option PssOptions
  | .pkcs1 _ => none
  | .pss options => some options

/-- The padding the options ask for. -/
def padding : SignOptions → Padding
  | .pkcs1 _ => .pkcs1
  | .pss _ => .pss

/-- Options as they are shown to a developer. -/
def inspect : SignOptions → String
  | .pkcs1 hash => Inspect.wrapped "Hash" hash.inspect
  | .pss options => Inspect.wrapped "Pss" (Inspect.record "PssOptions"
      [("hash", options.hash.inspect), ("salt_length", options.saltLength.inspect)])

end SignOptions

end SealedKeys

import SealedKeys.Rsa.Key
import SealedKeys.Rsa.Pkcs1
import SealedKeys.Rsa.Pss
import SealedKeys.Scheme

/-!
RSA signatures: making and checking them.

A signature is the encoded digest raised to the private exponent, as long as the modulus. Before
it is given away, it is raised to the public exponent again; if the encoded digest does not come
back, which happens when a factor is not prime, there is no signature.
-/

namespace SealedKeys

namespace Rsa

/-- Why there is no signature. -/
inductive SignFault where
  /-- The encoded digest is not below the modulus. -/
  | outOfRange
  /-- The signature does not give the encoded digest back. -/
  | notInverse
  /-- Digest and mark do not fit the modulus. -/
  | messageTooLong
  deriving DecidableEq, Repr

/-- The wording of a signing fault. -/
def SignFault.message : SignFault → String
  | .outOfRange => "decryption error"
  | .notInverse => "internal error"
  | .messageTooLong => "message too long"

/-- Puts together a number from its remainders. What is known is right for the factors whose product
is given; for each further factor, a multiple of that product is added that makes it right for this
one as well. There is none if the product has no inverse modulo a factor. -/
def join? (remainder : Nat → Nat) : (product known : Nat) → (factors : List Nat) → Option Nat
  | _, known, [] => some known
  | product, known, factor :: rest =>
    match inverse? product factor with
    | none => none
    | some inverse =>
      let lift := (remainder factor + (factor - known % factor)) * inverse % factor
      join? remainder (product * factor) (known + product * lift) rest

namespace PrivateKey

/-- The private operation: a number raised to the private exponent.

It is carried out for each factor on its own and put together, beginning with the second factor; if
an inverse is missing for that, it is carried out for the whole modulus.

This says what comes out, and not in how many steps. Where the difference of the first two
remainders is brought above zero by adding the first factor until it is, the operation comes to an
end for every key, but for a first factor much smaller than the second one nobody can wait for
it. -/
def raise (key : PrivateKey) (value : Nat) : Nat :=
  let remainder (factor : Nat) := powMod value (key.privateExponent % (factor - 1)) factor
  match join? remainder key.q (remainder key.q) (key.p :: key.others) with
  | some joined => joined
  | none => powMod value key.privateExponent key.modulus

/-- The signature on an encoded digest. -/
def signEncoded (key : PrivateKey) (encoded : Bytes) : Except SignFault Bytes :=
  let value := Bytes.toNat encoded
  let signature := key.raise value
  if key.modulus ≤ value then .error .outOfRange
  else if powMod signature key.exponent key.modulus = value then
    .ok (Bytes.ofNat key.size signature)
  else .error .notInverse

/-- The PKCS#1 v1.5 signature on a digest. -/
def signPkcs1 (key : PrivateKey) (hash : ModuleHash) (digest : Bytes) :
    Except SignFault Bytes :=
  match Pkcs1.encode? hash digest key.size with
  | none => .error .messageTooLong
  | some encoded => key.signEncoded encoded

/-- The PSS signature on a digest, with the given salt. -/
def signPss (key : PrivateKey) (hash : ModuleHash) (digest salt : Bytes) :
    Except SignFault Bytes :=
  match Pss.encode? hash.function digest salt (key.bits - 1) with
  | none => .error .notInverse
  | some encoded => key.signEncoded encoded

end PrivateKey

/-- The number a signature gives back under a modulus and an exponent. A signature must be as
long as the modulus. -/
def recover? (modulus exponent : Nat) (signature : Bytes) : Option Nat :=
  if signature.length = byteLength modulus then
    some (powMod (Bytes.toNat signature) exponent modulus)
  else none

/-- Whether a signature is a PKCS#1 v1.5 signature on a digest. Its number must be below the
modulus. -/
def verifyPkcs1 (modulus exponent : Nat) (hash : ModuleHash) (digest signature : Bytes) :
    Bool :=
  match recover? modulus exponent signature, Pkcs1.encode? hash digest (byteLength modulus) with
  | some recovered, some encoded =>
    decide (digest.length = hash.size) && decide (Bytes.toNat signature < modulus)
      && recovered == Bytes.toNat encoded
  | _, _ => false

/-- Whether a signature is a PSS signature on a digest, with a salt of the given length. Its
number counts modulo the modulus, and of the number it gives back only the bytes of the encoding
count: where the encoding is a byte shorter than the modulus, the first byte may be any. -/
def verifyPss (modulus exponent : Nat) (hash : ModuleHash) (digest signature : Bytes)
    (saltLength : Nat) : Bool :=
  let bits := bitLength modulus - 1
  match recover? modulus exponent signature with
  | some recovered =>
    Pss.verify hash.function digest (Bytes.ofNat (Pss.encodedLength bits) recovered) bits
      saltLength
  | none => false

/-- Whether a signature is one on a digest under a key: a PSS signature with a salt of the given
length, or a PKCS#1 v1.5 signature if there is none. -/
def PublicKey.verifies (key : PublicKey) (hash : ModuleHash) (saltLength : Option Nat)
    (digest signature : Bytes) : Bool :=
  match saltLength with
  | none => verifyPkcs1 key.modulus key.exponent hash digest signature
  | some length => verifyPss key.modulus key.exponent hash digest signature length

end Rsa

end SealedKeys

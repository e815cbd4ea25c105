import SealedKeys.Action
import SealedKeys.Error
import SealedKeys.PublicArea
import SealedKeys.PublicKey

/-!
Rebuilding a public key from the public area that a module reports.

A module's report is not trusted: the declared size of an RSA key must be the size of its
modulus, and the coordinates of a point must lie on the curve. What cannot be a public key by
its family is unsupported; what is inconsistent is a malformed response of the module.
-/

namespace SealedKeys

namespace PublicArea

/-- A public area that contradicts itself. -/
def malformed (reason : String) : Error :=
  .module (.malformedResponse reason)

/-- The declared size of an RSA key, checked against its modulus. -/
def checkSize (parameters : RsaParameters) : Except Error Unit :=
  let bits := bitLength (Bytes.toNat parameters.modulus)
  if bits = parameters.keyBits then .ok ()
  else .error (malformed ("RSA modulus has " ++ toString bits ++ " bits, public area declares "
    ++ toString parameters.keyBits))

/-- The RSA key whose modulus and exponent a public area reports. -/
def rsaKey (parameters : RsaParameters) : Except Error PublicKey :=
  match Rsa.PublicKey.ofParts? (Bytes.toNat parameters.modulus) parameters.effectiveExponent with
  | .ok key => .ok (.rsa key)
  | .error fault => .error (malformed ("invalid RSA public key: " ++ fault.message))

/-- The uncompressed form of the point whose coordinates a public area reports: a byte `04`, then
each coordinate with zero bytes in front, up to the size of the curve. -/
def uncompressed (parameters : EccParameters) : Bytes :=
  let size := parameters.curve.coordinateSize
  0x04 :: (Bytes.padLeft size parameters.x ++ Bytes.padLeft size parameters.y)

/-- The point whose coordinates a public area reports. Each has at most the size of the curve;
leading zero bytes may be missing. -/
def p256Key (parameters : EccParameters) : Except Error PublicKey :=
  let size := parameters.curve.coordinateSize
  if size < parameters.x.length ∨ size < parameters.y.length then
    .error (malformed "ECC coordinate longer than the curve size")
  else
    match P256.Point.ofUncompressed? (uncompressed parameters) with
    | some point => .ok (.p256 point)
    | none => .error (malformed "ECC point is not on P-256")

/-- The public key that a public area describes. -/
def publicKey (area : PublicArea) : Except Error PublicKey :=
  match area.parameters with
  | .rsa parameters => do
    checkSize parameters
    rsaKey parameters
  | .ecc parameters =>
    if parameters.curve = .nistP256 then p256Key parameters
    else .error (.unsupportedAlgorithm ("ECC on " ++ parameters.curve.name))
  | .keyedHash | .symCipher => .error (.unsupportedAlgorithm area.algorithm.name)

/-- What is logged on the way to the public key: an RSA key whose declared size is right. -/
def rebuildEvents (area : PublicArea) : List Event :=
  match area.parameters with
  | .rsa parameters =>
    match checkSize parameters with
    | .ok () => [.rebuilding parameters.keyBits parameters.effectiveExponent]
    | .error _ => []
  | _ => []

/-- Rebuilds the public key that a public area describes. -/
def rebuild {State : Type} (area : PublicArea) : Action State Error PublicKey :=
  ⟨fun state => ⟨area.publicKey, area.rebuildEvents, state⟩⟩

end PublicArea

end SealedKeys

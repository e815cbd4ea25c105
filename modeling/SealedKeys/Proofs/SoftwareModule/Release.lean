import SealedKeys.Proofs.Rsa.Signature
import SealedKeys.Proofs.SoftwareModule.Signing

/-!
What a module has found and done when it releases a signature.

`released` collects it: an object that may sign, its authorization value given byte for byte, a
digest of the right length, and a signature on the encoded message of that digest.
-/

namespace SealedKeys

namespace SoftwareModule

/-- The message that a module encodes for a digest under a scheme, if it fits the key. A PSS
salt is the one drawn, of the length the module chooses for the key. -/
def encodedMessage? (draws : Draws) (key : Rsa.PrivateKey) (digest : Bytes) (scheme : Scheme) :
    Option Bytes :=
  match scheme.padding with
  | .pkcs1 => Rsa.Pkcs1.encode? scheme.hash digest key.size
  | .pss => do
    let length ← scheme.saltLength? key.bits
    Rsa.Pss.encode? scheme.hash.function digest (draws.salt length).toList (key.bits - 1)

/-- What signing gives is a signature on the encoded message. -/
theorem isSignature_of_signature {draws : Draws} {key : Rsa.PrivateKey} {digest : Bytes}
    {scheme : Scheme} {bytes : Bytes} (signed : signature draws key digest scheme = .ok bytes) :
    ∃ encoded, encodedMessage? draws key digest scheme = some encoded ∧
      key.IsSignature encoded bytes := by
  rcases scheme with ⟨padding, hash⟩
  cases padding with
  | pkcs1 => exact Rsa.PrivateKey.isSignature_of_signPkcs1 (mapError_eq_ok_iff.1 signed)
  | pss =>
    simp only [signature] at signed
    cases chosen : Scheme.saltLength? ⟨.pss, hash⟩ key.bits with
    | none => rw [chosen] at signed; cases signed
    | some length =>
      rw [chosen] at signed
      have made : key.signPss hash digest (draws.salt length).toList = .ok bytes :=
        mapError_eq_ok_iff.1 signed
      simp only [encodedMessage?, chosen, Option.bind_eq_bind, Option.bind_some]
      exact Rsa.PrivateKey.isSignature_of_signPss made

/-- A module releases a signature only for an object that may sign and whose authorization value
was given, on a digest of the right length. -/
theorem released {module left : SoftwareModule} {draws : Draws} {handle : Handle}
    {auth : AuthValue} {digest : Bytes} {scheme : Scheme} {answer : Except ModuleError Bytes}
    {bytes : Bytes} (outcome : SignOutcome module draws handle auth digest scheme answer left)
    (ok : answer = .ok bytes) :
    ∃ object key encoded, AsksAuth module handle object key ∧
      object.auth.bytes = auth.bytes ∧ digest.length = scheme.hash.size ∧
      encodedMessage? draws key digest scheme = some encoded ∧
      key.IsSignature encoded bytes := by
  cases outcome with
  | @tried object key asks same length =>
    rcases isSignature_of_signature ok with ⟨encoded, encodes, isSignature⟩
    exact ⟨object, key, encoded, asks, same, length, encodes, isSignature⟩
  | _ => cases ok

end SoftwareModule

end SealedKeys

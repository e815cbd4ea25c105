import SealedKeys.Certificate.Body
import SealedKeys.Credential

/-!
A credential as the signer of certificates.

The signer hashes what it is given with SHA-256 and has the credential sign the digest with
PKCS#1 v1.5. The signature is kept as a number on its way into the certificate.
-/

namespace SealedKeys

namespace Certificate

variable {State : Type}

/-- An RSA credential that signs certificates. -/
structure Signer (State : Type) where
  credential : SigningCredential State
  key : Rsa.PublicKey

/-- A credential that failed to sign. -/
structure SignatureError where
  source : Error
  deriving DecidableEq, Repr

/-- The wording of a failure to sign. -/
def SignatureError.message (error : SignatureError) : String :=
  "signature error: " ++ error.source.message

/-- A signature as certificates keep it: a number, and with how many bytes it is written. -/
structure SignatureNumber where
  value : Nat
  length : Nat
  deriving DecidableEq, Repr

namespace SignatureNumber

/-- The number that a signature stands for. -/
def ofBytes (signature : Bytes) : SignatureNumber :=
  ⟨Bytes.toNat signature, signature.length⟩

/-- The number as the bytes of a signature. -/
def bytes (number : SignatureNumber) : Bytes :=
  Bytes.ofNat number.length number.value

end SignatureNumber

namespace Signer

/-- The signer of a credential, which must hold an RSA key. -/
def ofCredential? (credential : SigningCredential State) : Except Error (Signer State) :=
  match credential.publicKey with
  | .rsa key => .ok ⟨credential, key⟩
  | other =>
    .error (.unsupportedAlgorithm (other.algorithm.name ++ " key for certificate signing"))

/-- Signs a message, such as the DER form of a certificate's body. -/
def sign (signer : Signer State) (draws : Draws) (message : Bytes) :
    Action State SignatureError Bytes := do
  Action.log (.signingBody message.length)
  let signature ← (signer.credential.sign draws (ModuleHash.sha256.digest message)
    (.pkcs1 .sha256)).mapError SignatureError.mk
  return (SignatureNumber.ofBytes signature).bytes

/-- Whether a signature on a message was made with the signer's key. -/
def verifies (signer : Signer State) (message signature : Bytes) : Bool :=
  signer.key.verifies .sha256 none (ModuleHash.sha256.digest message) signature

/-- The signer as it is shown to a developer. -/
def inspect (_ : Signer State) : String :=
  Inspect.openRecord "ModuleCertSigner" []

end Signer

end Certificate

end SealedKeys

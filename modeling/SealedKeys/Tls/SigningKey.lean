import SealedKeys.Credential

/-!
A credential as the private key of a TLS peer.

The peer offers code points of signature schemes. The key answers with the first scheme, in its
own order of preference, that is offered and that it supports; it supports a PSS scheme only if
its salt has as many bytes as the digest. The signer for the chosen scheme hashes the whole
handshake message and signs the digest.
-/

namespace SealedKeys

namespace Tls

variable {State : Type}

/-- An RSA credential used by TLS. -/
structure SigningKey (State : Type) where
  credential : SigningCredential State
  keyBits : Nat

/-- A signing key with the scheme the peers agreed on. -/
structure Signer (State : Type) where
  credential : SigningCredential State
  scheme : SignatureScheme

namespace SigningKey

/-- The TLS key of a credential, which must hold an RSA key. -/
def ofCredential? (credential : SigningCredential State) : Except Error (SigningKey State) :=
  match credential.publicKey with
  | .rsa key => .ok ⟨credential, key.bits⟩
  | other => .error (.unsupportedAlgorithm (other.algorithm.name ++ " key for TLS"))

/-- Whether a key of the given number of bits supports a scheme. -/
def supports (keyBits : Nat) (scheme : SignatureScheme) : Bool :=
  match scheme.padding with
  | .pkcs1 => true
  | .pss => Scheme.saltLength? ⟨.pss, scheme.hash⟩ keyBits == some scheme.hash.size

/-- The most preferred scheme that is offered and that a key of the given number of bits
supports. -/
def choose? (keyBits : Nat) (offered : List Nat) : Option SignatureScheme :=
  SignatureScheme.preferred.find? fun scheme =>
    offered.contains scheme.code && supports keyBits scheme

/-- The signer for the schemes a peer offers, if one of them can be used. -/
def signer? (key : SigningKey State) (offered : List Nat) : Option (Signer State) :=
  (choose? key.keyBits offered).map fun scheme => ⟨key.credential, scheme⟩

/-- Agrees on a scheme with a peer. -/
def negotiate (key : SigningKey State) (offered : List Nat) :
    Action State Error (Option (Signer State)) :=
  match key.signer? offered with
  | some signer => do
    Action.log (.negotiated signer.scheme)
    return some signer
  | none => return none

/-- The key as it is shown to a developer. -/
def inspect (_ : SigningKey State) : String :=
  Inspect.openRecord "RustlsSigningKey" []

end SigningKey

namespace Signer

/-- Signs a handshake message: its digest under the scheme's hash is signed. -/
def sign (signer : Signer State) (draws : Draws) (message : Bytes) :
    Action State TlsError Bytes :=
  (signer.credential.sign draws (signer.scheme.hash.digest message) signer.scheme.options).mapError
    fun cause => .general ("module signing failed: " ++ cause.message)

/-- The signer as it is shown to a developer. -/
def inspect (signer : Signer State) : String :=
  Inspect.openRecord "ModuleSigner" [("scheme", signer.scheme.name)]

end Signer

end Tls

end SealedKeys

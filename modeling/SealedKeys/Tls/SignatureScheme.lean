import SealedKeys.Scheme

/-!
The RSA signature schemes of TLS, with their code points.
-/

namespace SealedKeys

namespace Tls

/-- An RSA signature scheme that TLS peers may offer. -/
inductive SignatureScheme where
  | pkcs1Sha256
  | pkcs1Sha384
  | pkcs1Sha512
  | pssSha256
  | pssSha384
  | pssSha512
  deriving DecidableEq, Repr

namespace SignatureScheme

/-- The code point of the scheme. -/
def code : SignatureScheme → Nat
  | .pkcs1Sha256 => 0x0401
  | .pkcs1Sha384 => 0x0501
  | .pkcs1Sha512 => 0x0601
  | .pssSha256 => 0x0804
  | .pssSha384 => 0x0805
  | .pssSha512 => 0x0806

/-- The name of the scheme. -/
def name : SignatureScheme → String
  | .pkcs1Sha256 => "RSA_PKCS1_SHA256"
  | .pkcs1Sha384 => "RSA_PKCS1_SHA384"
  | .pkcs1Sha512 => "RSA_PKCS1_SHA512"
  | .pssSha256 => "RSA_PSS_SHA256"
  | .pssSha384 => "RSA_PSS_SHA384"
  | .pssSha512 => "RSA_PSS_SHA512"

/-- The padding of the scheme. -/
def padding : SignatureScheme → Padding
  | .pkcs1Sha256 | .pkcs1Sha384 | .pkcs1Sha512 => .pkcs1
  | .pssSha256 | .pssSha384 | .pssSha512 => .pss

/-- The hash of the scheme. -/
def hash : SignatureScheme → ModuleHash
  | .pkcs1Sha256 | .pssSha256 => .sha256
  | .pkcs1Sha384 | .pssSha384 => .sha384
  | .pkcs1Sha512 | .pssSha512 => .sha512

/-- All schemes, the most preferred first: PSS before PKCS#1 v1.5, longer digests before shorter
ones. -/
def preferred : List SignatureScheme :=
  [.pssSha512, .pssSha384, .pssSha256, .pkcs1Sha512, .pkcs1Sha384, .pkcs1Sha256]

/-- What a credential is told under the scheme. TLS wants PSS salted with as many bytes as the
digest has. -/
def options (scheme : SignatureScheme) : SignOptions :=
  match scheme.padding with
  | .pkcs1 => .pkcs1 scheme.hash.algorithm
  | .pss => .pss ⟨scheme.hash.algorithm, .equalsHash⟩

end SignatureScheme

end Tls

end SealedKeys

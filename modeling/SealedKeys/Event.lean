import SealedKeys.Handle
import SealedKeys.KeyAlgorithm
import SealedKeys.Tls.SignatureScheme

/-!
What the library tells a log about its work.

An event is a fact; its level, the part of the program it belongs to and its wording are
functions of it. No event carries an authorization value.
-/

namespace SealedKeys

/-- How much an event matters, from errors to details. -/
inductive Level where
  | error
  | warn
  | info
  | debug
  | trace
  deriving DecidableEq, Repr

/-- A fact worth logging. -/
inductive Event where
  | loadedExternal (handle : Handle)
  | lockoutReset
  | authorizationFailed (handle : Handle) (failures : UInt32)
  | readPublic (handle : Handle)
  | signing (handle : Handle) (scheme : Scheme)
  | generating (keyBits : Nat)
  | created (algorithm : KeyAlgorithm) (handle : Handle)
  | evicted (handle : Handle)
  | rebuilding (keyBits exponent : Nat)
  | readArea (algorithm : KeyAlgorithm) (handle : Handle)
  | opened (handle : Handle)
  | signingDigest (length : Nat) (handle : Handle) (scheme : Scheme)
  | provisioned (handle : Handle)
  | negotiated (scheme : Tls.SignatureScheme)
  | signingBody (length : Nat)
  | issuedAuthority (commonName : String)
  | issuedLeaf (commonName : String)
  | verified
  | failed (text : String)
  deriving DecidableEq, Repr

/-- The rank of a level: the lower, the more it matters. -/
def Level.rank : Level → Nat
  | .error => 1
  | .warn => 2
  | .info => 3
  | .debug => 4
  | .trace => 5

/-- The name of a level. -/
def Level.name : Level → String
  | .error => "ERROR"
  | .warn => "WARN"
  | .info => "INFO"
  | .debug => "DEBUG"
  | .trace => "TRACE"

namespace Event

/-- How much the event matters. -/
def level : Event → Level
  | .loadedExternal _ | .created _ _ | .evicted _ | .opened _ | .provisioned _
  | .issuedAuthority _ | .issuedLeaf _ | .verified => .info
  | .failed _ => .error
  | _ => .debug

/-- The part of the program the event belongs to. -/
def target : Event → String
  | .loadedExternal _ | .lockoutReset | .authorizationFailed _ _ | .readPublic _ | .signing _ _
  | .generating _ | .created _ _ | .evicted _ => "tpmcred::adapters::software_module"
  | .rebuilding _ _ => "tpmcred::logic::public_key"
  | .readArea _ _ => "tpmcred::use_cases::read_public_key"
  | .opened _ | .signingDigest _ _ _ => "tpmcred::credential::rsa_module_key"
  | .provisioned _ => "tpmcred::use_cases::provision_key"
  | .negotiated _ => "tpmcred::adapters::rustls_key"
  | .signingBody _ => "tpmcred::adapters::x509_signer"
  | .issuedAuthority _ | .issuedLeaf _ => "tpmcred::use_cases::issue_certificate"
  | .verified | .failed _ => "tpmcred"

/-- The wording of the event. -/
def message : Event → String
  | .loadedExternal handle => "Loaded external RSA key at handle " ++ handle.text
  | .lockoutReset => "Lockout counter reset"
  | .authorizationFailed handle failures =>
    "Authorization failed for handle " ++ handle.text ++ " (" ++ toString failures
      ++ " consecutive failures)"
  | .readPublic handle => "ReadPublic for handle " ++ handle.text
  | .signing handle scheme => "Sign with handle " ++ handle.text ++ " using " ++ scheme.name
  | .generating keyBits => "Generating " ++ toString keyBits ++ "-bit RSA key"
  | .created algorithm handle =>
    "Created " ++ algorithm.name ++ " primary key at handle " ++ handle.text
  | .evicted handle => "Evicted handle " ++ handle.text
  | .rebuilding keyBits exponent =>
    "Rebuilding " ++ toString keyBits ++ "-bit RSA public key, exponent " ++ toString exponent
  | .readArea algorithm handle =>
    "Read " ++ algorithm.name ++ " public area for handle " ++ handle.text
  | .opened handle => "Opened RSA credential for handle " ++ handle.text
  | .signingDigest length handle scheme =>
    "Signing " ++ toString length ++ "-byte digest with handle " ++ handle.text ++ " using "
      ++ scheme.name
  | .provisioned handle => "Provisioned RSA key at handle " ++ handle.text
  | .negotiated scheme => "Negotiated TLS signature scheme " ++ scheme.name
  | .signingBody length => "Signing " ++ toString length ++ "-byte certificate body"
  | .issuedAuthority commonName => "Issued CA certificate for CN=" ++ commonName
  | .issuedLeaf commonName => "Issued leaf certificate for CN=" ++ commonName
  | .verified => "Signature verified against the module public key"
  | .failed text => text

end Event

end SealedKeys

import SealedKeys.AuthValue
import SealedKeys.Handle
import SealedKeys.KeyAlgorithm
import SealedKeys.Scheme

/-!
Errors, as causes.

`ModuleError` is what a secure module or the channel to it reports. `Error` is what the library
reports to its callers: its own refusals are separate cases, and everything a module reports
travels unchanged inside `Error.module`. The wording of each is given by `message` and nowhere
else.
-/

namespace SealedKeys

/-- A failure that a secure module, or the channel to it, reports. -/
inductive ModuleError where
  /-- The channel to the module failed. -/
  | channel (reason : String)
  | handleNotFound (handle : Handle)
  | handleInUse (handle : Handle)
  /-- The authorization value was not the object's. -/
  | authFailure (handle : Handle)
  /-- Too many authorization failures: the module refuses authorized commands. -/
  | lockout
  /-- The object's attributes rule the operation out. -/
  | attributes (handle : Handle) (operation : String)
  | digestSize (expected actual : Nat)
  | scheme (reason : String)
  | parameters (reason : String)
  | malformedResponse (reason : String)
  | commandFailed (reason : String)
  deriving DecidableEq, Repr

/-- Why a public key has no encoding. -/
inductive PublicKeyError where
  | encoding (reason : String)
  deriving DecidableEq, Repr

/-- A value of the domain that was refused. -/
inductive DomainError where
  | handle (cause : HandleError)
  | algorithm (cause : AlgorithmError)
  | auth (cause : AuthError)
  | publicKey (cause : PublicKeyError)
  deriving DecidableEq, Repr

/-- A failure of the TLS side. -/
inductive TlsError where
  /-- Any failure that is only described. -/
  | general (reason : String)
  /-- A certificate that cannot be read. -/
  | badCertificateEncoding
  /-- A certificate names one algorithm in its body and another beside its signature. -/
  | signatureAlgorithmMismatch
  /-- A certificate has the same extension twice. -/
  | repeatedExtension
  deriving DecidableEq, Repr

/-- A failure that the library reports to its callers. -/
inductive Error where
  /-- The key's family cannot be used here. -/
  | unsupportedAlgorithm (algorithm : String)
  /-- A secure module does not know the hash. -/
  | unsupportedHash (hash : HashAlgorithm)
  /-- The module would salt a PSS signature with another length. -/
  | unsupportedSaltLength (requested : Nat) (scheme : Scheme) (keyBits : Nat)
  /-- The module or the channel to it failed. -/
  | module (cause : ModuleError)
  /-- A value of the domain was refused. -/
  | domain (cause : DomainError)
  /-- A certificate could not be made. -/
  | certificate (reason : String)
  | tls (cause : TlsError)
  deriving DecidableEq, Repr

/-- The wording of a module's failure. -/
def ModuleError.message : ModuleError → String
  | .channel reason => "channel failure: " ++ reason
  | .handleNotFound handle => "handle " ++ handle.text ++ " not found"
  | .handleInUse handle => "handle " ++ handle.text ++ " is already in use"
  | .authFailure handle => "authorization failed for handle " ++ handle.text
  | .lockout => "module is in dictionary-attack lockout"
  | .attributes handle operation =>
    "object attributes of handle " ++ handle.text ++ " do not permit " ++ operation
  | .digestSize expected actual =>
    "digest size mismatch: expected " ++ toString expected ++ " bytes, got " ++ toString actual
  | .scheme reason => "scheme not supported: " ++ reason
  | .parameters reason => "invalid key parameters: " ++ reason
  | .malformedResponse reason => "malformed response: " ++ reason
  | .commandFailed reason => "command failed: " ++ reason

/-- The wording of a public key error. -/
def PublicKeyError.message : PublicKeyError → String
  | .encoding reason => "Failed to encode public key: " ++ reason

/-- The wording of the refusal itself, without the domain it belongs to. -/
def DomainError.innerMessage : DomainError → String
  | .handle cause => cause.message
  | .algorithm cause => cause.message
  | .auth cause => cause.message
  | .publicKey cause => cause.message

/-- The wording of a refused value. -/
def DomainError.message (error : DomainError) : String :=
  let domain := match error with
    | .handle _ => "Handle error: "
    | .algorithm _ => "Algorithm error: "
    | .auth _ => "Authorization value error: "
    | .publicKey _ => "Public key error: "
  domain ++ error.innerMessage

/-- The wording of a failure of the TLS side. -/
def TlsError.message : TlsError → String
  | .general reason => "unexpected error: " ++ reason
  | .badCertificateEncoding => "invalid peer certificate: BadEncoding"
  | .signatureAlgorithmMismatch =>
    "invalid peer certificate: Other(OtherError(SignatureAlgorithmMismatch))"
  | .repeatedExtension => "invalid peer certificate: Other(OtherError(ExtensionValueInvalid))"

/-- The wording of a failure. -/
def Error.message : Error → String
  | .unsupportedAlgorithm algorithm => "unsupported algorithm: " ++ algorithm
  | .unsupportedHash hash => "unsupported hash algorithm: " ++ hash.name
  | .unsupportedSaltLength requested scheme keyBits =>
    "PSS salt length of " ++ toString requested ++ " bytes not available for " ++ scheme.name
      ++ " with a " ++ toString keyBits ++ "-bit key"
  | .module cause => "secure module error: " ++ cause.message
  | .domain cause => "domain validation error: " ++ cause.message
  | .certificate reason => "certificate error: " ++ reason
  | .tls cause => "TLS error: " ++ cause.message

end SealedKeys

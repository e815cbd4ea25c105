import SealedKeys.Draws
import SealedKeys.Rsa.Signature
import SealedKeys.SoftwareModule.State

/-!
Signing with an object of a software module.

A sign command asks in a fixed order: whether there is such an object, whether it may sign,
whether it is an RSA key, whether the module is locked out, whether the object takes an
authorization value, whether the given one is right, and whether the digest has the length of
the scheme's hash. The first question answered no decides the failure. Only the comparison of
authorization values touches the failure count. The object is looked up by each part of the
command that needs it.
-/

namespace SealedKeys

namespace SoftwareModule

/-- Compares an authorization value with that of the object at a handle, and counts. -/
def authorize (handle : Handle) (auth : AuthValue) : Command Unit := do
  let module ← Action.current
  Action.ensure (!module.isLockedOut) .lockout
  let object ← lookup handle
  Action.ensure object.area.attributes.userWithAuth
    (.attributes handle "password authorization")
  if object.auth.isMatch auth then
    setFailures 0
  else
    setFailures (module.failedAuths + 1)
    Action.log (.authorizationFailed handle (module.failedAuths + 1))
    Action.fail (.authFailure handle)

/-- The RSA key of an object that is to sign. -/
def signingKey (handle : Handle) (scheme : Scheme) (object : ModuleObject) :
    Except ModuleError Rsa.PrivateKey :=
  match object.material with
  | .rsa key => .ok key
  | other => .error (.scheme (scheme.name ++ " requires an RSA key, handle " ++ handle.text
      ++ " holds " ++ other.describe))

/-- The RSA key at a handle, for the operation itself. -/
def lookupRsa (handle : Handle) : Command Rsa.PrivateKey := do
  let module ← Action.current
  match (module.objects.get? handle).map ModuleObject.material with
  | some (.rsa key) => return key
  | _ => Action.fail (.handleNotFound handle)

/-- The signature of a key on a digest. The module salts PSS signatures with as many bytes as
`Scheme.saltLength?` says. -/
def signature (draws : Draws) (key : Rsa.PrivateKey) (digest : Bytes) (scheme : Scheme) :
    Except ModuleError Bytes :=
  let failed (fault : Rsa.SignFault) : ModuleError :=
    .commandFailed (scheme.name ++ " signing failed: " ++ fault.message)
  match scheme.padding with
  | .pkcs1 => (key.signPkcs1 scheme.hash digest).mapError failed
  | .pss =>
    match scheme.saltLength? key.bits with
    | none => .error (.scheme (scheme.name ++ " does not fit a " ++ toString key.bits
        ++ "-bit key"))
    | some length =>
      (key.signPss scheme.hash digest (draws.salt length).toList).mapError failed

/-- Signs a digest with the object at a handle. -/
def sign (draws : Draws) (handle : Handle) (auth : AuthValue) (digest : Bytes)
    (scheme : Scheme) : Command Bytes := do
  count
  let object ← lookup handle
  Action.ensure object.area.attributes.sign (.attributes handle "signing")
  let _ ← Action.ofExcept (signingKey handle scheme object)
  authorize handle auth
  Action.ensure (digest.length == scheme.hash.size)
    (.digestSize scheme.hash.size digest.length)
  let key ← lookupRsa handle
  Action.log (.signing handle scheme)
  Action.ofExcept (signature draws key digest scheme)

end SoftwareModule

end SealedKeys

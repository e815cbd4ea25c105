import SealedKeys.PublicKey.Reconstruction
import SealedKeys.Scheme.Selection
import SealedKeys.SecureModule

/-!
Credentials: private keys that can sign and are never seen.

`ModuleKey` is an RSA key inside a module. Its public area is read once, when the key is opened,
and kept; signing selects a scheme for the kept key and sends the module one sign command.
`SigningCredential` is what users of a credential see of it.
-/

namespace SealedKeys

/-- A private key that signs digests, with its public half. -/
structure SigningCredential (State : Type) where
  publicKey : PublicKey
  /-- Signs a digest. -/
  sign (draws : Draws) (digest : Bytes) (options : SignOptions) : Action State Error Bytes

/-- A credential that has no private key behind it: its signing always fails. -/
def SigningCredential.keyless {State : Type} (publicKey : PublicKey) :
    SigningCredential State where
  publicKey := publicKey
  sign _ _ _ := Action.fail (.module (.channel "no private key"))

/-- Reads the public area of the object at a handle and rebuilds its public key. -/
def readPublicKey {State : Type} [SecureModule State] (handle : Handle) :
    Action State Error (PublicArea × PublicKey) := do
  let area ← (SecureModule.readPublic handle).mapError Error.module
  Action.log (.readArea area.algorithm handle)
  let publicKey ← area.rebuild
  return (area, publicKey)

/-- An RSA key inside a module, with its public half as it was when the key was opened. -/
structure ModuleKey where
  handle : Handle
  area : PublicArea
  key : Rsa.PublicKey
  auth : AuthValue
  deriving DecidableEq

namespace ModuleKey

variable {State : Type}

/-- Opens the RSA key at a handle. -/
def ofHandle [SecureModule State] (handle : Handle) (auth : AuthValue) :
    Action State Error ModuleKey := do
  let (area, publicKey) ← readPublicKey handle
  match publicKey with
  | .rsa key =>
    Action.log (.opened handle)
    return ⟨handle, area, key, auth⟩
  | other =>
    Action.fail (.unsupportedAlgorithm (other.algorithm.name ++ " key at handle "
      ++ handle.text))

/-- The number of bytes of the modulus, which is that of a signature. -/
def size (moduleKey : ModuleKey) : Nat :=
  moduleKey.key.size

/-- The public half as it was when the key was opened. -/
def publicKey (moduleKey : ModuleKey) : PublicKey :=
  .rsa moduleKey.key

/-- Signs a digest with the key inside the module. -/
def sign [SecureModule State] (moduleKey : ModuleKey) (draws : Draws) (digest : Bytes)
    (options : SignOptions) : Action State Error Bytes := do
  let scheme ← Action.ofExcept (selectScheme options moduleKey.key.bits)
  Action.log (.signingDigest digest.length moduleKey.handle scheme)
  (SecureModule.sign draws moduleKey.handle moduleKey.auth digest scheme).mapError Error.module

/-- The key as its users see it. -/
def credential [SecureModule State] (moduleKey : ModuleKey) : SigningCredential State where
  publicKey := moduleKey.publicKey
  sign := moduleKey.sign

/-- The key as it is shown to a developer. -/
def inspect (moduleKey : ModuleKey) : String :=
  Inspect.openRecord "RsaModuleKey"
    [("handle", moduleKey.handle.inspect),
      ("descriptor", moduleKey.area.inspect),
      ("auth", moduleKey.auth.inspect)]

/-- Creates an RSA key at a free handle and opens it. The public half comes from reading the
key back, not from the answer to its creation. -/
def provision [SecureModule State] [KeyProvisioner State] (draws : Draws) (handle : Handle)
    (auth : AuthValue) (template : KeyTemplate) : Action State Error ModuleKey := do
  Action.ensure template.algorithm.isRsa
    (.unsupportedAlgorithm (template.algorithm.inspect ++ " template for an RSA credential"))
  let _ ← (KeyProvisioner.createPrimary draws handle auth template).mapError Error.module
  Action.log (.provisioned handle)
  ofHandle handle auth

end ModuleKey

end SealedKeys

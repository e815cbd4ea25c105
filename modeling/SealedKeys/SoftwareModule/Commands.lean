import SealedKeys.KeyTemplate
import SealedKeys.SoftwareModule.Signing

/-!
The other commands of a software module: loading, creating, reading and evicting objects, and
clearing the lockout.

Both ways of making an object want its handle free, before all else. A command that fails leaves
the objects as they were.
-/

namespace SealedKeys

namespace SoftwareModule

/-- The greatest number of bits of a modulus that a public area can declare. -/
def maxDeclaredBits : Nat := 0xffff

/-- The greatest exponent that a public area can hold. -/
def maxDeclaredExponent : Nat := 0xffffffff

/-- The public area of an RSA key. The usual exponent is written as zero. -/
def rsaArea (key : Rsa.PrivateKey) (exponent : Nat) (nameHash : ModuleHash)
    (attributes : Attributes) : Except ModuleError PublicArea :=
  if maxDeclaredBits < key.bits then
    .error (.parameters ("RSA modulus of " ++ toString key.bits ++ " bits is too large"))
  else
    .ok {
      nameHash := nameHash
      attributes := attributes
      parameters := .rsa {
        keyBits := key.bits
        exponent := if exponent = RsaParameters.defaultExponent then 0 else exponent
        modulus := Bytes.minimal key.modulus } }

/-- The public area of an RSA key made elsewhere. -/
def externalArea (key : Rsa.PrivateKey) (attributes : Attributes) :
    Except ModuleError PublicArea :=
  if maxDeclaredExponent < key.exponent then
    .error (.parameters "RSA exponent does not fit in 32 bits")
  else rsaArea key key.exponent .sha256 attributes

/-- Loads an RSA key made elsewhere at a free handle. -/
def loadExternal (handle : Handle) (auth : AuthValue) (key : Rsa.PrivateKey)
    (attributes : Attributes) : Command PublicArea := do
  count
  ensureFree handle
  let area ← Action.ofExcept (externalArea key attributes)
  store handle ⟨.rsa key, auth, area⟩
  Action.log (.loadedExternal handle)
  return area

/-- The sizes of RSA keys that the module creates. -/
def supportedKeyBits : List Nat := [1024, 2048, 3072, 4096]

/-- Creates an RSA key. -/
def createRsa (draws : Draws) (keyBits exponent : Nat) (template : KeyTemplate) :
    Command (KeyMaterial × PublicArea) := do
  Action.ensure (supportedKeyBits.contains keyBits)
    (.parameters ("unsupported RSA key size " ++ toString keyBits))
  let effective := RsaParameters.resolveExponent exponent
  Action.ensure (decide (3 ≤ effective) && effective % 2 == 1)
    (.parameters ("invalid RSA exponent " ++ toString exponent))
  Action.log (.generating keyBits)
  match draws.rsaKey keyBits effective with
  | .error fault =>
    Action.fail (.commandFailed ("RSA key generation failed: " ++ fault.message))
  | .ok ⟨key, _⟩ =>
    let area ← Action.ofExcept (rsaArea key exponent template.nameHash template.attributes)
    return (.rsa key, area)

/-- Creates the key that a template describes. -/
def createKey (draws : Draws) (template : KeyTemplate) : Command (KeyMaterial × PublicArea) :=
  match template.algorithm with
  | .rsa keyBits exponent => createRsa draws keyBits exponent.toNat template
  | .ecc .nistP256 =>
    return (.ecc .nistP256, {
      nameHash := template.nameHash
      attributes := template.attributes
      parameters := .ecc {
        curve := .nistP256
        x := Bytes.ofNat 32 draws.point.x
        y := Bytes.ofNat 32 draws.point.y } })
  | .ecc curve => Action.fail (.parameters ("unsupported curve " ++ curve.name))
  | .keyedHash =>
    return (.keyedHash, {
      nameHash := template.nameHash
      attributes := template.attributes
      parameters := .keyedHash })

/-- Creates a key at a free handle, as a template describes it. -/
def createPrimary (draws : Draws) (handle : Handle) (auth : AuthValue)
    (template : KeyTemplate) : Command PublicArea := do
  count
  ensureFree handle
  let (material, area) ← createKey draws template
  store handle ⟨material, auth, area⟩
  Action.log (.created area.algorithm handle)
  return area

/-- Takes the object at a handle out of the module. -/
def evict (handle : Handle) : Command Unit := do
  count
  let _ ← lookup handle
  Action.modify fun module => { module with objects := module.objects.erase handle }
  Action.log (.evicted handle)

/-- Tells the public area of the object at a handle. -/
def readPublic (handle : Handle) : Command PublicArea := do
  count
  Action.log (.readPublic handle)
  let object ← lookup handle
  return object.area

/-- Clears the count of authorization failures. This is not counted as a command. -/
def resetLockout : Command Unit := do
  setFailures 0
  Action.log .lockoutReset

end SoftwareModule

end SealedKeys

import SealedKeys.SoftwareModule.Commands

/-!
What the rest of the library asks of a secure module.

A `SecureModule` reads public areas and signs digests; a `KeyProvisioner` also creates and
evicts keys. The software module is both.
-/

namespace SealedKeys

/-- A state that answers the two commands signing needs. -/
class SecureModule (State : Type) where
  /-- Tells the public area of the object at a handle. -/
  readPublic (handle : Handle) : Action State ModuleError PublicArea
  /-- Signs a digest with the object at a handle. -/
  sign (draws : Draws) (handle : Handle) (auth : AuthValue) (digest : Bytes)
    (scheme : Scheme) : Action State ModuleError Bytes

/-- A state that creates and evicts keys. -/
class KeyProvisioner (State : Type) where
  /-- Creates a key at a free handle. -/
  createPrimary (draws : Draws) (handle : Handle) (auth : AuthValue) (template : KeyTemplate) :
    Action State ModuleError PublicArea
  /-- Takes the object at a handle out. -/
  evict (handle : Handle) : Action State ModuleError Unit

instance : SecureModule SoftwareModule where
  readPublic := SoftwareModule.readPublic
  sign := SoftwareModule.sign

instance : KeyProvisioner SoftwareModule where
  createPrimary := SoftwareModule.createPrimary
  evict := SoftwareModule.evict

end SealedKeys

import SealedKeys.Hex

/-!
Handles name the objects inside a secure module.

A handle is borrowed: how long it stays valid is the module's affair. Handles from `0x81000000`
to `0x81ffffff` belong to persistent objects; `Handle.persistent?` accepts exactly those.
-/

namespace SealedKeys

/-- A reference to an object that lives inside a secure module. -/
structure Handle where
  value : UInt32
  deriving DecidableEq, Repr

/-- Why a number is not accepted as a handle. -/
inductive HandleError where
  /-- The number lies outside the range of persistent objects. -/
  | notPersistent (value : UInt32)
  deriving DecidableEq, Repr

namespace Handle

/-- The lowest handle of a persistent object. -/
def persistentFirst : UInt32 := 0x81000000

/-- The highest handle of a persistent object. -/
def persistentLast : UInt32 := 0x81FFFFFF

/-- Whether the handle lies in the range of persistent objects. -/
def isPersistent (handle : Handle) : Bool :=
  decide (persistentFirst ≤ handle.value ∧ handle.value ≤ persistentLast)

/-- The handle with a given number, if it is one of a persistent object. -/
def persistent? (value : UInt32) : Except HandleError Handle :=
  if (⟨value⟩ : Handle).isPersistent then .ok ⟨value⟩ else .error (.notPersistent value)

/-- A handle as text: eight digits behind `0x`. -/
def text (handle : Handle) : String :=
  Hex.padded 8 handle.value.toNat

/-- A handle as it is shown to a developer. -/
def inspect (handle : Handle) : String :=
  "ModuleHandle(" ++ handle.text ++ ")"

end Handle

/-- The wording of a handle error. -/
def HandleError.message : HandleError → String
  | .notPersistent value =>
    "Handle " ++ Hex.padded 8 value.toNat ++ " is outside the persistent range"

end SealedKeys

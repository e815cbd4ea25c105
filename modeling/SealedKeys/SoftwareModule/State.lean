import SealedKeys.Action
import SealedKeys.Error
import SealedKeys.SoftwareModule.Object

/-!
The state of a software module: its objects, its count of authorization failures, and its count
of commands.

The failure count is one for the whole module. Once it reaches the configured limit the module
is locked out; a limit of zero means that it never is. Count and limit are words of thirty-two bits.
With a limit the count stays below the greatest word. Without one nothing stops it, and the failure
after the greatest word makes it zero.
-/

namespace SealedKeys

/-- A secure module kept in memory. -/
structure SoftwareModule where
  /-- How many authorization failures in a row lock the module; zero disables the lock. -/
  maxAuthFailures : UInt32
  objects : ObjectTable
  /-- Authorization failures since the last success or reset. -/
  failedAuths : UInt32
  /-- Commands carried out so far, of which there are never enough to fill a word. -/
  commands : Nat
  deriving DecidableEq

namespace SoftwareModule

/-- The usual limit of authorization failures. -/
def defaultMaxAuthFailures : UInt32 := 3

/-- A module without objects. -/
def empty (maxAuthFailures : UInt32 := defaultMaxAuthFailures) : SoftwareModule where
  maxAuthFailures := maxAuthFailures
  objects := .empty
  failedAuths := 0
  commands := 0

/-- Whether the module refuses authorized commands. -/
def isLockedOut (module : SoftwareModule) : Bool :=
  decide (0 < module.maxAuthFailures ∧ module.maxAuthFailures ≤ module.failedAuths)

/-- The module as it is shown to a developer. -/
def inspect (module : SoftwareModule) : String :=
  Inspect.record "SoftwareModule"
    [("config", Inspect.record "SoftwareModuleConfig"
        [("max_auth_failures", toString module.maxAuthFailures)]),
      ("objects", toString module.objects.size)]

/-- What a command of the module does. -/
abbrev Command (Answer : Type) := Action SoftwareModule ModuleError Answer

/-- Counts a command. -/
def count : Command Unit :=
  .modify fun module => { module with commands := module.commands + 1 }

/-- The object at a handle, if there is one. -/
def lookup (handle : Handle) : Command ModuleObject := do
  let module ← Action.current
  match module.objects.get? handle with
  | some object => return object
  | none => Action.fail (.handleNotFound handle)

/-- Fails if there is an object at a handle. -/
def ensureFree (handle : Handle) : Command Unit := do
  let module ← Action.current
  Action.ensure (!module.objects.contains handle) (.handleInUse handle)

/-- Puts an object at a handle. -/
def store (handle : Handle) (object : ModuleObject) : Command Unit :=
  .modify fun module => { module with objects := module.objects.insert handle object }

/-- Sets the count of authorization failures. -/
def setFailures (failures : UInt32) : Command Unit :=
  .modify fun module => { module with failedAuths := failures }

end SoftwareModule

end SealedKeys

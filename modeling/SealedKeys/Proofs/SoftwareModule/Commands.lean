import SealedKeys.Proofs.Action
import SealedKeys.SoftwareModule.Commands

/-!
What each command of a software module does, written out.

Every command counts itself first, whatever becomes of it. What follows depends on the module
only through the object at the handle, except that signing also asks for the failure count.
-/

namespace SealedKeys

namespace SoftwareModule

/-- The module after one more command. -/
def counted (module : SoftwareModule) : SoftwareModule :=
  { module with commands := module.commands + 1 }

/-- The module with another count of authorization failures. -/
def withFailures (module : SoftwareModule) (failures : UInt32) : SoftwareModule :=
  { module with failedAuths := failures }

/-- The module with other objects. -/
def withObjects (module : SoftwareModule) (objects : ObjectTable) : SoftwareModule :=
  { module with objects := objects }

section Fields

variable (module : SoftwareModule) (failures : UInt32) (objects : ObjectTable)

@[simp] theorem counted_objects : module.counted.objects = module.objects := rfl
@[simp] theorem counted_failedAuths : module.counted.failedAuths = module.failedAuths := rfl
@[simp] theorem counted_isLockedOut : module.counted.isLockedOut = module.isLockedOut := rfl
@[simp] theorem withFailures_objects :
    (module.withFailures failures).objects = module.objects := rfl
@[simp] theorem withObjects_objects : (module.withObjects objects).objects = objects := rfl

end Fields

/-! ## The parts of commands -/

section Parts

variable {Answer : Type} (module : SoftwareModule) (handle : Handle)

@[simp] theorem run_count_bind (next : Unit → Command Answer) :
    (count >>= next).run module = (next ()).run module.counted := rfl

@[simp] theorem run_lookup_bind (next : ModuleObject → Command Answer) :
    (lookup handle >>= next).run module =
      match module.objects.get? handle with
      | none => ⟨.error (.handleNotFound handle), [], module⟩
      | some object => (next object).run module := by
  simp only [lookup, Action.run_bind_assoc, Action.run_current_bind]
  cases module.objects.get? handle <;> rfl

@[simp] theorem run_ensureFree_bind (next : Unit → Command Answer) :
    (ensureFree handle >>= next).run module =
      match module.objects.get? handle with
      | none => (next ()).run module
      | some _ => ⟨.error (.handleInUse handle), [], module⟩ := by
  simp only [ensureFree, ObjectTable.contains, Action.run_bind_assoc, Action.run_current_bind,
    Action.run_ensure_bind]
  cases module.objects.get? handle <;> rfl

end Parts

/-! ## Making, reading and evicting objects -/

theorem run_loadExternal (handle : Handle) (auth : AuthValue) (key : Rsa.PrivateKey)
    (attributes : Attributes) (module : SoftwareModule) :
    (loadExternal handle auth key attributes).run module =
      match module.objects.get? handle with
      | some _ => ⟨.error (.handleInUse handle), [], module.counted⟩
      | none =>
        match externalArea key attributes with
        | .error failure => ⟨.error failure, [], module.counted⟩
        | .ok area => ⟨.ok area, [.loadedExternal handle],
            module.counted.withObjects (module.objects.insert handle ⟨.rsa key, auth, area⟩)⟩ := by
  simp only [loadExternal, run_count_bind, run_ensureFree_bind, counted_objects]
  cases module.objects.get? handle with
  | some object => rfl
  | none =>
    simp only [Action.run_ofExcept_bind]
    cases externalArea key attributes <;> rfl

/-- The key that a template comes to with given draws, or why there is none. -/
def createdKey (draws : Draws) (template : KeyTemplate) :
    Except ModuleError (KeyMaterial × PublicArea) :=
  ((createKey draws template).run (empty 0)).answer

/-- What making a key logs. -/
def creationEvents (draws : Draws) (template : KeyTemplate) : List Event :=
  ((createKey draws template).run (empty 0)).events

/-- Making a key does not look at the module, and leaves it alone. -/
theorem run_createKey (draws : Draws) (template : KeyTemplate) (module : SoftwareModule) :
    (createKey draws template).run module =
      ⟨createdKey draws template, creationEvents draws template, module⟩ := by
  rcases template with ⟨algorithm, nameHash, attributes⟩
  cases algorithm with
  | rsa keyBits exponent =>
    simp only [createdKey, creationEvents, createKey, createRsa, Action.run_ensure_bind,
      Action.run_log_bind]
    split
    · split
      · rcases draws.rsaKey keyBits (RsaParameters.resolveExponent exponent.toNat) with
          fault | ⟨key, fits⟩
        · rfl
        · simp only [Action.run_ofExcept_bind]
          split <;> rfl
      · rfl
    · rfl
  | ecc curve => cases curve <;> rfl
  | keyedHash => rfl

theorem run_createPrimary (draws : Draws) (handle : Handle) (auth : AuthValue)
    (template : KeyTemplate) (module : SoftwareModule) :
    (createPrimary draws handle auth template).run module =
      match module.objects.get? handle with
      | some _ => ⟨.error (.handleInUse handle), [], module.counted⟩
      | none =>
        match createdKey draws template with
        | .error failure => ⟨.error failure, creationEvents draws template, module.counted⟩
        | .ok (material, area) => ⟨.ok area,
            creationEvents draws template ++ [.created area.algorithm handle],
            module.counted.withObjects (module.objects.insert handle ⟨material, auth, area⟩)⟩ := by
  simp only [createPrimary, run_count_bind, run_ensureFree_bind, counted_objects]
  cases module.objects.get? handle with
  | some object => rfl
  | none =>
    rw [Action.run_bind, run_createKey]
    rcases createdKey draws template with failure | ⟨material, area⟩ <;> rfl

theorem run_evict (handle : Handle) (module : SoftwareModule) :
    (evict handle).run module =
      match module.objects.get? handle with
      | none => ⟨.error (.handleNotFound handle), [], module.counted⟩
      | some _ => ⟨.ok (), [.evicted handle],
          module.counted.withObjects (module.objects.erase handle)⟩ := by
  simp only [evict, run_count_bind, run_lookup_bind, counted_objects]
  cases module.objects.get? handle <;> rfl

theorem run_readPublic (handle : Handle) (module : SoftwareModule) :
    (readPublic handle).run module =
      ⟨match module.objects.get? handle with
        | none => .error (.handleNotFound handle)
        | some object => .ok object.area,
        [.readPublic handle], module.counted⟩ := by
  simp only [readPublic, run_count_bind, Action.run_log_bind, run_lookup_bind, counted_objects]
  cases module.objects.get? handle <;> rfl

end SoftwareModule

end SealedKeys

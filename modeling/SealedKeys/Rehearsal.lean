import SealedKeys.SecureModule

/-!
A module with rehearsed answers.

For some handles the answer to a read is fixed beforehand, and for some the next signatures are;
such answers never reach the module behind. Every other command does.
-/

namespace SealedKeys

/-- A module with rehearsed answers in front. -/
structure Rehearsal (State : Type) where
  /-- The module behind. -/
  inner : State
  /-- What a read of a handle is answered with, from now on; the first entry for a handle
  counts. -/
  areas : List (Handle × Except ModuleError PublicArea)
  /-- The signatures waiting to be given away, the next one first. -/
  signatures : List (Handle × Bytes)

namespace Rehearsal

variable {State Failure Answer : Type}

/-- A module without rehearsed answers. -/
def ofModule (inner : State) : Rehearsal State := ⟨inner, [], []⟩

/-- Carries an action out on the module behind. -/
def onInner (action : Action State Failure Answer) : Action (Rehearsal State) Failure Answer :=
  action.onPart inner fun rehearsal state => { rehearsal with inner := state }

/-- Fixes the answer to later reads of a handle. -/
def setArea (handle : Handle) (answer : Except ModuleError PublicArea)
    (rehearsal : Rehearsal State) : Rehearsal State :=
  { rehearsal with areas := (handle, answer) :: rehearsal.areas }

/-- Adds a signature for one later sign command of a handle. -/
def addSignature (handle : Handle) (signature : Bytes) (rehearsal : Rehearsal State) :
    Rehearsal State :=
  { rehearsal with signatures := rehearsal.signatures ++ [(handle, signature)] }

/-- Whether a read of a handle has a fixed answer. -/
def knowsArea (rehearsal : Rehearsal State) (handle : Handle) : Bool :=
  (rehearsal.areas.lookup handle).isSome

instance [SecureModule State] : SecureModule (Rehearsal State) where
  readPublic handle := do
    let rehearsal ← Action.current
    match rehearsal.areas.lookup handle with
    | some answer => Action.ofExcept answer
    | none => onInner (SecureModule.readPublic handle)
  sign draws handle auth digest scheme := do
    let rehearsal ← Action.current
    match rehearsal.signatures.lookup handle with
    | some signature =>
      Action.modify fun rehearsal =>
        { rehearsal with signatures := rehearsal.signatures.erase (handle, signature) }
      return signature
    | none => onInner (SecureModule.sign draws handle auth digest scheme)

instance [KeyProvisioner State] : KeyProvisioner (Rehearsal State) where
  createPrimary draws handle auth template :=
    onInner (KeyProvisioner.createPrimary draws handle auth template)
  evict handle := onInner (KeyProvisioner.evict handle)

end Rehearsal

end SealedKeys

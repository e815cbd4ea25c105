import SealedKeys.SecureModule

/-!
A recorder in front of a module.

It writes down every command that passes, and hands it on. Failures may be queued for sign
commands; each answers one sign command, in the order they were queued, without the module
behind being asked.
-/

namespace SealedKeys

/-- A command as the recorder writes it down. -/
inductive SentCommand where
  | readPublic (handle : Handle)
  | sign (handle : Handle) (digest : Bytes) (scheme : Scheme)
  | createPrimary (handle : Handle)
  | evict (handle : Handle)
  deriving DecidableEq, Repr

/-- A module with a recorder in front. -/
structure Recorder (State : Type) where
  /-- The module behind the recorder. -/
  inner : State
  /-- The commands seen so far, the oldest first. -/
  log : List SentCommand
  /-- The failures queued for sign commands, the next one first. -/
  signFailures : List ModuleError

namespace Recorder

variable {State Failure Answer : Type}

/-- A recorder that has seen nothing yet. -/
def ofModule (inner : State) : Recorder State := ⟨inner, [], []⟩

/-- Writes a command down. -/
def record (command : SentCommand) : Action (Recorder State) Failure Unit :=
  .modify fun recorder => { recorder with log := recorder.log ++ [command] }

/-- Carries an action out on the module behind the recorder. -/
def onInner (action : Action State Failure Answer) : Action (Recorder State) Failure Answer :=
  action.onPart inner fun recorder state => { recorder with inner := state }

/-- Queues a failure for a sign command. -/
def failNextSign (failure : ModuleError) : Action (Recorder State) ModuleError Unit :=
  .modify fun recorder => { recorder with signFailures := recorder.signFailures ++ [failure] }

/-- Takes the next queued failure, if there is one, and fails with it. -/
def failIfQueued : Action (Recorder State) ModuleError Unit where
  run recorder :=
    match recorder.signFailures with
    | [] => ⟨.ok (), [], recorder⟩
    | failure :: rest => ⟨.error failure, [], { recorder with signFailures := rest }⟩

instance [SecureModule State] : SecureModule (Recorder State) where
  readPublic handle := do
    record (.readPublic handle)
    onInner (SecureModule.readPublic handle)
  sign draws handle auth digest scheme := do
    record (.sign handle digest scheme)
    failIfQueued
    onInner (SecureModule.sign draws handle auth digest scheme)

instance [KeyProvisioner State] : KeyProvisioner (Recorder State) where
  createPrimary draws handle auth template := do
    record (.createPrimary handle)
    onInner (KeyProvisioner.createPrimary draws handle auth template)
  evict handle := do
    record (.evict handle)
    onInner (KeyProvisioner.evict handle)

end Recorder

/-- A sent command as text. -/
def SentCommand.text : SentCommand → String
  | .readPublic handle => "ReadPublic " ++ handle.text
  | .sign handle digest scheme =>
    "Sign " ++ handle.text ++ " " ++ scheme.name ++ " " ++ Hex.encode digest
  | .createPrimary handle => "CreatePrimary " ++ handle.text
  | .evict handle => "Evict " ++ handle.text

end SealedKeys

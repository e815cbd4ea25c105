import SealedKeys.Credential
import SealedKeys.Proofs.SoftwareModule.Commands

/-!
Credentials, run against a module.

Opening a credential reads one public area. Signing with it selects a scheme for the public key
that was kept, and only then asks the module.
-/

namespace SealedKeys

/-! ## The scheme that is selected -/

theorem selectScheme_pkcs1 (hash : ModuleHash) (keyBits : Nat) :
    selectScheme (.pkcs1 hash.algorithm) keyBits = .ok ⟨.pkcs1, hash⟩ := by
  have known := (ModuleHash.ofAlgorithm?_eq_some_iff hash.algorithm hash).2 rfl
  simp only [selectScheme, SignOptions.algorithm, SignOptions.pss?, SignOptions.padding, known,
    Option.bind_none]

theorem selectScheme_pss (hash : ModuleHash) (saltLength : SaltLength) (keyBits : Nat) :
    selectScheme (.pss ⟨hash.algorithm, saltLength⟩) keyBits =
      match saltLength.requested? hash.size with
      | none => .ok ⟨.pss, hash⟩
      | some requested =>
        if Scheme.saltLength? ⟨.pss, hash⟩ keyBits = some requested then .ok ⟨.pss, hash⟩
        else .error (.unsupportedSaltLength requested ⟨.pss, hash⟩ keyBits) := by
  have known := (ModuleHash.ofAlgorithm?_eq_some_iff hash.algorithm hash).2 rfl
  simp only [selectScheme, SignOptions.algorithm, SignOptions.pss?, SignOptions.padding, known,
    Option.bind_some]
  cases saltLength.requested? hash.size <;> rfl

/-! ## Reading, opening and signing -/

/-- Reading a public key reads the public area of the object at the handle and rebuilds the key
from it. -/
theorem run_readPublicKey (handle : Handle) (module : SoftwareModule) :
    (readPublicKey handle).run module =
      match module.objects.get? handle with
      | none =>
        ⟨.error (.module (.handleNotFound handle)), [.readPublic handle], module.counted⟩
      | some object =>
        ⟨object.area.publicKey.map fun publicKey => (object.area, publicKey),
          .readPublic handle :: .readArea object.area.algorithm handle ::
            object.area.rebuildEvents,
          module.counted⟩ := by
  have read : (SecureModule.readPublic handle).run module = _ :=
    SoftwareModule.run_readPublic handle module
  rw [readPublicKey, Action.run_mapError_bind, read]
  cases module.objects.get? handle with
  | none => rfl
  | some object =>
    simp only [Action.run_log_bind, Action.run_bind_pure, PublicArea.rebuild]
    rfl

namespace ModuleKey

/-- A key that was opened keeps the handle, the authorization value, and what the public area at
the handle told. Opening counts as one command. -/
theorem of_run_ofHandle {handle : Handle} {auth : AuthValue} {module left : SoftwareModule}
    {moduleKey : ModuleKey} {events : List Event}
    (opened : (ofHandle handle auth).run module = ⟨.ok moduleKey, events, left⟩) :
    left = module.counted ∧ ∃ object key, module.objects.get? handle = some object ∧
      object.area.publicKey = .ok (.rsa key) ∧ moduleKey = ⟨handle, object.area, key, auth⟩ := by
  rw [ofHandle, Action.run_bind, run_readPublicKey] at opened
  cases present : module.objects.get? handle with
  | none =>
    rw [present] at opened
    cases opened
  | some object =>
    simp only [present] at opened
    cases rebuilt : object.area.publicKey with
    | error failure =>
      rw [rebuilt] at opened
      cases opened
    | ok publicKey =>
      rw [rebuilt] at opened
      cases publicKey with
      | rsa key =>
        cases opened
        exact ⟨rfl, object, key, rfl, rebuilt, rfl⟩
      | p256 point => cases opened

theorem run_ofHandle_of_get? {handle : Handle} {module : SoftwareModule} {object : ModuleObject}
    {key : Rsa.PublicKey} (present : module.objects.get? handle = some object)
    (rebuilt : object.area.publicKey = .ok (.rsa key)) (auth : AuthValue) :
    (ofHandle handle auth).run module =
      ⟨.ok ⟨handle, object.area, key, auth⟩,
        .readPublic handle :: .readArea object.area.algorithm handle ::
          (object.area.rebuildEvents ++ [.opened handle]),
        module.counted⟩ := by
  rw [ofHandle, Action.run_bind, run_readPublicKey]
  simp only [present, rebuilt]
  rfl

/-- Signing with a credential, over any module: the options are refused without a command, or one
sign command is sent and answered. -/
theorem run_sign {State : Type} [SecureModule State] (moduleKey : ModuleKey) (draws : Draws)
    (digest : Bytes) (options : SignOptions) (state : State) :
    (moduleKey.sign draws digest options).run state =
      match selectScheme options moduleKey.key.bits with
      | .error failure => ⟨.error failure, [], state⟩
      | .ok scheme =>
        let sent :=
          (SecureModule.sign draws moduleKey.handle moduleKey.auth digest scheme).run state
        ⟨sent.answer.mapError .module,
          .signingDigest digest.length moduleKey.handle scheme :: sent.events, sent.state⟩ := by
  rw [sign, Action.run_ofExcept_bind]
  cases selectScheme options moduleKey.key.bits with
  | error failure => rfl
  | ok scheme => simp only [Action.run_log_bind, Action.run_mapError]

end ModuleKey

namespace SoftwareModule

/-- What a module reports of the key at a handle: its public area and its public key. -/
def reportedKey (module : SoftwareModule) (handle : Handle) :
    Except Error (PublicArea × PublicKey) :=
  ((readPublicKey handle).run module).answer

theorem reportedKey_of_get? {module : SoftwareModule} {handle : Handle} {object : ModuleObject}
    (present : module.objects.get? handle = some object) :
    module.reportedKey handle =
      object.area.publicKey.map fun publicKey => (object.area, publicKey) := by
  rw [reportedKey, run_readPublicKey, present]

end SoftwareModule

end SealedKeys

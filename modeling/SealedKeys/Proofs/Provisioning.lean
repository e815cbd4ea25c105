import SealedKeys.Proofs.Recorder
import SealedKeys.Proofs.SoftwareModule.PublicAreas

/-!
Provisioning a key, which is all or nothing.

A key is created and then read back like any other. Nothing is undone if reading fails, so that
provisioning leaves nothing behind when it fails only because reading cannot fail: what was just
created is there, its public area describes it, and its size is one that public keys may have. What
is left to fail is the creation, and that changes no object.
-/

namespace SealedKeys

namespace SoftwareModule

theorem le_maxModulusBits_of_supported {keyBits : Nat} (supported : keyBits ∈ supportedKeyBits) :
    keyBits ≤ Rsa.maxModulusBits := by
  revert keyBits
  decide

/-- An RSA key that was created is the one drawn for the size and the exponent of the template, its
public area is the template's, and its public key can be rebuilt from that. -/
structure CreatedRsa (template : KeyTemplate) (key : Rsa.PrivateKey) (area : PublicArea) :
    Prop where
  algorithm_eq : ∃ exponent : UInt32, template.algorithm = .rsa key.bits exponent ∧
    key.exponent = RsaParameters.resolveExponent exponent.toNat
  nameHash_eq : area.nameHash = template.nameHash
  attributes_eq : area.attributes = template.attributes
  describes : area.Describes (.rsa key)
  bits_le : key.bits ≤ Rsa.maxModulusBits

theorem createdRsa_of_createdKey {draws : Draws} {template : KeyTemplate}
    {material : KeyMaterial} {area : PublicArea} (rsa : template.algorithm.isRsa = true)
    (created : createdKey draws template = .ok (material, area)) :
    ∃ key, material = .rsa key ∧ CreatedRsa template key area := by
  have tells := createdKey_tells draws template
  rw [created] at tells
  rcases tells with ⟨drawn, attributes, describes⟩
  rcases template with ⟨⟨keyBits, exponent⟩ | _ | _, nameHash, wanted⟩
  case ecc | keyedHash => cases rsa
  rw [createdKey_rsa] at created
  split at created
  · cases created
  rename_i supported
  split at created
  · cases created
  cases generated : draws.rsaKey keyBits (RsaParameters.resolveExponent exponent.toNat) with
  | error fault =>
    rw [generated] at created
    cases created
  | ok own =>
    have size : own.key.bits = keyBits := (Subtype.property own).1
    simp only [generated, rsaArea] at created
    split at created
    · cases created
    cases created
    refine ⟨own.key, rfl, ⟨exponent, ?_, own.exponent_key⟩, rfl, rfl, describes, ?_⟩
    · rw [size]
    · rw [size]
      apply le_maxModulusBits_of_supported
      simpa only [Bool.not_eq_false, List.contains_iff_mem] using supported

end SoftwareModule

namespace ModuleKey

/-- Provisioning, over any module: a template for another key is refused without a command, a
failure to create the key is handed on, and a key that was created is opened. -/
theorem run_provision {State : Type} [SecureModule State] [KeyProvisioner State] (draws : Draws)
    (handle : Handle) (auth : AuthValue) (template : KeyTemplate) (state : State) :
    (provision draws handle auth template).run state =
      if template.algorithm.isRsa then
        match (KeyProvisioner.createPrimary draws handle auth template).run state with
        | ⟨.error failure, events, left⟩ => ⟨.error (.module failure), events, left⟩
        | ⟨.ok _, events, left⟩ =>
          let opened := (ofHandle handle auth).run left
          ⟨opened.answer, events ++ .provisioned handle :: opened.events, opened.state⟩
      else
        ⟨.error (.unsupportedAlgorithm
          (template.algorithm.inspect ++ " template for an RSA credential")), [], state⟩ := by
  simp only [provision, Action.run_ensure_bind, Action.run_mapError_bind, Action.run_log_bind]
  cases template.algorithm.isRsa with
  | false => rfl
  | true =>
    rcases (KeyProvisioner.createPrimary draws handle auth template).run state with
      ⟨failure | area, events, left⟩ <;> rfl

end ModuleKey

namespace SoftwareModule

/-- A key was provisioned on a module: one RSA object is new, at a handle that was free, and the
credential is that of the object. -/
structure Provisioned (module left : SoftwareModule) (handle : Handle) (auth : AuthValue)
    (template : KeyTemplate) (moduleKey : ModuleKey) (key : Rsa.PrivateKey) : Prop
    extends CreatedRsa template key moduleKey.area where
  free : module.objects.get? handle = none
  left_eq : left =
    (module.withObjects
      (module.objects.insert handle ⟨.rsa key, auth, moduleKey.area⟩)).counted.counted
  reply_read : left.reply (.readPublic handle) = .ok (.area moduleKey.area)
  agrees : ∃ parameters, moduleKey.area.parameters = .rsa parameters ∧ parameters.AgreesWith key
  handle_eq : moduleKey.handle = handle
  auth_eq : moduleKey.auth = auth
  publicKey_eq : moduleKey.area.publicKey = .ok moduleKey.publicKey
  modulus_eq : moduleKey.key.modulus = key.modulus
  exponent_eq : moduleKey.key.exponent = key.exponent

variable (draws : Draws) (handle : Handle) (auth : AuthValue) (template : KeyTemplate)
  (module : SoftwareModule)

/-- What was created can be opened, with the public key of what was created. -/
theorem provisioned_of_created {key : Rsa.PrivateKey} {area : PublicArea}
    (free : module.objects.get? handle = none) (created : CreatedRsa template key area) :
    let made := module.counted.withObjects (module.objects.insert handle ⟨.rsa key, auth, area⟩)
    ∃ moduleKey events left,
      (ModuleKey.ofHandle handle auth).run made = ⟨.ok moduleKey, events, left⟩ ∧
      Provisioned module left handle auth template moduleKey key := by
  intro made
  have present : made.objects.get? handle = some ⟨.rsa key, auth, area⟩ := by
    rw [withObjects_objects, ObjectTable.get?_insert, if_pos rfl]
  have rebuilt := PublicArea.publicKey_of_describes created.describes created.bits_le
  have opened := ModuleKey.run_ofHandle_of_get? present rebuilt auth
  have still : made.counted.objects.get? handle = some ⟨.rsa key, auth, area⟩ := present
  exact ⟨_, _, _, opened, created, free, rfl, reply_readPublic still,
    created.describes.faithful.1, rfl, rfl, rebuilt, rfl, rfl⟩

/-- Creating an RSA key fails and changes no object, or it is followed by opening the key. -/
theorem createPrimary_cases (rsa : template.algorithm.isRsa = true) :
    (∃ failure events, (createPrimary draws handle auth template).run module =
      ⟨.error failure, events, module.counted⟩) ∨
    ∃ key area events, (createPrimary draws handle auth template).run module =
        ⟨.ok area, events,
          module.counted.withObjects (module.objects.insert handle ⟨.rsa key, auth, area⟩)⟩ ∧
      module.objects.get? handle = none ∧ CreatedRsa template key area := by
  rw [run_createPrimary]
  cases found : module.objects.get? handle with
  | some object => exact .inl ⟨_, _, rfl⟩
  | none =>
    cases created : createdKey draws template with
    | error failure => exact .inl ⟨_, _, rfl⟩
    | ok made =>
      rcases made with ⟨material, area⟩
      rcases createdRsa_of_createdKey rsa created with ⟨key, rfl, isCreated⟩
      exact .inr ⟨key, area, _, rfl, rfl, isCreated⟩

section

variable {draws handle template module} {cause : ModuleError} {key : Rsa.PrivateKey}
  {area : PublicArea}

/-- Where the handle is free, a key that cannot be made is told with its cause. -/
theorem run_provision_of_refused (free : module.objects.get? handle = none)
    (rsa : template.algorithm.isRsa = true) (refused : createdKey draws template = .error cause)
    (auth : AuthValue) :
    (ModuleKey.provision draws handle auth template).run module =
      ⟨.error (.module cause), creationEvents draws template, module.counted⟩ := by
  have asked := run_createPrimary draws handle auth template module
  simp only [free, refused] at asked
  simp only [ModuleKey.run_provision, KeyProvisioner.createPrimary, rsa, if_true, asked]

/-- Where the handle is free, a key that can be made is made and opened. -/
theorem run_provision_of_made (free : module.objects.get? handle = none)
    (rsa : template.algorithm.isRsa = true) (made : createdKey draws template = .ok (.rsa key, area))
    (auth : AuthValue) :
    ∃ moduleKey events left,
      (ModuleKey.provision draws handle auth template).run module = ⟨.ok moduleKey, events, left⟩ ∧
      Provisioned module left handle auth template moduleKey key := by
  rcases createdRsa_of_createdKey rsa made with ⟨key, same, created⟩
  cases same
  rcases provisioned_of_created handle auth template module free created with
    ⟨moduleKey, events, left, opened, provisioned⟩
  have asked := run_createPrimary draws handle auth template module
  simp only [free, made] at asked
  simp only [ModuleKey.run_provision, KeyProvisioner.createPrimary, rsa, if_true, asked, opened]
  exact ⟨_, _, _, rfl, provisioned⟩

end

end SoftwareModule

namespace Recorder

variable (recorder : Recorder SoftwareModule) (draws : Draws) (handle : Handle) (auth : AuthValue)
  (template : KeyTemplate)

theorem run_createPrimary :
    (KeyProvisioner.createPrimary draws handle auth template).run recorder =
      let made := (KeyProvisioner.createPrimary draws handle auth template).run recorder.inner
      ⟨made.answer, made.events,
        ⟨made.state, recorder.log ++ [.createPrimary handle], recorder.signFailures⟩⟩ :=
  rfl

/-- Opening a key through a recorder is opening it on the module behind, with the one command
written down. -/
theorem run_ofHandle :
    (ModuleKey.ofHandle handle auth).run recorder =
      let opened := (ModuleKey.ofHandle handle auth).run recorder.inner
      ⟨opened.answer, opened.events,
        ⟨opened.state, recorder.log ++ [.readPublic handle], recorder.signFailures⟩⟩ := by
  have read : (SecureModule.readPublic handle).run recorder =
      let read := (SecureModule.readPublic handle).run recorder.inner
      ⟨read.answer, read.events,
        ⟨read.state, recorder.log ++ [.readPublic handle], recorder.signFailures⟩⟩ := rfl
  simp only [ModuleKey.ofHandle, readPublicKey, Action.run_bind_assoc, Action.run_mapError_bind,
    read]
  rcases (SecureModule.readPublic handle).run recorder.inner with ⟨failure | area, events, left⟩
  · rfl
  · simp only [Action.run_bind, PublicArea.rebuild]
    rcases area.publicKey with failure | key | point <;> rfl

/-- The commands that provisioning sends to a module. -/
def provisioningCommands (module : SoftwareModule) : List SentCommand :=
  if template.algorithm.isRsa then
    match ((KeyProvisioner.createPrimary draws handle auth template).run module).answer with
    | .error _ => [.createPrimary handle]
    | .ok _ => [.createPrimary handle, .readPublic handle]
  else []

/-- Provisioning through a recorder is provisioning on the module behind, with the commands written
down. -/
theorem run_provision :
    (ModuleKey.provision draws handle auth template).run recorder =
      let provisioned := (ModuleKey.provision draws handle auth template).run recorder.inner
      ⟨provisioned.answer, provisioned.events,
        ⟨provisioned.state,
          recorder.log ++ provisioningCommands draws handle auth template recorder.inner,
          recorder.signFailures⟩⟩ := by
  simp only [ModuleKey.run_provision, provisioningCommands, run_createPrimary]
  cases template.algorithm.isRsa with
  | false => simp only [Bool.false_eq_true, if_false, List.append_nil]
  | true =>
    rcases (KeyProvisioner.createPrimary draws handle auth template).run recorder.inner with
      ⟨failure | area, events, left⟩
    · rfl
    · simp only [if_true, run_ofHandle, List.append_assoc]
      rfl

/-- The three ways in which provisioning goes: what it answers, the module that is left behind, and
the commands that were sent. -/
inductive Provisions (module : SoftwareModule) :
    Except Error ModuleKey → SoftwareModule → List SentCommand → Prop where
  | foreign (other : template.algorithm.isRsa = false) :
    Provisions module (.error (.unsupportedAlgorithm
      (template.algorithm.inspect ++ " template for an RSA credential"))) module []
  | refused {cause : ModuleError} (rsa : template.algorithm.isRsa = true)
      (replied : module.reply (.createPrimary draws handle auth template) = .error cause) :
    Provisions module (.error (.module cause)) module.counted [.createPrimary handle]
  | opened {moduleKey : ModuleKey} {key : Rsa.PrivateKey} {left : SoftwareModule}
      (rsa : template.algorithm.isRsa = true)
      (provisioned : module.Provisioned left handle auth template moduleKey key) :
    Provisions module (.ok moduleKey) left [.createPrimary handle, .readPublic handle]

theorem provisions (module : SoftwareModule) :
    let provisioned := (ModuleKey.provision draws handle auth template).run module
    Provisions draws handle auth template module provisioned.answer provisioned.state
      (provisioningCommands draws handle auth template module) := by
  intro provisioned
  have run : provisioned = _ := ModuleKey.run_provision draws handle auth template module
  cases rsa : template.algorithm.isRsa with
  | false =>
    rw [rsa] at run
    rw [run, provisioningCommands, rsa]
    exact .foreign rsa
  | true =>
    rcases SoftwareModule.createPrimary_cases draws handle auth template module rsa with
      ⟨cause, events, made⟩ | ⟨key, area, events, made, free, created⟩
    · have asked : (KeyProvisioner.createPrimary draws handle auth template).run module =
        ⟨.error cause, events, module.counted⟩ := made
      rw [rsa, asked] at run
      rw [run, provisioningCommands, rsa, asked]
      refine .refused rsa ?_
      simp only [SoftwareModule.reply, SoftwareModule.Request.perform, Action.run_bind_pure, made,
        Except.map]
    · have asked : (KeyProvisioner.createPrimary draws handle auth template).run module =
        ⟨.ok area, events, _⟩ := made
      rcases SoftwareModule.provisioned_of_created handle auth template module free created with
        ⟨moduleKey, later, left, opened, isProvisioned⟩
      rw [rsa, asked] at run
      simp only [opened] at run
      rw [run, provisioningCommands, rsa, asked]
      exact .opened rsa isProvisioned

/-- Provisioning is all or nothing, on a recorded module and on the bare module alike.

If it succeeds, the module was sent a command to create the key and one to read it; the handle was
free, and what is new is one RSA object there, with the given authorization value and with the name
hash, the attributes, the size and the exponent of the template. The credential holds the public
area that the module tells and the public key of the new object. If it fails, the objects and the
count of authorization failures are what they were. Then either the template was not that of an RSA
key, and nothing was sent, or just the command to create the key was, and the failure is the answer
to it. -/
theorem provision_atomic (recorder : Recorder SoftwareModule) (draws : Draws) (handle : Handle)
    (auth : AuthValue) (template : KeyTemplate) :
    let outcome := (ModuleKey.provision draws handle auth template).run recorder
    let bare := (ModuleKey.provision draws handle auth template).run recorder.inner
    bare.answer = outcome.answer ∧ bare.state = outcome.state.inner ∧
    outcome.state.signFailures = recorder.signFailures ∧
    match outcome.answer with
    | .ok moduleKey =>
      outcome.state.log = recorder.log ++ [.createPrimary handle, .readPublic handle] ∧
      ∃ key, recorder.inner.Provisioned outcome.state.inner handle auth template moduleKey key
    | .error failure =>
      outcome.state.inner.objects = recorder.inner.objects ∧
      outcome.state.inner.failedAuths = recorder.inner.failedAuths ∧
      (template.algorithm.isRsa = false → outcome.state = recorder ∧
        failure = .unsupportedAlgorithm
          (template.algorithm.inspect ++ " template for an RSA credential")) ∧
      (template.algorithm.isRsa = true →
        outcome.state.log = recorder.log ++ [.createPrimary handle] ∧
        ∃ cause, failure = .module cause ∧
          recorder.inner.reply (.createPrimary draws handle auth template) = .error cause) := by
  intro outcome bare
  have recorded : outcome = _ := run_provision recorder draws handle auth template
  have ways := provisions draws handle auth template recorder.inner
  rw [recorded]
  refine ⟨rfl, rfl, rfl, ?_⟩
  generalize provisioningCommands draws handle auth template recorder.inner = commands at *
  generalize (ModuleKey.provision draws handle auth template).run recorder.inner = provisioned at *
  rcases provisioned with ⟨answer, events, left⟩
  cases ways with
  | foreign other =>
    rw [List.append_nil]
    exact ⟨rfl, rfl, fun _ => ⟨rfl, rfl⟩,
      fun rsa => absurd (other.symm.trans rsa) Bool.false_ne_true⟩
  | refused rsa replied =>
    exact ⟨rfl, rfl, fun other => absurd (other.symm.trans rsa) Bool.false_ne_true,
      fun _ => ⟨rfl, _, rfl, replied⟩⟩
  | opened rsa isProvisioned => exact ⟨rfl, _, isProvisioned⟩

end Recorder

end SealedKeys

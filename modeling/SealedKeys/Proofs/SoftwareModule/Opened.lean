import SealedKeys.Proofs.SoftwareModule.Completeness
import SealedKeys.Proofs.SoftwareModule.PublicAreas

/-!
Credentials that were opened on a software module.

A credential keeps the public key that it read when it was opened. As long as nothing is taken
out at its handle, the module holds the object that was read, so the kept key still belongs to
the private key that signs.
-/

namespace SealedKeys

namespace ModuleKey

/-- A module holds the private key whose public half a credential keeps. -/
structure BackedBy (moduleKey : ModuleKey) (module : SoftwareModule) (object : ModuleObject)
    (key : Rsa.PrivateKey) : Prop where
  present : module.objects.get? moduleKey.handle = some object
  rsa : object.material = .rsa key
  modulus_eq : moduleKey.key.modulus = key.modulus

theorem BackedBy.bits_eq {moduleKey : ModuleKey} {module : SoftwareModule}
    {object : ModuleObject} {key : Rsa.PrivateKey} (backed : moduleKey.BackedBy module object key) :
    moduleKey.key.bits = key.bits :=
  congrArg bitLength backed.modulus_eq

/-- An opened credential is backed by the module until the object at its handle is taken out. -/
theorem backedBy_of_opened {limit : UInt32} {earlier later : List SoftwareModule.Request}
    {handle : Handle} {auth : AuthValue} {moduleKey : ModuleKey} {events : List Event}
    {start : SoftwareModule}
    (opened : (ofHandle handle auth).run ((SoftwareModule.empty limit).after earlier) =
      ⟨.ok moduleKey, events, start⟩)
    (kept : ∀ exchange ∈ start.transcript later, exchange.evicted? ≠ some handle) :
    ∃ object key, moduleKey.handle = handle ∧ moduleKey.auth = auth ∧
      moduleKey.BackedBy (start.after later) object key := by
  rcases of_run_ofHandle opened with ⟨rfl, object, publicKey, present, rebuilt, rfl⟩
  have faithful := (SoftwareModule.describes_of_get? present).faithful
  rcases faithful.rsa_of_publicKey rebuilt with ⟨key, rsa, modulus⟩
  have found : ((SoftwareModule.empty limit).after earlier).counted.objects.get? handle =
      some object := present
  have still := SoftwareModule.get?_after_of_not_evicted found kept
  exact ⟨object, key, rfl, rfl, still, rsa, modulus⟩

end ModuleKey

namespace SoftwareModule

/-- A sign command was sent to a module, once, and its answer handed on. -/
structure Sends (module : SoftwareModule) (draws : Draws) (handle : Handle) (auth : AuthValue)
    (digest : Bytes) (scheme : Scheme) (outcome : Outcome SoftwareModule Error Bytes) : Prop where
  answer_eq : outcome.answer =
    (module.signAnswer draws handle auth digest scheme).mapError .module
  state_eq : outcome.state = module.next (.sign draws handle auth digest scheme)
  commands_eq : outcome.state.commands = module.commands + 1

/-- Once a scheme is selected, a credential sends the sign command. -/
theorem sends_of_selectScheme {moduleKey : ModuleKey} {options : SignOptions} {scheme : Scheme}
    (selected : selectScheme options moduleKey.key.bits = .ok scheme) (module : SoftwareModule)
    (draws : Draws) (digest : Bytes) :
    module.Sends draws moduleKey.handle moduleKey.auth digest scheme
      ((moduleKey.sign draws digest options).run module) := by
  have run := moduleKey.run_sign draws digest options module
  simp only [selected] at run
  rw [run]
  refine ⟨rfl, ?_, ?_⟩
  · rw [next_sign]
    rfl
  · exact (sign_outcome module draws moduleKey.handle moduleKey.auth digest scheme).commands_eq

namespace Sample

/-- The credential that is opened on a key, with its authorization value. -/
def moduleKey (key : Rsa.PrivateKey) (bits_le : key.bits ≤ Rsa.maxModulusBits) : ModuleKey :=
  ⟨handle, (object key).area, key.publicKey bits_le, secret⟩

theorem bits_moduleKey (key : Rsa.PrivateKey) (bits_le : key.bits ≤ Rsa.maxModulusBits) :
    (moduleKey key bits_le).key.bits = key.bits :=
  rfl

theorem run_ofHandle_holding {key : Rsa.PrivateKey} (fits : Declarable key)
    (bits_le : key.bits ≤ Rsa.maxModulusBits) :
    ∃ events, (ModuleKey.ofHandle handle secret).run (holding key) =
      ⟨.ok (moduleKey key bits_le), events, (holding key).counted⟩ := by
  have describes : (object key).area.Describes (.rsa key) := ⟨fits, rfl⟩
  have rebuilt := PublicArea.publicKey_of_describes describes bits_le
  exact ⟨_, ModuleKey.run_ofHandle_of_get? (get?_holding fits) rebuilt secret⟩

theorem asksAuth_holding {key : Rsa.PrivateKey} (fits : Declarable key) :
    AsksAuth (holding key).counted handle (object key) key where
  present := get?_holding fits
  signs := rfl
  rsa := rfl
  unlocked := (holding_asksAuth fits).unlocked
  userWithAuth := rfl

end Sample

end SoftwareModule

end SealedKeys

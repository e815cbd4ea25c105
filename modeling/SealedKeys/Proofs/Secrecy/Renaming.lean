import SealedKeys.Certificate.Signer
import SealedKeys.Proofs.SoftwareModule.Signing
import SealedKeys.Recorder
import SealedKeys.Tls.SigningKey

/-!
Other secrets in the place of the secrets.

A renaming puts one authorization value in the place of another, in the objects of a module, in the
keys that were opened, and in what callers give. If it keeps different values apart, then a module
that holds the renamed secrets and is given the renamed values does just what the module did before:
it answers the same, fails in the same way, logs the same, and again holds the renamed secrets
afterwards. That is what it means here that one action mirrors another.

`Action.Mirrors` is closed under the ways in which actions are built, so a command mirrors itself
part by part. There are only two parts in which a value is looked at: an object that is stored, and
the comparison in `authorize`, which is where the renaming must be injective.
-/

namespace SealedKeys

/-! ## Actions that mirror each other -/

namespace Action

variable {State Other Inner Within Failure Fault Answer Said Next Told : Type}

/-- Where `move` takes a state, the mirror logs what the action logs there, fails as it fails,
answers what `say` makes of its answer, and ends where `move` takes the state it leaves. -/
def Mirrors (move : State → Other) (say : Answer → Said) (action : Action State Failure Answer)
    (mirror : Action Other Failure Said) : Prop :=
  ∀ state, mirror.run (move state) =
    ⟨(action.run state).answer.map say, (action.run state).events, move (action.run state).state⟩

variable {move : State → Other} {say : Answer → Said} {tell : Next → Told}
  {action : Action State Failure Answer} {mirror : Action Other Failure Said}

theorem mirrors_pure (answer : Answer) :
    Mirrors move say (pure answer : Action State Failure Answer) (pure (say answer)) :=
  fun _ => rfl

theorem mirrors_fail (failure : Failure) :
    Mirrors move say (fail failure : Action State Failure Answer) (fail failure) :=
  fun _ => rfl

theorem mirrors_log (event : Event) :
    Mirrors move id (log event : Action State Failure Unit) (log event) :=
  fun _ => rfl

theorem mirrors_modify {change : State → State} {changed : Other → Other}
    (commutes : ∀ state, changed (move state) = move (change state)) :
    Mirrors move id (modify change : Action State Failure Unit) (modify changed) := by
  intro state
  rw [run_modify, commutes]
  rfl

theorem mirrors_ofExcept (result : Except Failure Answer) :
    Mirrors move id (ofExcept result : Action State Failure Answer) (ofExcept result) := by
  intro state
  cases result <;> rfl

theorem mirrors_ensure (condition : Bool) (failure : Failure) :
    Mirrors move id (ensure condition failure : Action State Failure Unit)
      (ensure condition failure) := by
  cases condition
  · exact mirrors_fail failure
  · exact mirrors_pure ()

theorem Mirrors.bind {next : Answer → Action State Failure Next}
    {mirrored : Said → Action Other Failure Told} (first : Mirrors move say action mirror)
    (rest : ∀ answer, Mirrors move tell (next answer) (mirrored (say answer))) :
    Mirrors move tell (action >>= next) (mirror >>= mirrored) := by
  intro state
  rw [run_bind, run_bind, first state]
  rcases action.run state with ⟨failure | answer, events, left⟩
  · rfl
  · simp only [Except.map, rest answer left]

/-- What the state tells may be used by both, each as it finds it. -/
theorem mirrors_current_bind {next : State → Action State Failure Next}
    {mirrored : Other → Action Other Failure Told}
    (rest : ∀ known, Mirrors move tell (next known) (mirrored (move known))) :
    Mirrors move tell (current >>= next) (current >>= mirrored) :=
  fun state => rest state state

theorem Mirrors.mapError (mirrors : Mirrors move say action mirror) (cause : Failure → Fault) :
    Mirrors move say (action.mapError cause) (mirror.mapError cause) := by
  intro state
  rw [run_mapError, run_mapError, mirrors state]
  cases (action.run state).answer <;> rfl

theorem Mirrors.onPart {part : Inner → State} {replace : Inner → State → Inner}
    {partOf : Within → Other} {replaced : Within → Other → Within} {around : Inner → Within}
    (mirrors : Mirrors move say action mirror)
    (parts : ∀ whole, partOf (around whole) = move (part whole))
    (replaces : ∀ whole state,
      replaced (around whole) (move state) = around (replace whole state)) :
    Mirrors around say (action.onPart part replace) (mirror.onPart partOf replaced) := by
  intro whole
  rw [run_onPart, run_onPart, parts, mirrors (part whole), replaces]

end Action

/-! ## Renamed secrets -/

def ModuleObject.renamed (rename : AuthValue → AuthValue) (object : ModuleObject) : ModuleObject :=
  { object with auth := rename object.auth }

def ObjectTable.renamed (rename : AuthValue → AuthValue) (table : ObjectTable) : ObjectTable :=
  ⟨table.entries.map fun entry => (entry.1, entry.2.renamed rename)⟩

def SoftwareModule.renamed (rename : AuthValue → AuthValue) (module : SoftwareModule) :
    SoftwareModule :=
  { module with objects := module.objects.renamed rename }

def ModuleKey.renamed (rename : AuthValue → AuthValue) (moduleKey : ModuleKey) : ModuleKey :=
  { moduleKey with auth := rename moduleKey.auth }

def Recorder.moved {State : Type} (move : State → State) (recorder : Recorder State) :
    Recorder State :=
  { recorder with inner := move recorder.inner }

variable {rename : AuthValue → AuthValue}

/-- An injective renaming keeps matching values matching, and others apart. -/
theorem AuthValue.isMatch_rename (injective : Function.Injective rename)
    (auth other : AuthValue) : (rename auth).isMatch (rename other) = auth.isMatch other := by
  have same_bytes : ∀ first second : AuthValue, first.bytes = second.bytes ↔ first = second := by
    rintro ⟨first, -⟩ ⟨second, -⟩
    rw [AuthValue.mk.injEq]
  apply Bool.eq_iff_iff.2
  rw [isMatch_iff, isMatch_iff, same_bytes, same_bytes, injective.eq_iff]

namespace ObjectTable

variable (rename) (table : ObjectTable) (handle : Handle)

theorem get?_renamed :
    (table.renamed rename).get? handle = (table.get? handle).map (ModuleObject.renamed rename) := by
  rcases table with ⟨entries⟩
  simp only [renamed, get?]
  induction entries with
  | nil => rfl
  | cons entry rest ih =>
    rcases entry with ⟨key, object⟩
    cases same : handle == key with
    | true => simp only [List.map_cons, List.lookup_cons, same, Option.map_some]
    | false => simpa only [List.map_cons, List.lookup_cons, same] using ih

theorem erase_renamed :
    (table.renamed rename).erase handle = (table.erase handle).renamed rename := by
  simp only [renamed, erase, List.filter_map]
  rfl

theorem insert_renamed (object : ModuleObject) :
    (table.renamed rename).insert handle (object.renamed rename) =
      (table.insert handle object).renamed rename := by
  rw [insert, erase_renamed]
  rfl

theorem size_renamed : (table.renamed rename).size = table.size :=
  List.length_map _

end ObjectTable

/-! ## The commands of a software module -/

namespace SoftwareModule

open SealedKeys.Action (Mirrors mirrors_pure mirrors_fail mirrors_log mirrors_modify mirrors_ofExcept
  mirrors_ensure mirrors_current_bind)

section

variable (module : SoftwareModule)

theorem inspect_renamed : (module.renamed rename).inspect = module.inspect := by
  simp only [inspect, renamed, ObjectTable.size_renamed]

@[simp] theorem isLockedOut_renamed : (module.renamed rename).isLockedOut = module.isLockedOut :=
  rfl

@[simp] theorem failedAuths_renamed : (module.renamed rename).failedAuths = module.failedAuths :=
  rfl

@[simp] theorem get?_objects_renamed (handle : Handle) :
    (module.renamed rename).objects.get? handle =
      (module.objects.get? handle).map (ModuleObject.renamed rename) :=
  ObjectTable.get?_renamed rename module.objects handle

end

variable (rename) (draws : Draws) (handle : Handle) (auth : AuthValue)

theorem mirrors_count : Mirrors (renamed rename) id count count :=
  mirrors_modify fun _ => rfl

theorem mirrors_setFailures (failures : UInt32) :
    Mirrors (renamed rename) id (setFailures failures) (setFailures failures) :=
  mirrors_modify fun _ => rfl

theorem mirrors_lookup :
    Mirrors (renamed rename) (ModuleObject.renamed rename) (lookup handle) (lookup handle) := by
  apply mirrors_current_bind
  intro known
  rw [get?_objects_renamed]
  cases known.objects.get? handle with
  | none => exact mirrors_fail _
  | some object => exact mirrors_pure object

theorem mirrors_ensureFree :
    Mirrors (renamed rename) id (ensureFree handle) (ensureFree handle) := by
  apply mirrors_current_bind
  intro known
  simp only [ObjectTable.contains, get?_objects_renamed, Option.isSome_map]
  exact mirrors_ensure _ _

theorem mirrors_store (object : ModuleObject) :
    Mirrors (renamed rename) id (store handle object) (store handle (object.renamed rename)) := by
  apply mirrors_modify
  intro module
  simp only [renamed, ObjectTable.insert_renamed]

theorem mirrors_loadExternal (key : Rsa.PrivateKey) (attributes : Attributes) :
    Mirrors (renamed rename) id (loadExternal handle auth key attributes)
      (loadExternal handle (rename auth) key attributes) := by
  apply (mirrors_count rename).bind
  intro _
  apply (mirrors_ensureFree rename handle).bind
  intro _
  apply (mirrors_ofExcept (externalArea key attributes)).bind
  intro area
  apply (mirrors_store rename handle ⟨.rsa key, auth, area⟩).bind
  intro _
  apply (mirrors_log _).bind
  intro _
  exact mirrors_pure area

theorem mirrors_createKey (template : KeyTemplate) :
    Mirrors (renamed rename) id (createKey draws template) (createKey draws template) := by
  intro module
  rw [run_createKey, run_createKey]
  cases createdKey draws template <;> rfl

theorem mirrors_createPrimary (template : KeyTemplate) :
    Mirrors (renamed rename) id (createPrimary draws handle auth template)
      (createPrimary draws handle (rename auth) template) := by
  apply (mirrors_count rename).bind
  intro _
  apply (mirrors_ensureFree rename handle).bind
  intro _
  apply (mirrors_createKey rename draws template).bind
  rintro ⟨material, area⟩
  apply (mirrors_store rename handle ⟨material, auth, area⟩).bind
  intro _
  apply (mirrors_log _).bind
  intro _
  exact mirrors_pure area

theorem mirrors_evict : Mirrors (renamed rename) id (evict handle) (evict handle) := by
  apply (mirrors_count rename).bind
  intro _
  apply (mirrors_lookup rename handle).bind
  intro object
  apply Mirrors.bind
  · apply mirrors_modify
    intro module
    simp only [renamed, ObjectTable.erase_renamed]
  · intro _
    exact mirrors_log _

theorem mirrors_readPublic :
    Mirrors (renamed rename) id (readPublic handle) (readPublic handle) := by
  apply (mirrors_count rename).bind
  intro _
  apply (mirrors_log _).bind
  intro _
  apply (mirrors_lookup rename handle).bind
  intro object
  exact mirrors_pure object.area

theorem mirrors_resetLockout : Mirrors (renamed rename) id resetLockout resetLockout := by
  apply (mirrors_setFailures rename 0).bind
  intro _
  exact mirrors_log _

variable {rename}

/-- The comparison of values comes out the same, and so does the count. -/
theorem mirrors_authorize (injective : Function.Injective rename) :
    Mirrors (renamed rename) id (authorize handle auth) (authorize handle (rename auth)) := by
  apply mirrors_current_bind
  intro known
  rw [isLockedOut_renamed, failedAuths_renamed]
  apply (mirrors_ensure (!known.isLockedOut) _).bind
  intro _
  apply (mirrors_lookup rename handle).bind
  intro object
  apply (mirrors_ensure object.area.attributes.userWithAuth _).bind
  intro _
  have same : (object.renamed rename).auth.isMatch (rename auth) = object.auth.isMatch auth :=
    AuthValue.isMatch_rename injective object.auth auth
  rw [same]
  cases object.auth.isMatch auth with
  | true => exact mirrors_setFailures rename 0
  | false =>
    apply (mirrors_setFailures rename (known.failedAuths + 1)).bind
    intro _
    apply (mirrors_log _).bind
    intro _
    exact mirrors_fail _

theorem mirrors_lookupRsa :
    Mirrors (renamed rename) id (lookupRsa handle) (lookupRsa handle) := by
  apply mirrors_current_bind
  intro known
  have kept : ((known.renamed rename).objects.get? handle).map ModuleObject.material =
      (known.objects.get? handle).map ModuleObject.material := by
    rw [get?_objects_renamed, Option.map_map]
    rfl
  rw [kept]
  rcases (known.objects.get? handle).map ModuleObject.material with _ | key | curve | _
  · exact mirrors_fail _
  · exact mirrors_pure key
  · exact mirrors_fail _
  · exact mirrors_fail _

theorem mirrors_sign (injective : Function.Injective rename) (digest : Bytes) (scheme : Scheme) :
    Mirrors (renamed rename) id (sign draws handle auth digest scheme)
      (sign draws handle (rename auth) digest scheme) := by
  apply (mirrors_count rename).bind
  intro _
  apply (mirrors_lookup rename handle).bind
  intro object
  apply (mirrors_ensure object.area.attributes.sign _).bind
  intro _
  apply (mirrors_ofExcept (signingKey handle scheme object)).bind
  intro _
  apply (mirrors_authorize handle auth injective).bind
  intro _
  apply (mirrors_ensure _ _).bind
  intro _
  apply (mirrors_lookupRsa handle).bind
  intro key
  apply (mirrors_log _).bind
  intro _
  exact mirrors_ofExcept _

end SoftwareModule

/-! ## Modules that never show a secret -/

/-- Where the commands that signing needs mirror themselves, whatever the secrets are called. -/
structure HidesSecrets {State : Type} [SecureModule State] (rename : AuthValue → AuthValue)
    (move : State → State) : Prop where
  readPublic (handle : Handle) :
    Action.Mirrors move id (SecureModule.readPublic handle) (SecureModule.readPublic handle)
  sign (draws : Draws) (handle : Handle) (auth : AuthValue) (digest : Bytes) (scheme : Scheme) :
    Action.Mirrors move id (SecureModule.sign draws handle auth digest scheme)
      (SecureModule.sign draws handle (rename auth) digest scheme)

/-- Where creating and evicting keys mirror themselves, whatever the secrets are called. -/
structure HidesNewSecrets {State : Type} [KeyProvisioner State] (rename : AuthValue → AuthValue)
    (move : State → State) : Prop where
  createPrimary (draws : Draws) (handle : Handle) (auth : AuthValue) (template : KeyTemplate) :
    Action.Mirrors move id (KeyProvisioner.createPrimary draws handle auth template)
      (KeyProvisioner.createPrimary draws handle (rename auth) template)
  evict (handle : Handle) :
    Action.Mirrors move id (KeyProvisioner.evict handle) (KeyProvisioner.evict handle)

theorem SoftwareModule.hidesSecrets (injective : Function.Injective rename) :
    HidesSecrets rename (SoftwareModule.renamed rename) :=
  ⟨mirrors_readPublic rename, fun draws handle auth => mirrors_sign draws handle auth injective⟩

theorem SoftwareModule.hidesNewSecrets :
    HidesNewSecrets rename (SoftwareModule.renamed rename) :=
  ⟨mirrors_createPrimary rename, mirrors_evict rename⟩

open SealedKeys.Action (Mirrors mirrors_pure mirrors_fail mirrors_log mirrors_modify mirrors_ofExcept
  mirrors_ensure)

variable {State : Type} {move : State → State}

namespace Recorder

variable {Failure Answer Said : Type} {say : Answer → Said} {action : Action State Failure Answer}
  {mirror : Action State Failure Said}

theorem mirrors_record (command : SentCommand) :
    Mirrors (moved move) id (record command : Action (Recorder State) Failure Unit)
      (record command) :=
  mirrors_modify fun _ => rfl

theorem mirrors_failNextSign (failure : ModuleError) :
    Mirrors (moved move) id (failNextSign failure) (failNextSign failure) :=
  mirrors_modify fun _ => rfl

theorem mirrors_failIfQueued : Mirrors (moved move) id failIfQueued failIfQueued := by
  rintro ⟨inner, log, queued⟩
  cases queued <;> rfl

theorem mirrors_onInner (mirrors : Mirrors move say action mirror) :
    Mirrors (moved move) say (onInner action) (onInner mirror) :=
  mirrors.onPart (fun _ => rfl) fun _ _ => rfl

/-- A recorder writes down no secret. -/
theorem hidesSecrets [SecureModule State] (hides : HidesSecrets rename move) :
    HidesSecrets rename (Recorder.moved move) where
  readPublic handle := by
    apply (mirrors_record _).bind
    intro _
    exact mirrors_onInner (hides.readPublic handle)
  sign draws handle auth digest scheme := by
    apply (mirrors_record _).bind
    intro _
    apply mirrors_failIfQueued.bind
    intro _
    exact mirrors_onInner (hides.sign draws handle auth digest scheme)

theorem hidesNewSecrets [KeyProvisioner State] (hides : HidesNewSecrets rename move) :
    HidesNewSecrets rename (Recorder.moved move) where
  createPrimary draws handle auth template := by
    apply (mirrors_record _).bind
    intro _
    exact mirrors_onInner (hides.createPrimary draws handle auth template)
  evict handle := by
    apply (mirrors_record _).bind
    intro _
    exact mirrors_onInner (hides.evict handle)

end Recorder

/-! ## Credentials -/

section

variable [SecureModule State] (hides : HidesSecrets rename move)

include hides

theorem mirrors_readPublicKey (handle : Handle) :
    Mirrors move id (readPublicKey handle) (readPublicKey handle) := by
  apply ((hides.readPublic handle).mapError Error.module).bind
  intro area
  apply (mirrors_log _).bind
  intro _
  have rebuilt : Mirrors move id area.rebuild area.rebuild := by
    intro state
    simp only [PublicArea.rebuild]
    cases area.publicKey <;> rfl
  apply rebuilt.bind
  intro publicKey
  exact mirrors_pure (area, publicKey)

namespace ModuleKey

/-- The key that is opened with a renamed value is the renamed key. -/
theorem mirrors_ofHandle (handle : Handle) (auth : AuthValue) :
    Mirrors move (renamed rename) (ofHandle handle auth) (ofHandle handle (rename auth)) := by
  apply (mirrors_readPublicKey hides handle).bind
  rintro ⟨area, publicKey⟩
  cases publicKey with
  | rsa key =>
    apply (mirrors_log _).bind
    intro _
    exact mirrors_pure (⟨handle, area, key, auth⟩ : ModuleKey)
  | p256 point => exact mirrors_fail _

theorem mirrors_provision [KeyProvisioner State] (hidesNew : HidesNewSecrets rename move)
    (draws : Draws) (handle : Handle) (auth : AuthValue) (template : KeyTemplate) :
    Mirrors move (renamed rename) (provision draws handle auth template)
      (provision draws handle (rename auth) template) := by
  apply (mirrors_ensure _ _).bind
  intro _
  apply ((hidesNew.createPrimary draws handle auth template).mapError Error.module).bind
  intro _
  apply (mirrors_log _).bind
  intro _
  exact mirrors_ofHandle hides handle auth

theorem mirrors_sign (moduleKey : ModuleKey) (draws : Draws) (digest : Bytes)
    (options : SignOptions) :
    Mirrors move id (moduleKey.sign draws digest options)
      ((moduleKey.renamed rename).sign draws digest options) := by
  apply (mirrors_ofExcept (selectScheme options moduleKey.key.bits)).bind
  intro scheme
  apply (mirrors_log _).bind
  intro _
  exact (hides.sign draws moduleKey.handle moduleKey.auth digest scheme).mapError Error.module

end ModuleKey

/-- A TLS signer with the renamed key signs as the one with the key does. -/
theorem Tls.Signer.mirrors_sign (moduleKey : ModuleKey) (scheme : Tls.SignatureScheme)
    (draws : Draws) (message : Bytes) :
    Mirrors move id (sign ⟨moduleKey.credential, scheme⟩ draws message)
      (sign ⟨(moduleKey.renamed rename).credential, scheme⟩ draws message) := by
  have signs := moduleKey.mirrors_sign hides draws (scheme.hash.digest message) scheme.options
  exact signs.mapError _

/-- A certificate signer with the renamed key signs as the one with the key does. -/
theorem Certificate.Signer.mirrors_sign (moduleKey : ModuleKey) (key : Rsa.PublicKey)
    (draws : Draws) (message : Bytes) :
    Mirrors move id (sign ⟨moduleKey.credential, key⟩ draws message)
      (sign ⟨(moduleKey.renamed rename).credential, key⟩ draws message) := by
  have signs := moduleKey.mirrors_sign hides draws (ModuleHash.sha256.digest message)
    (.pkcs1 .sha256)
  apply (mirrors_log _).bind
  intro _
  apply (signs.mapError _).bind
  intro signature
  exact mirrors_pure (SignatureNumber.ofBytes signature).bytes

end

end SealedKeys

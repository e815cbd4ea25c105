import SealedKeys.Proofs.SoftwareModule.Opened

/-!
The salt of a PSS signature, as a caller asks for it and as the module draws it.

Two computations give the length of a salt. A credential takes it from the public key that it
keeps, before it asks the module; the module takes it from the private key. Since an opened
credential is backed by the module, both give the same length, so a length that the caller
insists on is refused without a command or it is the one used.
-/

namespace SealedKeys

namespace SoftwareModule

/-- The salt that a module uses for a PSS signature with a key, if one fits. -/
def saltUsed? (draws : Draws) (key : Rsa.PrivateKey) (hash : ModuleHash) : Option Bytes :=
  (Scheme.saltLength? ⟨.pss, hash⟩ key.bits).map fun length => (draws.salt length).toList

theorem length_of_saltUsed? {key : Rsa.PrivateKey} {hash : ModuleHash} {length : Nat}
    (chosen : Scheme.saltLength? ⟨.pss, hash⟩ key.bits = some length) (draws : Draws) :
    ∃ salt, saltUsed? draws key hash = some salt ∧ salt.length = length := by
  refine ⟨(draws.salt length).toList, ?_, Vector.length_toList⟩
  rw [saltUsed?, chosen, Option.map_some]

/-- PSS signing with the salt that is used, or the failure of the module if none fits. -/
theorem signature_pss (draws : Draws) (key : Rsa.PrivateKey) (digest : Bytes)
    (hash : ModuleHash) :
    signature draws key digest ⟨.pss, hash⟩ =
      match saltUsed? draws key hash with
      | none => .error (misfit ⟨.pss, hash⟩ key)
      | some salt => (key.signPss hash digest salt).mapError fun fault =>
        .commandFailed (Scheme.name ⟨.pss, hash⟩ ++ " signing failed: " ++ fault.message) := by
  simp only [signature, saltUsed?]
  cases Scheme.saltLength? ⟨.pss, hash⟩ key.bits <;> rfl

theorem signature_pss_eq_misfit_iff (draws : Draws) (key : Rsa.PrivateKey) (digest : Bytes)
    (hash : ModuleHash) :
    signature draws key digest ⟨.pss, hash⟩ = .error (misfit ⟨.pss, hash⟩ key) ↔
      saltUsed? draws key hash = none := by
  rw [signature_pss]
  cases saltUsed? draws key hash with
  | none => simp only
  | some salt =>
    constructor
    · intro blamed
      rcases mapError_eq_error_iff.1 blamed with ⟨fault, -, told⟩
      cases told
    · intro unused
      cases unused

/-- No salt of any length fits a key for which the module finds none. -/
theorem saltUsed?_eq_none_iff (draws : Draws) (key : Rsa.PrivateKey) (hash : ModuleHash)
    (digest : Bytes) :
    saltUsed? draws key hash = none ↔
      ∀ salt : Bytes, Rsa.Pss.encode? hash.function digest salt (key.bits - 1) = none := by
  rw [saltUsed?, Option.map_eq_none_iff, Scheme.saltLength?_eq_none_iff]
  simp only [Rsa.Pss.encode?_eq_none_iff, ModuleHash.size_function]
  constructor
  · intro tight salt
    have short : Rsa.Pss.encodedLength (key.bits - 1) < hash.size + 2 := Nat.lt_of_not_le tight
    omega
  · intro none_fits fits
    have short := none_fits []
    have room : hash.size + 2 ≤ Rsa.Pss.encodedLength (key.bits - 1) := fits
    rw [List.length_nil] at short
    omega

section

variable {module left : SoftwareModule} {draws : Draws} {handle : Handle} {auth : AuthValue}
  {digest salt : Bytes} {hash : ModuleHash} {answer : Except ModuleError Bytes}
  {object : ModuleObject} {key : Rsa.PrivateKey}

/-- If a salt fits the RSA key at the handle, the scheme is never blamed. -/
theorem SignOutcome.ne_scheme
    (outcome : SignOutcome module draws handle auth digest ⟨.pss, hash⟩ answer left)
    (present : module.objects.get? handle = some object) (rsa : object.material = .rsa key)
    (used : saltUsed? draws key hash = some salt) (reason : String) :
    answer ≠ .error (.scheme reason) := by
  intro blamed
  cases outcome with
  | foreign found signs foreign =>
    cases present.symm.trans found
    exact foreign key rsa
  | tried asks =>
    cases present.symm.trans asks.present
    cases rsa.symm.trans asks.rsa
    rw [signature_pss, used] at blamed
    rcases mapError_eq_error_iff.1 blamed with ⟨fault, -, told⟩
    cases told
  | _ => cases blamed

/-- A PSS signature that is released was made with the salt that is used. -/
theorem SignOutcome.signPss_of_ok {bytes : Bytes}
    (outcome : SignOutcome module draws handle auth digest ⟨.pss, hash⟩ answer left)
    (present : module.objects.get? handle = some object) (rsa : object.material = .rsa key)
    (used : saltUsed? draws key hash = some salt) (signed : answer = .ok bytes) :
    key.signPss hash digest salt = .ok bytes := by
  cases outcome with
  | tried asks =>
    cases present.symm.trans asks.present
    cases rsa.symm.trans asks.rsa
    rw [signature_pss, used] at signed
    exact mapError_eq_ok_iff.1 signed
  | _ => cases signed

/-- A sign command was sent for a salt of a given length. The salt that the module uses has that
length, each signature is made with it, and the module never answers that the scheme does not
fit. -/
structure HonorsSalt (module : SoftwareModule) (draws : Draws) (handle : Handle)
    (auth : AuthValue) (digest : Bytes) (hash : ModuleHash) (key : Rsa.PrivateKey)
    (requested : Nat) (outcome : Outcome SoftwareModule Error Bytes) : Prop
    extends module.Sends draws handle auth digest ⟨.pss, hash⟩ outcome where
  salted : ∃ salt, saltUsed? draws key hash = some salt ∧ salt.length = requested ∧
    ∀ signature, outcome.answer = .ok signature → key.signPss hash digest salt = .ok signature
  ne_scheme : ∀ reason, outcome.answer ≠ .error (.module (.scheme reason))

theorem Sends.honorsSalt {requested : Nat} {outcome : Outcome SoftwareModule Error Bytes}
    (sends : module.Sends draws handle auth digest ⟨.pss, hash⟩ outcome)
    (present : module.objects.get? handle = some object) (rsa : object.material = .rsa key)
    (chosen : Scheme.saltLength? ⟨.pss, hash⟩ key.bits = some requested) :
    module.HonorsSalt draws handle auth digest hash key requested outcome := by
  rcases length_of_saltUsed? chosen draws with ⟨salt, used, length⟩
  have outcome := sign_outcome module draws handle auth digest ⟨.pss, hash⟩
  refine ⟨sends, ⟨salt, used, length, fun signature signed => ?_⟩, fun reason blamed => ?_⟩
  · rw [sends.answer_eq] at signed
    exact outcome.signPss_of_ok present rsa used (mapError_eq_ok_iff.1 signed)
  · rw [sends.answer_eq] at blamed
    rcases mapError_eq_error_iff.1 blamed with ⟨failure, answered, told⟩
    cases told
    exact outcome.ne_scheme present rsa used reason answered

end

section

variable {limit : UInt32} {earlier later : List Request} {handle : Handle} {auth : AuthValue}
  {moduleKey : ModuleKey} {events : List Event} {start : SoftwareModule}

/-- A salt length that a caller insists on is honored or refused.

A credential was opened after any run, and nothing has been taken out at its handle since. Of a
length other than the one the module uses for the stored private key, it says so and leaves the
module alone. Of that length, it sends the sign command, and the module uses exactly that many
bytes of salt; it cannot answer that the scheme does not fit the key. If the length is left to
the module, that is the answer to an authorized command on a digest of the right length exactly
when no salt at all fits the key. -/
theorem explicitSalt_exact
    (opened : (ModuleKey.ofHandle handle auth).run ((empty limit).after earlier) =
      ⟨.ok moduleKey, events, start⟩)
    (kept : ∀ exchange ∈ start.transcript later, exchange.evicted? ≠ some handle) :
    ∃ object key, (start.after later).objects.get? handle = some object ∧
      object.material = .rsa key ∧
      (∀ draws digest hash saltLength requested,
        SaltLength.requested? (ModuleHash.size hash) saltLength = some requested →
        (Scheme.saltLength? ⟨.pss, hash⟩ key.bits ≠ some requested →
          (moduleKey.sign draws digest (.pss ⟨hash.algorithm, saltLength⟩)).run
              (start.after later) =
            ⟨.error (.unsupportedSaltLength requested ⟨.pss, hash⟩ key.bits), [],
              start.after later⟩) ∧
        (Scheme.saltLength? ⟨.pss, hash⟩ key.bits = some requested →
          (start.after later).HonorsSalt draws handle auth digest hash key requested
            ((moduleKey.sign draws digest (.pss ⟨hash.algorithm, saltLength⟩)).run
              (start.after later)))) ∧
      (∀ draws digest hash, AsksAuth (start.after later) handle object key →
        object.auth.bytes = auth.bytes → digest.length = ModuleHash.size hash →
        (((moduleKey.sign draws digest (.pss ⟨hash.algorithm, .auto⟩)).run
              (start.after later)).answer = .error (.module (misfit ⟨.pss, hash⟩ key)) ↔
          ∀ salt : Bytes,
            Rsa.Pss.encode? hash.function digest salt (key.bits - 1) = none)) := by
  rcases ModuleKey.backedBy_of_opened opened kept with ⟨object, key, rfl, rfl, backed⟩
  refine ⟨object, key, backed.present, backed.rsa, ?_, ?_⟩
  · intro draws digest hash saltLength requested asked
    have selected := selectScheme_pss hash saltLength moduleKey.key.bits
    simp only [asked, backed.bits_eq] at selected
    constructor
    · intro differs
      rw [if_neg differs] at selected
      have run := moduleKey.run_sign draws digest (.pss ⟨hash.algorithm, saltLength⟩)
        (start.after later)
      simpa only [backed.bits_eq, selected] using run
    · intro chosen
      rw [if_pos chosen, ← backed.bits_eq] at selected
      have sends := sends_of_selectScheme selected (start.after later) draws digest
      exact sends.honorsSalt backed.present backed.rsa chosen
  · intro draws digest hash asks same length
    have selected := selectScheme_pss hash .auto moduleKey.key.bits
    have sends := sends_of_selectScheme selected (start.after later) draws digest
    have answered : (start.after later).signAnswer draws moduleKey.handle moduleKey.auth digest
        ⟨.pss, hash⟩ = signature draws key digest ⟨.pss, hash⟩ :=
      signAnswer_of_asksAuth asks same length draws
    rw [sends.answer_eq, answered]
    simp only [mapError_eq_error_iff, Error.module.injEq, exists_eq_right]
    exact (signature_pss_eq_misfit_iff draws key digest hash).trans
      (saltUsed?_eq_none_iff draws key hash digest)

end

/-- A credential is opened on a key of 363 bits, and then somebody fails to sign with the key.
After that a salt of five bytes for SHA-1 is refused, and one as long as the digest is used. -/
theorem explicitSalt_exact_shortKey :
    ∃ moduleKey events start,
      (ModuleKey.ofHandle Sample.handle Sample.secret).run (Sample.holding Sample.shortKey) =
        ⟨.ok moduleKey, events, start⟩ ∧
      (moduleKey.sign (.ofSeed []) Sample.digest (.pss ⟨.sha1, .bytes 5⟩)).run
          (start.after [Sample.sign Sample.otherSecret]) =
        ⟨.error (.unsupportedSaltLength 5 ⟨.pss, .sha1⟩ Sample.shortKey.bits), [],
          start.after [Sample.sign Sample.otherSecret]⟩ ∧
      (start.after [Sample.sign Sample.otherSecret]).HonorsSalt (.ofSeed []) Sample.handle
        Sample.secret Sample.digest .sha1 Sample.shortKey 20
        ((moduleKey.sign (.ofSeed []) Sample.digest (.pss ⟨.sha1, .equalsHash⟩)).run
          (start.after [Sample.sign Sample.otherSecret])) := by
  have fits := Sample.declarable_shortKey
  rcases Sample.run_ofHandle_holding fits (by decide +kernel) with ⟨events, opened⟩
  have kept : ∀ exchange ∈ (Sample.holding Sample.shortKey).counted.transcript
      [Sample.sign Sample.otherSecret], exchange.evicted? ≠ some Sample.handle := by
    intro exchange member told
    cases List.mem_singleton.1 member
    cases told
  rcases explicitSalt_exact opened kept with ⟨object, key, present, rsa, asked, -⟩
  have loaded : (Sample.holding Sample.shortKey).counted.objects.get? Sample.handle =
      some (Sample.object Sample.shortKey) := Sample.get?_holding fits
  cases present.symm.trans (get?_after_of_not_evicted loaded kept)
  have own : Sample.shortKey = key := KeyMaterial.rsa.inj rsa
  subst own
  refine ⟨_, events, _, opened, ?_, ?_⟩
  · exact (asked (.ofSeed []) Sample.digest .sha1 (.bytes 5) 5 rfl).1 (by decide +kernel)
  · exact (asked (.ofSeed []) Sample.digest .sha1 .equalsHash 20 rfl).2 (by decide +kernel)

end SoftwareModule

end SealedKeys

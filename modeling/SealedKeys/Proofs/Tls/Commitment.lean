import SealedKeys.Proofs.SoftwareModule.Opened
import SealedKeys.Tls.SigningKey

/-!
What a TLS key commits itself to.

When a peer's offer is met, the key has promised a signature under the scheme that was chosen. A
PSS scheme is chosen only if it fits the key, so that promise is always kept. The PKCS#1 v1.5
schemes are chosen without a look at the size of the key; there the promise is kept exactly if the
key has room for the encoding, and broken otherwise although a shorter digest may have been
offered as well.
-/

namespace SealedKeys

namespace Tls

open SoftwareModule

/-- The scheme that a module is told. -/
def SignatureScheme.moduleScheme (scheme : SignatureScheme) : Scheme :=
  ⟨scheme.padding, scheme.hash⟩

theorem length_digest_moduleScheme (scheme : SignatureScheme) (message : Bytes) :
    (scheme.hash.digest message).length = scheme.moduleScheme.hash.size :=
  ModuleHash.length_digest scheme.hash message

/-- No scheme of TLS hashes with SHA-1, so all PKCS#1 v1.5 encodings have thirty bytes beside the
digest. -/
theorem fits_pkcs1_iff {scheme : SignatureScheme} {key : Rsa.PrivateKey}
    (pkcs1 : scheme.padding = .pkcs1) :
    scheme.moduleScheme.Fits key.bits ↔ scheme.hash.size + 30 ≤ key.size := by
  have marked : Scheme.markLength scheme.hash = 19 := by cases scheme <;> rfl
  have room : scheme.moduleScheme.Fits key.bits ↔
      Scheme.markLength scheme.hash + scheme.hash.size + 11 ≤ key.size := by
    simp only [SignatureScheme.moduleScheme, pkcs1]
    exact Iff.rfl
  rw [room, marked]
  omega

section

variable {keyBits : Nat} {scheme : SignatureScheme}

/-- A PSS scheme is supported if the module salts with as many bytes as the digest has. -/
theorem saltLength?_of_supports (supported : SigningKey.supports keyBits scheme = true)
    (pss : scheme.padding = .pss) :
    Scheme.saltLength? ⟨.pss, scheme.hash⟩ keyBits = some scheme.hash.size := by
  simp only [SigningKey.supports, pss] at supported
  exact eq_of_beq supported

/-- The credential never refuses the options of a scheme that the key supports. -/
theorem selectScheme_options (supported : SigningKey.supports keyBits scheme = true) :
    selectScheme scheme.options keyBits = .ok scheme.moduleScheme := by
  cases padding : scheme.padding with
  | pkcs1 =>
    simp only [SignatureScheme.options, SignatureScheme.moduleScheme, padding]
    exact selectScheme_pkcs1 scheme.hash keyBits
  | pss =>
    have chosen := saltLength?_of_supports supported padding
    have selected := selectScheme_pss scheme.hash .equalsHash keyBits
    simp only [SaltLength.requested?, if_pos chosen] at selected
    simp only [SignatureScheme.options, SignatureScheme.moduleScheme, padding]
    exact selected

/-- A PSS scheme that is supported fits the key. -/
theorem fits_of_supports (supported : SigningKey.supports keyBits scheme = true)
    (pss : scheme.padding = .pss) : scheme.moduleScheme.Fits keyBits := by
  by_contra tight
  simp only [SignatureScheme.moduleScheme, pss] at tight
  have unsalted := (Scheme.saltLength?_eq_none_iff scheme.hash keyBits).2 tight
  cases unsalted.symm.trans (saltLength?_of_supports supported pss)

/-- What is chosen was offered and is supported. -/
theorem supports_of_choose? {offered : List Nat}
    (chosen : SigningKey.choose? keyBits offered = some scheme) :
    scheme.code ∈ offered ∧ SigningKey.supports keyBits scheme = true := by
  have found := List.find?_some chosen
  rw [Bool.and_eq_true, List.contains_iff_mem] at found
  exact found

end

section

variable {State : Type} {key : SigningKey State} {offered : List Nat} {signer : Signer State}

theorem answer_negotiate (key : SigningKey State) (offered : List Nat) (state : State) :
    ((key.negotiate offered).run state).answer = .ok (key.signer? offered) := by
  unfold SigningKey.negotiate
  cases key.signer? offered <;> rfl

/-- Negotiation gives a signer for the scheme that is chosen, with the credential of the key. -/
theorem choose?_of_negotiate {state : State}
    (negotiated : ((key.negotiate offered).run state).answer = .ok (some signer)) :
    SigningKey.choose? key.keyBits offered = some signer.scheme ∧
      signer.credential = key.credential := by
  rw [answer_negotiate] at negotiated
  have met : key.signer? offered = some signer := Except.ok.inj negotiated
  rcases Option.map_eq_some_iff.1 met with ⟨scheme, chosen, rfl⟩
  exact ⟨chosen, rfl⟩

/-- A TLS key made of a module key negotiates what the size of that key allows. -/
theorem negotiates_of_choose? [SecureModule State] {moduleKey : ModuleKey}
    {scheme : SignatureScheme}
    (chosen : SigningKey.choose? moduleKey.key.bits offered = some scheme) (state : State) :
    ∃ tlsKey : SigningKey State,
      SigningKey.ofCredential? moduleKey.credential = .ok tlsKey ∧
      ((tlsKey.negotiate offered).run state).answer =
        .ok (some ⟨moduleKey.credential, scheme⟩) := by
  refine ⟨⟨moduleKey.credential, moduleKey.key.bits⟩, rfl, ?_⟩
  rw [answer_negotiate, SigningKey.signer?, chosen, Option.map_some]

end

section

variable {module : SoftwareModule} {moduleKey : ModuleKey} {object : ModuleObject}
  {key : Rsa.PrivateKey} {offered : List Nat} {scheme : SignatureScheme}

/-- How a failure of the module is told to the TLS peer. -/
def tellSigning (failure : ModuleError) : TlsError :=
  .general ("module signing failed: " ++ (Error.module failure).message)

/-- The signer for a chosen scheme answers what the RSA operation gives for the digest of the
message. -/
theorem answer_of_choose? (asks : module.AsksAuth moduleKey.handle object key)
    (same : object.auth.bytes = moduleKey.auth.bytes)
    (chosen : SigningKey.choose? moduleKey.key.bits offered = some scheme) (draws : Draws)
    (message : Bytes) :
    ((Signer.sign ⟨moduleKey.credential, scheme⟩ draws message).run module).answer =
      (signature draws key (scheme.hash.digest message)
        scheme.moduleScheme).mapError tellSigning := by
  have selected := selectScheme_options (supports_of_choose? chosen).2
  have sends := sends_of_selectScheme selected module draws
    (scheme.hash.digest message)
  have length := length_digest_moduleScheme scheme message
  have answered := signAnswer_of_asksAuth asks same length draws
  change Except.mapError _ ((moduleKey.sign draws (scheme.hash.digest message)
    scheme.options).run module).answer = _
  rw [sends.answer_eq, answered]
  cases signature draws key (scheme.hash.digest message) scheme.moduleScheme <;> rfl

/-- If the scheme does not fit the key, the signer fails. -/
theorem answer_of_not_fits (asks : module.AsksAuth moduleKey.handle object key)
    (same : object.auth.bytes = moduleKey.auth.bytes)
    (chosen : SigningKey.choose? moduleKey.key.bits offered = some scheme)
    (tight : ¬ scheme.moduleScheme.Fits key.bits) (draws : Draws) (message : Bytes) :
    ((Signer.sign ⟨moduleKey.credential, scheme⟩ draws message).run module).answer =
      .error (tellSigning (misfit scheme.moduleScheme key)) := by
  have length := length_digest_moduleScheme scheme message
  rw [answer_of_choose? asks same chosen draws message,
    signature_of_not_fits length tight draws]
  rfl

/-- If the scheme fits a key with prime factors, the signer succeeds. -/
theorem answer_of_fits (asks : module.AsksAuth moduleKey.handle object key)
    (same : object.auth.bytes = moduleKey.auth.bytes)
    (chosen : SigningKey.choose? moduleKey.key.bits offered = some scheme)
    (primes : key.OfPrimes) (fits : scheme.moduleScheme.Fits key.bits) (draws : Draws)
    (message : Bytes) :
    ∃ signature,
      ((Signer.sign ⟨moduleKey.credential, scheme⟩ draws message).run module).answer =
        .ok signature ∧ signature.length = key.size := by
  have length := length_digest_moduleScheme scheme message
  rcases signature_of_fits primes length fits draws with ⟨signature, signed, size⟩
  refine ⟨signature, ?_, size⟩
  rw [answer_of_choose? asks same chosen draws message, signed]
  rfl

end

/-- What is told of a PKCS#1 v1.5 scheme that does not fit the key. -/
theorem tellSigning_misfit {scheme : SignatureScheme} (pkcs1 : scheme.padding = .pkcs1)
    (key : Rsa.PrivateKey) :
    tellSigning (misfit scheme.moduleScheme key) =
      .general ("module signing failed: secure module error: command failed: "
        ++ (scheme.moduleScheme.name ++ " signing failed: message too long")) := by
  have blamed : misfit scheme.moduleScheme key =
      .commandFailed (scheme.moduleScheme.name ++ " signing failed: message too long") := by
    simp only [misfit, SignatureScheme.moduleScheme, pkcs1]
  have worded : ∀ reason, (Error.module (.commandFailed reason)).message =
      "secure module error: " ++ ("command failed: " ++ reason) := fun _ => rfl
  rw [blamed, tellSigning, worded]
  simp only [← String.append_assoc, String.reduceAppend]

section

variable {limit : UInt32} {earlier later : List Request} {handle : Handle}
  {auth : AuthValue} {moduleKey : ModuleKey} {events : List Event} {start found : SoftwareModule}
  {object : ModuleObject} {key : Rsa.PrivateKey} {tlsKey : SigningKey SoftwareModule}
  {offered : List Nat} {signer : Signer SoftwareModule}

/-- What a signer keeps of its promise.

A credential was opened after any run, and nothing has been taken out at its handle since; the
object is an RSA key with prime factors that may sign, it was opened with its authorization value,
and the module is not locked out. Whatever a peer offered, if a scheme was chosen and it is a PSS
scheme, then signing any message succeeds. If it is a PKCS#1 v1.5 scheme, signing succeeds exactly
if the key has room for the encoding, thirty bytes more than the digest. -/
theorem commitment_exact
    (opened : (ModuleKey.ofHandle handle auth).run ((empty limit).after earlier) =
      ⟨.ok moduleKey, events, start⟩)
    (kept : ∀ exchange ∈ start.transcript later, exchange.evicted? ≠ some handle)
    (asks : (start.after later).AsksAuth handle object key)
    (same : object.auth.bytes = auth.bytes) (primes : key.OfPrimes)
    (adapted : SigningKey.ofCredential? moduleKey.credential = .ok tlsKey)
    (negotiated : ((tlsKey.negotiate offered).run found).answer = .ok (some signer))
    (draws : Draws) (message : Bytes) :
    (signer.scheme.padding = .pss ∨ signer.scheme.hash.size + 30 ≤ key.size →
      ∃ signature,
        ((signer.sign draws message).run (start.after later)).answer = .ok signature ∧
        signature.length = key.size) ∧
    (signer.scheme.padding = .pkcs1 → key.size < signer.scheme.hash.size + 30 →
      ((signer.sign draws message).run (start.after later)).answer =
        .error (.general ("module signing failed: secure module error: command failed: "
          ++ (signer.scheme.moduleScheme.name ++ " signing failed: message too long")))) := by
  rcases ModuleKey.backedBy_of_opened opened kept with ⟨read, own, rfl, rfl, backed⟩
  cases backed.present.symm.trans asks.present
  cases backed.rsa.symm.trans asks.rsa
  cases adapted
  rcases signer with ⟨credential, scheme⟩
  rcases choose?_of_negotiate negotiated with ⟨chosen, rfl⟩
  have supported := (supports_of_choose? chosen).2
  rw [backed.bits_eq] at supported
  constructor
  · intro room
    have fits : scheme.moduleScheme.Fits key.bits := by
      cases padding : scheme.padding with
      | pss => exact fits_of_supports supported padding
      | pkcs1 =>
        have enough : scheme.hash.size + 30 ≤ key.size := room.resolve_left (by simp [padding])
        exact (fits_pkcs1_iff padding).2 enough
    exact answer_of_fits asks same chosen primes fits draws message
  · intro padding small
    have tight : ¬ scheme.moduleScheme.Fits key.bits := by
      intro fits
      exact Nat.not_le_of_lt small ((fits_pkcs1_iff padding).1 fits)
    rw [answer_of_not_fits asks same chosen tight draws message, tellSigning_misfit padding]

end

/-- A peer offers PSS over SHA-256 to a key of 648 bits, beside a scheme for which the key has no
room. The PSS scheme is chosen, and every message is signed. -/
theorem commitment_exact_primeKey :
    ∃ moduleKey events start tlsKey signer,
      (ModuleKey.ofHandle Sample.handle Sample.secret).run (Sample.holding Sample.primeKey) =
        ⟨.ok moduleKey, events, start⟩ ∧
      SigningKey.ofCredential? moduleKey.credential = .ok tlsKey ∧
      ((tlsKey.negotiate [0x0601, 0x0804]).run start).answer = .ok (some signer) ∧
      signer.scheme = .pssSha256 ∧
      ∀ draws message, ∃ signature,
        ((signer.sign draws message).run start).answer = .ok signature ∧
        signature.length = Sample.primeKey.size := by
  have fits := Sample.declarable_primeKey
  have bits_le : Sample.primeKey.bits ≤ Rsa.maxModulusBits := by decide +kernel
  have primes := Sample.primeKey_ofPrimes
  have chosen : SigningKey.choose? Sample.primeKey.bits [0x0601, 0x0804] = some .pssSha256 := by
    decide +kernel
  -- Nothing else of the key matters, and its numbers are too large to be unfolded.
  generalize Sample.primeKey = key at *
  rw [← Sample.bits_moduleKey key bits_le] at chosen
  rcases Sample.run_ofHandle_holding fits bits_le with ⟨events, opened⟩
  rcases negotiates_of_choose? chosen (Sample.holding key).counted with
    ⟨tlsKey, adapted, negotiated⟩
  have kept : ∀ exchange ∈ (Sample.holding key).counted.transcript [],
      exchange.evicted? ≠ some Sample.handle := by
    intro exchange member
    cases member
  refine ⟨_, events, _, tlsKey, _, opened, adapted, negotiated, rfl, fun draws message => ?_⟩
  exact (commitment_exact opened kept (Sample.asksAuth_holding fits) rfl primes adapted negotiated
    draws message).1 (.inl rfl)

/-- The room cannot be dropped: a key of 648 bits, everything else being in order, commits itself
to PKCS#1 v1.5 over SHA-512 if a peer offers that, and then signs no message. -/
theorem commitment_broken :
    ∃ moduleKey events start tlsKey signer,
      Sample.primeKey.OfPrimes ∧
      (ModuleKey.ofHandle Sample.handle Sample.secret).run (Sample.holding Sample.primeKey) =
        ⟨.ok moduleKey, events, start⟩ ∧
      start.AsksAuth Sample.handle (Sample.object Sample.primeKey) Sample.primeKey ∧
      (Sample.object Sample.primeKey).auth = Sample.secret ∧
      SigningKey.ofCredential? moduleKey.credential = .ok tlsKey ∧
      ((tlsKey.negotiate [0x0601]).run start).answer = .ok (some signer) ∧
      ∀ draws message, ((signer.sign draws message).run start).answer =
        .error (.general ("module signing failed: secure module error: command failed: "
          ++ "RSASSA-PKCS1-v1_5/SHA-512 signing failed: message too long")) := by
  have fits := Sample.declarable_primeKey
  have bits_le : Sample.primeKey.bits ≤ Rsa.maxModulusBits := by decide +kernel
  have primes := Sample.primeKey_ofPrimes
  have chosen : SigningKey.choose? Sample.primeKey.bits [0x0601] = some .pkcs1Sha512 := by
    decide +kernel
  have tight : ¬ (SignatureScheme.moduleScheme .pkcs1Sha512).Fits Sample.primeKey.bits := by
    decide +kernel
  generalize Sample.primeKey = key at *
  rw [← Sample.bits_moduleKey key bits_le] at chosen
  have asks := Sample.asksAuth_holding fits
  rcases Sample.run_ofHandle_holding fits bits_le with ⟨events, opened⟩
  rcases negotiates_of_choose? chosen (Sample.holding key).counted with
    ⟨tlsKey, adapted, negotiated⟩
  refine ⟨_, events, _, tlsKey, _, primes, opened, asks, rfl, adapted, negotiated,
    fun draws message => ?_⟩
  have worded : (SignatureScheme.moduleScheme .pkcs1Sha512).name
      ++ " signing failed: message too long" =
        "RSASSA-PKCS1-v1_5/SHA-512 signing failed: message too long" := by
    decide +kernel
  rw [answer_of_not_fits asks rfl chosen tight draws message, tellSigning_misfit rfl, worded]

end Tls

end SealedKeys

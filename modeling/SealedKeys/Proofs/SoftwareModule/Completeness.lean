import SealedKeys.Proofs.Rsa.Encoding
import SealedKeys.Proofs.SoftwareModule.Transcript

/-!
When a module signs.

What may be held against a sign command stands in one list, in the order in which it is looked
for; the first objection that applies is the answer. If none applies, only the padding is left to
decide: for a key with prime factors there is a signature exactly if the encoding fits the
modulus (`Scheme.Fits`), whatever the digest and the salt. `sign_exact` puts both together.
-/

namespace SealedKeys

namespace Scheme

/-- The number of bytes that a PKCS#1 v1.5 encoding has between the filler and the digest. -/
def markLength : ModuleHash → Nat
  | .sha1 => 15
  | .sha256 | .sha384 | .sha512 => 19

/-- An encoding under the scheme fits a modulus of the given number of bits. -/
def Fits (scheme : Scheme) (modulusBits : Nat) : Prop :=
  match scheme.padding with
  | .pkcs1 => markLength scheme.hash + scheme.hash.size + 11 ≤ (modulusBits + 7) / 8
  | .pss => scheme.hash.size + 2 ≤ (modulusBits - 1 + 7) / 8

-- What PKCS#1 v1.5 asks of a modulus, in bytes.
example : ModuleHash.all.map (fun hash => markLength hash + hash.size + 11) = [46, 62, 78, 94] :=
  rfl

instance (scheme : Scheme) (modulusBits : Nat) : Decidable (scheme.Fits modulusBits) :=
  match scheme with
  | ⟨.pkcs1, _⟩ => inferInstanceAs (Decidable (_ ≤ _))
  | ⟨.pss, _⟩ => inferInstanceAs (Decidable (_ ≤ _))

theorem length_mark (hash : ModuleHash) : (Rsa.Pkcs1.mark hash).length = markLength hash := by
  cases hash <;> rfl

theorem saltLength?_eq_none_iff (hash : ModuleHash) (modulusBits : Nat) :
    saltLength? ⟨.pss, hash⟩ modulusBits = none ↔ ¬ Fits ⟨.pss, hash⟩ modulusBits := by
  have room : Fits ⟨.pss, hash⟩ modulusBits ↔ hash.size + 2 ≤ encodedLength modulusBits := Iff.rfl
  rw [room, Nat.not_le]
  simp only [saltLength?]
  split <;> simp_all

/-- The salt is as long as the digest exactly if the encoding has room for both. -/
theorem saltLength?_eq_size_iff (hash : ModuleHash) (modulusBits : Nat) :
    saltLength? ⟨.pss, hash⟩ modulusBits = some hash.size ↔
      2 * hash.size + 2 ≤ encodedLength modulusBits := by
  simp only [saltLength?]
  split
  · rename_i small
    constructor
    · intro told
      cases told
    · intro room
      omega
  · rw [Option.some.injEq]
    omega

/-- The salt that a module chooses leaves room for the digest. -/
theorem le_encodedLength_of_saltLength? {hash : ModuleHash} {modulusBits length : Nat}
    (chosen : saltLength? ⟨.pss, hash⟩ modulusBits = some length) :
    hash.size + length + 2 ≤ encodedLength modulusBits := by
  simp only [saltLength?] at chosen
  split at chosen
  · cases chosen
  · cases chosen
    omega

end Scheme

/-- The RSA key, for RSA material. -/
def KeyMaterial.rsa? : KeyMaterial → Option Rsa.PrivateKey
  | .rsa key => some key
  | _ => none

namespace SoftwareModule

section

variable (module : SoftwareModule) (draws : Draws) (handle : Handle) (auth : AuthValue)
  (digest : Bytes) (scheme : Scheme)

/-- The answer to a sign command. -/
def signAnswer : Except ModuleError Bytes :=
  ((sign draws handle auth digest scheme).run module).answer

/-- What may be held against signing with an object, in the order in which it is looked for:
whether it applies, and the failure that tells of it. -/
def objections (object : ModuleObject) : List (Bool × ModuleError) :=
  [(!object.area.attributes.sign, .attributes handle "signing"),
    (object.material.rsa?.isNone, .scheme (scheme.name ++ " requires an RSA key, handle "
      ++ handle.text ++ " holds " ++ object.material.describe)),
    (module.isLockedOut, .lockout),
    (!object.area.attributes.userWithAuth, .attributes handle "password authorization"),
    (decide (object.auth.bytes ≠ auth.bytes), .authFailure handle),
    (decide (digest.length ≠ scheme.hash.size),
      .digestSize scheme.hash.size digest.length)]

/-- The first objection to a sign command that applies. That there is no object comes before all
others. -/
def objection? : Option ModuleError :=
  match module.objects.get? handle with
  | none => some (.handleNotFound handle)
  | some object =>
    ((module.objections handle auth digest scheme object).find? Prod.fst).map Prod.snd

/-- What a module tells if an encoding does not fit a key. -/
def misfit (key : Rsa.PrivateKey) : ModuleError :=
  match scheme.padding with
  | .pkcs1 => .commandFailed (scheme.name ++ " signing failed: message too long")
  | .pss => .scheme (scheme.name ++ " does not fit a " ++ toString key.bits ++ "-bit key")

end

variable {module : SoftwareModule} {draws : Draws} {handle : Handle} {auth : AuthValue}
  {digest : Bytes} {scheme : Scheme}

/-- Nothing is held against a command with the right authorization value and a digest of the right
length, if the module asks for such a value. -/
theorem objection?_eq_none {object : ModuleObject} {key : Rsa.PrivateKey}
    (asks : AsksAuth module handle object key) (same : object.auth.bytes = auth.bytes)
    (length : digest.length = scheme.hash.size) :
    module.objection? handle auth digest scheme = none := by
  simp [objection?, asks.present, objections, asks.signs, asks.rsa, KeyMaterial.rsa?,
    asks.unlocked, asks.userWithAuth, same, length]

/-- The first objection is the answer; without one, the answer is that of the RSA operation. -/
theorem SignOutcome.answer_eq {answer : Except ModuleError Bytes} {left : SoftwareModule}
    (outcome : SignOutcome module draws handle auth digest scheme answer left) :
    match module.objection? handle auth digest scheme with
    | some failure => answer = .error failure
    | none => ∃ object key, AsksAuth module handle object key ∧
        digest.length = scheme.hash.size ∧ answer = signature draws key digest scheme := by
  cases outcome with
  | absent absent => simp only [objection?, absent]
  | unfit present unfit => simp [objection?, present, objections, unfit]
  | @foreign object reason present signs foreign told =>
    simp only [signingKey] at told
    cases material : object.material with
    | rsa key => exact absurd material (foreign key)
    | ecc curve => simp_all [objection?, objections, KeyMaterial.rsa?]
    | keyedHash => simp_all [objection?, objections, KeyMaterial.rsa?]
  | locked holds locked =>
    simp [objection?, holds.present, objections, holds.signs, holds.rsa, KeyMaterial.rsa?, locked]
  | closed holds unlocked closed =>
    simp [objection?, holds.present, objections, holds.signs, holds.rsa, KeyMaterial.rsa?,
      unlocked, closed]
  | wrongAuth asks differs =>
    simp [objection?, asks.present, objections, asks.signs, asks.rsa, KeyMaterial.rsa?,
      asks.unlocked, asks.userWithAuth, differs]
  | wrongLength asks same differs =>
    simp [objection?, asks.present, objections, asks.signs, asks.rsa, KeyMaterial.rsa?,
      asks.unlocked, asks.userWithAuth, same, differs]
  | @tried object key asks same length =>
    rw [objection?_eq_none asks same length]
    exact ⟨object, key, asks, length, rfl⟩

/-- If the encoding does not fit the key, whatever its factors, this is told. -/
theorem signature_of_not_fits {key : Rsa.PrivateKey} (length : digest.length = scheme.hash.size)
    (tight : ¬ scheme.Fits key.bits) (draws : Draws) :
    signature draws key digest scheme = .error (misfit scheme key) := by
  rcases scheme with ⟨padding, hash⟩
  cases padding with
  | pkcs1 =>
    have long : key.size < (Rsa.Pkcs1.mark hash).length + digest.length + 11 := by
      rw [Scheme.length_mark, length]
      exact Nat.lt_of_not_le tight
    have told : " signing failed: " ++ Rsa.SignFault.messageTooLong.message =
        " signing failed: message too long" := by decide
    simp only [signature, Rsa.PrivateKey.signPkcs1_eq_error long, misfit]
    rw [← told, ← String.append_assoc]
    rfl
  | pss =>
    have unsalted := (Scheme.saltLength?_eq_none_iff hash key.bits).2 tight
    simp only [signature, unsalted, misfit]

/-- If the encoding fits a key with prime factors, there is a signature as long as the modulus. -/
theorem signature_of_fits {key : Rsa.PrivateKey} (primes : key.OfPrimes)
    (length : digest.length = scheme.hash.size) (fits : scheme.Fits key.bits) (draws : Draws) :
    ∃ bytes, signature draws key digest scheme = .ok bytes ∧ bytes.length = key.size := by
  rcases scheme with ⟨padding, hash⟩
  cases padding with
  | pkcs1 =>
    have room : (Rsa.Pkcs1.mark hash).length + digest.length + 11 ≤ key.size := by
      rw [Scheme.length_mark, length]
      exact fits
    rcases Rsa.PrivateKey.signPkcs1_eq_ok primes room with ⟨bytes, signed, size⟩
    refine ⟨bytes, ?_, size⟩
    simp only [signature, signed]
    rfl
  | pss =>
    cases chosen : Scheme.saltLength? ⟨.pss, hash⟩ key.bits with
    | none => exact absurd fits ((Scheme.saltLength?_eq_none_iff hash key.bits).1 chosen)
    | some saltLength =>
      have room : hash.size + (draws.salt saltLength).toList.length + 2 ≤
          Rsa.Pss.encodedLength (key.bits - 1) := by
        rw [Vector.length_toList]
        exact Scheme.le_encodedLength_of_saltLength? chosen
      rcases Rsa.PrivateKey.signPss_eq_ok primes room digest with ⟨bytes, signed, size⟩
      refine ⟨bytes, ?_, size⟩
      simp only [signature, chosen, signed]
      rfl

theorem signAnswer_eq_of_objection? {failure : ModuleError}
    (applies : module.objection? handle auth digest scheme = some failure) (draws : Draws) :
    module.signAnswer draws handle auth digest scheme = .error failure := by
  have told := (sign_outcome module draws handle auth digest scheme).answer_eq
  rw [applies] at told
  exact told

theorem signAnswer_eq_signature (clear : module.objection? handle auth digest scheme = none)
    (draws : Draws) :
    ∃ object key, AsksAuth module handle object key ∧ digest.length = scheme.hash.size ∧
      module.signAnswer draws handle auth digest scheme = signature draws key digest scheme := by
  have told := (sign_outcome module draws handle auth digest scheme).answer_eq
  rw [clear] at told
  exact told

theorem signAnswer_of_asksAuth {object : ModuleObject} {key : Rsa.PrivateKey}
    (asks : AsksAuth module handle object key) (same : object.auth.bytes = auth.bytes)
    (length : digest.length = scheme.hash.size) (draws : Draws) :
    module.signAnswer draws handle auth digest scheme = signature draws key digest scheme := by
  have clear := objection?_eq_none asks same length
  rcases signAnswer_eq_signature clear draws with ⟨found, own, asked, -, answered⟩
  cases asks.present.symm.trans asked.present
  cases asks.rsa.symm.trans asked.rsa
  exact answered

/-- A digest of another length is held against a command after everything else was found right. -/
theorem signAnswer_of_length_ne {object : ModuleObject} {key : Rsa.PrivateKey}
    (asks : AsksAuth module handle object key) (same : object.auth.bytes = auth.bytes)
    (differs : digest.length ≠ scheme.hash.size) (draws : Draws) :
    module.signAnswer draws handle auth digest scheme =
      .error (.digestSize scheme.hash.size digest.length) := by
  apply signAnswer_eq_of_objection?
  simp [objection?, asks.present, objections, asks.signs, asks.rsa, KeyMaterial.rsa?,
    asks.unlocked, asks.userWithAuth, same, differs]

/-- That there is no object is told only where there is none: no later part of the command misses
what an earlier one has found. -/
theorem SignOutcome.absent_of_handleNotFound {answer : Except ModuleError Bytes}
    {left : SoftwareModule} {missing : Handle}
    (outcome : SignOutcome module draws handle auth digest scheme answer left)
    (told : answer = .error (.handleNotFound missing)) :
    module.objects.get? handle = none := by
  cases outcome with
  | absent absent => exact absent
  | tried =>
    rcases signature_blames told with ⟨reason, command | blamed⟩
    · cases command
    · cases blamed
  | _ => cases told

theorem signAnswer_handleNotFound_iff :
    (∃ missing, module.signAnswer draws handle auth digest scheme =
      .error (.handleNotFound missing)) ↔ module.objects.get? handle = none := by
  constructor
  · rintro ⟨missing, told⟩
    exact (sign_outcome module draws handle auth digest scheme).absent_of_handleNotFound told
  · intro absent
    refine ⟨handle, signAnswer_eq_of_objection? ?_ draws⟩
    simp only [objection?, absent]

/-- A module signs exactly when it should.

The first objection that applies is the answer. If none applies, the object is an RSA key, and
for a key with prime factors there is a signature, as long as the modulus, exactly if the
encoding fits; that it does not fit is told of every key. The RSA operation itself never fails
for an encoding of any digest, with any salt, and no object that was found is missed later. -/
theorem sign_exact (module : SoftwareModule) (draws : Draws) (handle : Handle) (auth : AuthValue)
    (digest : Bytes) (scheme : Scheme) :
    (∀ failure, module.objection? handle auth digest scheme = some failure →
      module.signAnswer draws handle auth digest scheme = .error failure) ∧
    (module.objection? handle auth digest scheme = none →
      ∃ object key, module.objects.get? handle = some object ∧ object.material = .rsa key ∧
        (key.OfPrimes →
          ((∃ signature, module.signAnswer draws handle auth digest scheme = .ok signature ∧
            signature.length = (bitLength key.modulus + 7) / 8) ↔ scheme.Fits key.bits)) ∧
        (¬ scheme.Fits key.bits →
          module.signAnswer draws handle auth digest scheme = .error (misfit scheme key))) ∧
    (∀ key : Rsa.PrivateKey, key.OfPrimes → ∀ hash digest salt encoded,
      (Rsa.Pkcs1.encode? hash digest key.size = some encoded ∨
        Rsa.Pss.encode? hash.function digest salt (key.bits - 1) = some encoded) →
      ∃ signature, key.signEncoded encoded = .ok signature) ∧
    ((∃ missing, module.signAnswer draws handle auth digest scheme =
      .error (.handleNotFound missing)) ↔ module.objects.get? handle = none) := by
  refine ⟨fun failure applies => signAnswer_eq_of_objection? applies draws, fun clear => ?_, ?_,
    signAnswer_handleNotFound_iff⟩
  · rcases signAnswer_eq_signature clear draws with ⟨object, key, asks, length, answered⟩
    refine ⟨object, key, asks.present, asks.rsa, fun primes => ?_, fun tight => ?_⟩
    · rw [answered]
      constructor
      · rintro ⟨bytes, signed, -⟩
        by_contra tight
        rw [signature_of_not_fits length tight draws] at signed
        cases signed
      · exact fun fits => signature_of_fits primes length fits draws
    · rw [answered, signature_of_not_fits length tight draws]
  · rintro key primes hash digest salt encoded (encodes | encodes)
    · have small := Rsa.PrivateKey.toNat_lt_modulus_of_pkcs1 encodes
      rcases Rsa.PrivateKey.signEncoded_eq_ok primes small with ⟨signature, signed, -⟩
      exact ⟨signature, signed⟩
    · have small := Rsa.PrivateKey.toNat_lt_modulus_of_pss encodes
      rcases Rsa.PrivateKey.signEncoded_eq_ok primes small with ⟨signature, signed, -⟩
      exact ⟨signature, signed⟩

/-- A key of 648 bits whose factors are prime. -/
def Sample.primeKey : Rsa.PrivateKey where
  p := 2 ^ 521 - 1
  q := 2 ^ 127 - 1
  others := []
  exponent := 65537
  privateExponent := (Rsa.inverse? 65537 (Nat.lcm (2 ^ 521 - 2) (2 ^ 127 - 2))).getD 0
  admissible := Sample.admissible_usual (by decide +kernel) (by decide +kernel)
  inverse := by decide +kernel

theorem Sample.primeKey_ofPrimes : Sample.primeKey.OfPrimes :=
  .of_two (lucas_lehmer_sufficiency 521 (by decide) (by norm_num))
    (lucas_lehmer_sufficiency 127 (by decide) (by norm_num)) (by decide +kernel) rfl

theorem Sample.declarable_primeKey : Declarable Sample.primeKey :=
  ⟨by decide +kernel, by decide +kernel⟩

/-- A key of 648 bits signs under PSS over SHA-256, which fits it, and not under PKCS#1 v1.5 over
SHA-512, which does not. -/
theorem sign_exact_primeKey :
    (∃ signature, (Sample.holding Sample.primeKey).signAnswer (.ofSeed []) Sample.handle
      Sample.secret (List.replicate 32 0) ⟨.pss, .sha256⟩ = .ok signature ∧
        signature.length = 81) ∧
    (Sample.holding Sample.primeKey).signAnswer (.ofSeed []) Sample.handle Sample.secret
      (List.replicate 64 0) ⟨.pkcs1, .sha512⟩ =
        .error (.commandFailed "RSASSA-PKCS1-v1_5/SHA-512 signing failed: message too long") := by
  constructor
  · obtain ⟨object, key, present, rsa, signs, -⟩ :=
      (sign_exact (Sample.holding Sample.primeKey) (.ofSeed []) Sample.handle Sample.secret
        (List.replicate 32 0) ⟨.pss, .sha256⟩).2.1 (by decide +kernel)
    rcases Sample.key_of_get?_holding Sample.declarable_primeKey present rsa with rfl
    obtain ⟨signature, signed, length⟩ :=
      (signs Sample.primeKey_ofPrimes).2 (by decide +kernel)
    refine ⟨signature, signed, length.trans ?_⟩
    decide +kernel
  · obtain ⟨object, key, present, rsa, -, tight⟩ :=
      (sign_exact (Sample.holding Sample.primeKey) (.ofSeed []) Sample.handle Sample.secret
        (List.replicate 64 0) ⟨.pkcs1, .sha512⟩).2.1 (by decide +kernel)
    rcases Sample.key_of_get?_holding Sample.declarable_primeKey present rsa with rfl
    exact (tight (by decide +kernel)).trans (by decide +kernel)

end SoftwareModule

end SealedKeys

import SealedKeys.Proofs.Credential
import SealedKeys.Proofs.PublicKey
import SealedKeys.Proofs.SoftwareModule.Release
import SealedKeys.Proofs.SoftwareModule.Standing

/-!
PKCS#1 v1.5 signatures of a module, seen by those who verify them.

Verification goes by what the module reports of the key. It accepts a released signature for the
hash and the digest that were signed and for no others, so one key never gives the same signature
twice for different ones. The factors of the key need not be prime for this.
-/

namespace SealedKeys

namespace SoftwareModule

/-- The public half of a stored RSA key is reported if it is not too large for a public key. -/
theorem reportedKey_of_bits_le {limit : UInt32} {requests : List Request} {handle : Handle}
    {object : ModuleObject} {key : Rsa.PrivateKey}
    (present : ((empty limit).after requests).objects.get? handle = some object)
    (rsa : object.material = .rsa key) (bits_le : key.bits ≤ Rsa.maxModulusBits) :
    ((empty limit).after requests).reportedKey handle =
      .ok (object.area, .rsa (key.publicKey bits_le)) := by
  have describes : object.area.Describes (.rsa key) := rsa ▸ describes_of_get? present
  rw [reportedKey_of_get? present, PublicArea.publicKey_of_describes describes bits_le]
  rfl

/-- Of a stored RSA key that is too large for a public key, none is reported. -/
theorem reportedKey_of_lt_bits {limit : UInt32} {requests : List Request} {handle : Handle}
    {object : ModuleObject} {key : Rsa.PrivateKey}
    (present : ((empty limit).after requests).objects.get? handle = some object)
    (rsa : object.material = .rsa key) (lt_bits : Rsa.maxModulusBits < key.bits) :
    ((empty limit).after requests).reportedKey handle = .error (PublicArea.malformed
      ("invalid RSA public key: " ++ Rsa.KeyFault.modulusTooLarge.message)) := by
  have describes : object.area.Describes (.rsa key) := rsa ▸ describes_of_get? present
  rw [reportedKey_of_get? present, PublicArea.publicKey_of_describes_of_lt describes lt_bits]
  rfl

theorem released_pkcs1 {module : SoftwareModule} {draws : Draws} {handle : Handle}
    {auth : AuthValue} {digest signature : Bytes} {hash : ModuleHash} {object : ModuleObject}
    {key : Rsa.PrivateKey} (present : module.objects.get? handle = some object)
    (rsa : object.material = .rsa key)
    (signed : module.reply (.sign draws handle auth digest ⟨.pkcs1, hash⟩) =
      .ok (.signature signature)) :
    digest.length = hash.size ∧ ∃ encoded,
      Rsa.Pkcs1.encode? hash digest key.size = some encoded ∧
      key.IsSignature encoded signature := by
  obtain ⟨found, own, encoded, asks, -, length, encodes, isSignature⟩ :=
    released (sign_outcome module draws handle auth digest ⟨.pkcs1, hash⟩)
      (reply_sign_eq_ok.1 signed)
  cases present.symm.trans asks.present
  cases rsa.symm.trans asks.rsa
  exact ⟨length, encoded, encodes, isSignature⟩

/-- A PKCS#1 v1.5 signature of a module is as long as the modulus and below it, opens to the
encoding of its digest, and is accepted for its own hash and digest alone.

The check goes by the modulus and the exponent in the public area that the module reports, for
keys of any size. The public key is reported too, and checks the same, unless the modulus is too
large for one. No other hash or digest leads the same key to the same signature, in whatever
module it is kept. -/
theorem verifies_pkcs1_iff {limit : UInt32} {requests : List Request} {handle : Handle}
    {object : ModuleObject} {key : Rsa.PrivateKey} {draws : Draws} {auth : AuthValue}
    {digest signature : Bytes} {hash : ModuleHash}
    (present : ((empty limit).after requests).objects.get? handle = some object)
    (rsa : object.material = .rsa key)
    (signed : ((empty limit).after requests).reply
      (.sign draws handle auth digest ⟨.pkcs1, hash⟩) = .ok (.signature signature)) :
    (∃ encoded, Rsa.Pkcs1.encode? hash digest key.size = some encoded ∧
      signature.length = (bitLength key.modulus + 7) / 8 ∧
      Bytes.toNat signature < key.modulus ∧
      Bytes.toNat signature ^ key.exponent % key.modulus = Bytes.toNat encoded) ∧
    (∃ area parameters,
      ((empty limit).after requests).reply (.readPublic handle) = .ok (.area area) ∧
      area.parameters = .rsa parameters ∧
      (∀ other candidate,
        Rsa.verifyPkcs1 (Bytes.toNat parameters.modulus) parameters.effectiveExponent other
          candidate signature = true ↔ other = hash ∧ candidate = digest) ∧
      (key.bits ≤ Rsa.maxModulusBits → ∃ publicKey,
        ((empty limit).after requests).reportedKey handle = .ok (area, .rsa publicKey) ∧
        ∀ other candidate,
          publicKey.verifies other none candidate signature = true ↔
            other = hash ∧ candidate = digest) ∧
      (Rsa.maxModulusBits < key.bits →
        ((empty limit).after requests).reportedKey handle = .error (PublicArea.malformed
          ("invalid RSA public key: " ++ Rsa.KeyFault.modulusTooLarge.message)))) ∧
    (∀ limit requests handle object draws auth digest' hash',
      ((empty limit).after requests).objects.get? handle = some object →
      object.material = .rsa key →
      ((empty limit).after requests).reply (.sign draws handle auth digest' ⟨.pkcs1, hash'⟩) =
        .ok (.signature signature) →
      hash' = hash ∧ digest' = digest) := by
  rcases released_pkcs1 present rsa signed with ⟨length, encoded, encodes, isSignature⟩
  have accepted := Rsa.verifyPkcs1_iff length encodes isSignature
  refine ⟨⟨encoded, encodes, isSignature.length_eq, isSignature.lt_modulus, isSignature.opens⟩,
    ?_, ?_⟩
  · have describes : object.area.Describes (.rsa key) := rsa ▸ describes_of_get? present
    rcases describes.rsa with ⟨parameters, told, -, modulus, exponent⟩
    refine ⟨object.area, parameters, reply_readPublic present, told, ?_, fun bits_le => ?_,
      reportedKey_of_lt_bits present rsa⟩
    · rw [modulus, exponent]
      exact accepted
    · exact ⟨key.publicKey bits_le, reportedKey_of_bits_le present rsa bits_le, accepted⟩
  · intro limit requests handle object draws auth digest' hash' present' rsa' signed'
    rcases released_pkcs1 present' rsa' signed' with ⟨length', encoded', encodes', isSignature'⟩
    have same : Bytes.toNat encoded = Bytes.toNat encoded' := by
      rw [← isSignature.opens, isSignature'.opens]
    exact Rsa.Pkcs1.encode?_inj_of_toNat encodes' encodes same.symm

/-- A module signs with a short key, and the public key that it reports accepts the signature for
the digest alone. -/
theorem verifies_pkcs1_iff_shortKey :
    ∃ signature area publicKey,
      (Sample.holding Sample.shortKey).reply (Sample.sign Sample.secret) =
        .ok (.signature signature) ∧
      (Sample.holding Sample.shortKey).reportedKey Sample.handle = .ok (area, .rsa publicKey) ∧
      ∀ other candidate,
        publicKey.verifies other none candidate signature = true ↔
          other = .sha1 ∧ candidate = Sample.digest := by
  have present := Sample.get?_holding Sample.declarable_shortKey
  obtain ⟨signature, signed⟩ : ∃ signature,
      (Sample.holding Sample.shortKey).reply (Sample.sign Sample.secret) =
        .ok (.signature signature) :=
    signature_of_isOk (by decide +kernel)
  rcases verifies_pkcs1_iff present rfl signed with ⟨-, ⟨area, parameters, -, -, -, reported, -⟩, -⟩
  rcases reported (by decide +kernel) with ⟨publicKey, told, accepts⟩
  exact ⟨signature, area, publicKey, signed, told, accepts⟩

/-- A key whose modulus has 4484 bits, the product of two Mersenne primes, the greater one first. -/
def Sample.longKey : Rsa.PrivateKey where
  p := 2 ^ 2281 - 1
  q := 2 ^ 2203 - 1
  others := []
  exponent := 65537
  privateExponent := (Rsa.inverse? 65537 (Nat.lcm (2 ^ 2281 - 2) (2 ^ 2203 - 2))).getD 0
  admissible := Sample.admissible_usual (by decide +kernel) (by decide +kernel)
  inverse := by decide +kernel

theorem Sample.declarable_longKey : Declarable Sample.longKey :=
  ⟨by decide +kernel, by decide +kernel⟩

theorem Sample.longKey_bits_gt : Rsa.maxModulusBits < Sample.longKey.bits := by
  decide +kernel

/-- The bound on the bits cannot be dropped: a module also signs with a key that is too large for
a public key, and then there is no reported key to accept the signature. -/
theorem signs_without_reportedKey :
    ∃ signature,
      (Sample.holding Sample.longKey).reply (Sample.sign Sample.secret) =
        .ok (.signature signature) ∧
      ¬ ∃ area publicKey,
        (Sample.holding Sample.longKey).reportedKey Sample.handle = .ok (area, .rsa publicKey) ∧
        ∀ other candidate,
          publicKey.verifies other none candidate signature = true ↔
            other = .sha1 ∧ candidate = Sample.digest := by
  obtain ⟨signature, signed⟩ : ∃ signature,
      (Sample.holding Sample.longKey).reply (Sample.sign Sample.secret) =
        .ok (.signature signature) :=
    signature_of_isOk (by decide +kernel)
  refine ⟨signature, signed, ?_⟩
  rintro ⟨area, publicKey, told, -⟩
  have present := Sample.get?_holding Sample.declarable_longKey
  cases (reportedKey_of_lt_bits present rfl Sample.longKey_bits_gt).symm.trans told

end SoftwareModule

end SealedKeys

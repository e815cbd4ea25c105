import SealedKeys.Proofs.Rsa.Salt
import SealedKeys.Proofs.SoftwareModule.Completeness
import SealedKeys.Proofs.SoftwareModule.Pkcs1

/-!
PSS signatures of a module, seen by those who verify them.

The verifier has to know the length of the salt. It computes it from the size of the key, as the
module does; a signature that was released is accepted for that length and for no other, whatever
salt was drawn. As with PKCS#1 v1.5, this needs neither prime factors nor anything of the hash
but its length, and verification goes by what the module reports of the key.
-/

namespace SealedKeys

namespace SoftwareModule

theorem released_pss {module : SoftwareModule} {draws : Draws} {handle : Handle}
    {auth : AuthValue} {digest signature : Bytes} {hash : ModuleHash} {object : ModuleObject}
    {key : Rsa.PrivateKey} (present : module.objects.get? handle = some object)
    (rsa : object.material = .rsa key)
    (signed : module.reply (.sign draws handle auth digest ⟨.pss, hash⟩) =
      .ok (.signature signature)) :
    digest.length = hash.size ∧ ∃ salt encoded : Bytes,
      Scheme.saltLength? ⟨.pss, hash⟩ key.bits = some salt.length ∧
      Rsa.Pss.encode? hash.function digest salt (key.bits - 1) = some encoded ∧
      key.IsSignature encoded signature := by
  obtain ⟨found, own, encoded, asks, -, length, encodes, isSignature⟩ :=
    released (sign_outcome module draws handle auth digest ⟨.pss, hash⟩)
      (reply_sign_eq_ok.1 signed)
  cases present.symm.trans asks.present
  cases rsa.symm.trans asks.rsa
  simp only [encodedMessage?] at encodes
  rcases Option.bind_eq_some_iff.1 encodes with ⟨saltLength, chosen, encoded_eq⟩
  refine ⟨length, (draws.salt saltLength).toList, encoded, ?_, encoded_eq, isSignature⟩
  rw [Vector.length_toList]
  exact chosen

section

variable {key : Rsa.PrivateKey} {hash : ModuleHash} {function : HashFunction}
  {digest salt encoded signature : Bytes}

/-- A signature on an encoding with a salt of the length that the module chooses is accepted for
that length alone. The hash may be any function. -/
theorem verifyPssWith_iff_saltLength? (length : digest.length = function.size)
    (chosen : Scheme.saltLength? ⟨.pss, hash⟩ key.bits = some salt.length)
    (encodes : Rsa.Pss.encode? function digest salt (key.bits - 1) = some encoded)
    (isSignature : key.IsSignature encoded signature) (expected : Nat) :
    Rsa.verifyPssWith function key.modulus key.exponent digest signature expected = true ↔
      Scheme.saltLength? ⟨.pss, hash⟩ (bitLength key.modulus) = some expected := by
  have bits : bitLength key.modulus = key.bits := rfl
  rw [Rsa.verifyPssWith_iff length encodes isSignature, bits, chosen, Option.some.injEq]
  exact eq_comm

end

/-- A PSS signature of a module is as long as the modulus, and is accepted for exactly one length
of the salt: the one that `Scheme.saltLength?` gives for the modulus.

The check goes by the modulus and the exponent in the public area that the module reports, for
keys of any size and any draws. The public key is reported too, and checks the same, unless the
modulus is too large for one. The same is true if the module's hash is exchanged for any other
function with digests of its length, in signing and in the check. -/
theorem verifies_pss_iff {limit : UInt32} {requests : List Request} {handle : Handle}
    {object : ModuleObject} {key : Rsa.PrivateKey} {draws : Draws} {auth : AuthValue}
    {digest signature : Bytes} {hash : ModuleHash}
    (present : ((empty limit).after requests).objects.get? handle = some object)
    (rsa : object.material = .rsa key)
    (signed : ((empty limit).after requests).reply
      (.sign draws handle auth digest ⟨.pss, hash⟩) = .ok (.signature signature)) :
    signature.length = (bitLength key.modulus + 7) / 8 ∧
    (∃ area parameters,
      ((empty limit).after requests).reply (.readPublic handle) = .ok (.area area) ∧
      area.parameters = .rsa parameters ∧
      (∀ expected,
        Rsa.verifyPss (Bytes.toNat parameters.modulus) parameters.effectiveExponent hash digest
          signature expected = true ↔
        Scheme.saltLength? ⟨.pss, hash⟩ (bitLength key.modulus) = some expected) ∧
      (key.bits ≤ Rsa.maxModulusBits → ∃ publicKey,
        ((empty limit).after requests).reportedKey handle = .ok (area, .rsa publicKey) ∧
        ∀ expected,
          publicKey.verifies hash (some expected) digest signature = true ↔
            Scheme.saltLength? ⟨.pss, hash⟩ (bitLength key.modulus) = some expected) ∧
      (Rsa.maxModulusBits < key.bits →
        ((empty limit).after requests).reportedKey handle = .error (PublicArea.malformed
          ("invalid RSA public key: " ++ Rsa.KeyFault.modulusTooLarge.message)))) ∧
    (∀ (function : HashFunction) (digest salt encoded signature : Bytes),
      function.size = hash.size → digest.length = hash.size →
      Scheme.saltLength? ⟨.pss, hash⟩ (bitLength key.modulus) = some salt.length →
      Rsa.Pss.encode? function digest salt (bitLength key.modulus - 1) = some encoded →
      key.signEncoded encoded = .ok signature →
      signature.length = (bitLength key.modulus + 7) / 8 ∧
      ∀ expected,
        Rsa.verifyPssWith function key.modulus key.exponent digest signature expected = true ↔
          Scheme.saltLength? ⟨.pss, hash⟩ (bitLength key.modulus) = some expected) := by
  rcases released_pss present rsa signed with
    ⟨length, salt, encoded, chosen, encodes, isSignature⟩
  have own_size : digest.length = hash.function.size := by rw [length, ModuleHash.size_function]
  have accepted := verifyPssWith_iff_saltLength? own_size chosen encodes isSignature
  refine ⟨isSignature.length_eq, ?_, ?_⟩
  · have describes : object.area.Describes (.rsa key) := rsa ▸ describes_of_get? present
    rcases describes.rsa with ⟨parameters, told, -, modulus, exponent⟩
    refine ⟨object.area, parameters, reply_readPublic present, told, ?_, fun bits_le => ?_,
      reportedKey_of_lt_bits present rsa⟩
    · rw [modulus, exponent, Rsa.verifyPss_eq]
      exact accepted
    · exact ⟨key.publicKey bits_le, reportedKey_of_bits_le present rsa bits_le, accepted⟩
  · intro function digest salt encoded signature size length chosen encodes released
    have isSignature := Rsa.PrivateKey.isSignature_of_signEncoded released
    have function_size : digest.length = function.size := length.trans size.symm
    exact ⟨isSignature.length_eq,
      verifyPssWith_iff_saltLength? function_size chosen encodes isSignature⟩

namespace Sample

/-- Asks for a PSS signature on sixty-four zero bytes, over SHA-512. -/
def signPss (auth : AuthValue) : Request :=
  .sign (.ofSeed []) handle auth (List.replicate 64 0) ⟨.pss, .sha512⟩

theorem signsPss_holding {key : Rsa.PrivateKey} (declarable : Declarable key)
    (primes : key.OfPrimes) (fits : Scheme.Fits ⟨.pss, .sha512⟩ key.bits) :
    ∃ signature, (holding key).reply (signPss secret) = .ok (.signature signature) := by
  have length : (List.replicate 64 (0 : UInt8)).length = ModuleHash.sha512.size := rfl
  rcases signature_of_fits primes length fits (.ofSeed []) with ⟨signature, signed, -⟩
  refine ⟨signature, reply_sign_eq_ok.2 ?_⟩
  rw [← signed]
  exact signAnswer_of_asksAuth (holding_asksAuth declarable) rfl length (.ofSeed [])

theorem longKey_ofPrimes : longKey.OfPrimes :=
  .of_two (lucas_lehmer_sufficiency 2281 (by decide) (by norm_num))
    (lucas_lehmer_sufficiency 2203 (by decide) (by norm_num)) (by decide +kernel) rfl

end Sample

/-- A module signs with a key of 648 bits, for which a salt of fifteen bytes leaves no zero byte in
the encoding. The public key that it reports accepts the signature for that length alone. -/
theorem verifies_pss_iff_tight :
    ∃ signature area publicKey,
      (Sample.holding Sample.primeKey).reply (Sample.signPss Sample.secret) =
        .ok (.signature signature) ∧
      (Sample.holding Sample.primeKey).reportedKey Sample.handle = .ok (area, .rsa publicKey) ∧
      ∀ expected,
        publicKey.verifies .sha512 (some expected) (List.replicate 64 0) signature = true ↔
          expected = 15 := by
  have declarable := Sample.declarable_primeKey
  have present := Sample.get?_holding declarable
  have fits : Scheme.Fits ⟨.pss, .sha512⟩ Sample.primeKey.bits := by decide +kernel
  have bits_le : Sample.primeKey.bits ≤ Rsa.maxModulusBits := by decide +kernel
  have chosen : Scheme.saltLength? ⟨.pss, .sha512⟩ (bitLength Sample.primeKey.modulus) =
      some 15 := by
    decide +kernel
  rcases Sample.signsPss_holding declarable Sample.primeKey_ofPrimes fits with ⟨signature, signed⟩
  rcases verifies_pss_iff present rfl signed with ⟨-, ⟨area, parameters, -, -, -, reported, -⟩, -⟩
  rcases reported bits_le with ⟨publicKey, told, accepts⟩
  refine ⟨signature, area, publicKey, signed, told, fun expected => ?_⟩
  rw [accepts expected, chosen, Option.some.injEq]
  exact eq_comm

/-- The bound on the bits cannot be dropped: with a key that is too large for a public key a
module also signs under PSS, and then there is no reported key to accept the signature for any
length of the salt. -/
theorem signsPss_without_reportedKey :
    ∃ signature,
      (Sample.holding Sample.longKey).reply (Sample.signPss Sample.secret) =
        .ok (.signature signature) ∧
      ¬ ∃ area publicKey,
        (Sample.holding Sample.longKey).reportedKey Sample.handle = .ok (area, .rsa publicKey) ∧
        ∀ expected,
          publicKey.verifies .sha512 (some expected) (List.replicate 64 0) signature = true ↔
            Scheme.saltLength? ⟨.pss, .sha512⟩ (bitLength Sample.longKey.modulus) =
              some expected := by
  have declarable := Sample.declarable_longKey
  have present := Sample.get?_holding declarable
  have fits : Scheme.Fits ⟨.pss, .sha512⟩ Sample.longKey.bits := by decide +kernel
  rcases Sample.signsPss_holding declarable Sample.longKey_ofPrimes fits with ⟨signature, signed⟩
  refine ⟨signature, signed, ?_⟩
  rintro ⟨area, publicKey, told, -⟩
  cases (reportedKey_of_lt_bits present rfl Sample.longKey_bits_gt).symm.trans told

end SoftwareModule

end SealedKeys

import SealedKeys.Proofs.SoftwareModule.Pkcs1

/-!
Public areas never lie.

Whatever a module has been asked before, the public area of each object agrees with its key
material, and the public key rebuilt from the area is the one that belongs to the material. The
area alone does not make a public key possible: a module also keeps RSA keys that are too large
for one, and of those it tells a true area from which nothing can be rebuilt.
-/

namespace SealedKeys

/-- RSA parameters agree with a key.

Size, modulus and exponent are those of the key. Only the usual exponent is written as zero, so
the field never holds the usual exponent itself, and the effective exponent loses nothing. -/
structure RsaParameters.AgreesWith (parameters : RsaParameters) (key : Rsa.PrivateKey) : Prop where
  keyBits_eq : parameters.keyBits = bitLength key.modulus
  keyBits_lt : parameters.keyBits < 2 ^ 16
  toNat_modulus : Bytes.toNat parameters.modulus = key.modulus
  no_leading_zero : parameters.modulus.head? ≠ some 0
  exponent_eq : parameters.exponent = if key.exponent = 65537 then 0 else key.exponent
  exponent_ne : parameters.exponent ≠ 65537
  effectiveExponent_eq : parameters.effectiveExponent = key.exponent
  exponent_lt : key.exponent < 2 ^ 32

namespace RsaParameters

theorem agreesWith_ofKey {key : Rsa.PrivateKey} (fits : SoftwareModule.Declarable key) :
    (ofKey key).AgreesWith key where
  keyBits_eq := rfl
  keyBits_lt := Nat.lt_succ_of_le fits.bits_le
  toNat_modulus := Bytes.toNat_minimal key.modulus
  no_leading_zero := Bytes.head?_minimal key.modulus
  exponent_eq := rfl
  exponent_ne := by
    change (if key.exponent = 65537 then 0 else key.exponent) ≠ 65537
    split
    · decide
    · assumption
  effectiveExponent_eq := by
    apply resolveExponent_written
    have atLeast := key.admissible.three_le_exponent
    omega
  exponent_lt := Nat.lt_succ_of_le fits.exponent_le

end RsaParameters

namespace PublicArea

/-- A public area agrees with key material, and the public key rebuilt from it is that of the
material. Of an elliptic curve key the area holds the point; the material keeps only the curve. -/
def Faithful (area : PublicArea) : KeyMaterial → Prop
  | .rsa key =>
    (∃ parameters, area.parameters = .rsa parameters ∧ parameters.AgreesWith key) ∧
    (key.bits ≤ Rsa.maxModulusBits → ∃ publicKey, area.publicKey = .ok (.rsa publicKey) ∧
      publicKey.modulus = key.modulus ∧ publicKey.exponent = key.exponent) ∧
    (Rsa.maxModulusBits < key.bits →
      area.publicKey = .error (malformed "invalid RSA public key: modulus too large"))
  | .ecc curve => curve = .nistP256 ∧ ∃ point : P256.Point,
    area.parameters = .ecc ⟨.nistP256, Bytes.ofNat 32 point.x, Bytes.ofNat 32 point.y⟩ ∧
    area.publicKey = .ok (.p256 point)
  | .keyedHash => area.parameters = .keyedHash ∧
    area.publicKey = .error (.unsupportedAlgorithm "KEYEDHASH")

/-- An area that describes key material is faithful to it. -/
theorem Describes.faithful {area : PublicArea} {material : KeyMaterial}
    (describes : area.Describes material) : area.Faithful material := by
  cases material with
  | rsa key =>
    refine ⟨⟨_, describes.2, RsaParameters.agreesWith_ofKey describes.1⟩, ?_, ?_⟩
    · intro bits_le
      exact ⟨key.publicKey bits_le, publicKey_of_describes describes bits_le, rfl, rfl⟩
    · intro lt_bits
      exact publicKey_of_describes_of_lt describes lt_bits
  | ecc curve =>
    rcases describes with ⟨supported, point, told⟩
    refine ⟨supported, point, told, ?_⟩
    have rebuilt := p256Key_written point
    simp only [publicKey, told, rebuilt, if_true]
  | keyedHash =>
    have told : area.parameters = .keyedHash := describes
    refine ⟨told, ?_⟩
    simp only [publicKey, algorithm, told]
    rfl

/-- Only from the area of an RSA key is an RSA key rebuilt, and it is that one. -/
theorem Faithful.rsa_of_publicKey {area : PublicArea} {material : KeyMaterial}
    {publicKey : Rsa.PublicKey} (faithful : area.Faithful material)
    (rebuilt : area.publicKey = .ok (.rsa publicKey)) :
    ∃ key, material = .rsa key ∧ publicKey.modulus = key.modulus := by
  cases material with
  | rsa key =>
    rcases faithful with ⟨-, small, large⟩
    rcases Nat.lt_or_ge Rsa.maxModulusBits key.bits with lt_bits | bits_le
    · cases (large lt_bits).symm.trans rebuilt
    · rcases small bits_le with ⟨found, told, modulus, -⟩
      cases told.symm.trans rebuilt
      exact ⟨key, rfl, modulus⟩
  | ecc curve =>
    rcases faithful with ⟨-, point, -, told⟩
    cases told.symm.trans rebuilt
  | keyedHash => cases faithful.2.symm.trans rebuilt

/-- No key material is told as a symmetric cipher. -/
theorem Describes.ne_symCipher {area : PublicArea} {material : KeyMaterial}
    (describes : area.Describes material) : area.parameters ≠ .symCipher := by
  intro symmetric
  cases material with
  | rsa key => cases symmetric.symm.trans describes.2
  | ecc curve =>
    rcases describes with ⟨-, point, told⟩
    cases symmetric.symm.trans told
  | keyedHash => cases symmetric.symm.trans describes

end PublicArea

namespace SoftwareModule

/-- An exponent above the field of a public area is refused, and nothing is loaded. -/
theorem loadExternal_refused {module : SoftwareModule} {handle : Handle} {key : Rsa.PrivateKey}
    (free : module.objects.get? handle = none) (large : 2 ^ 32 ≤ key.exponent)
    (auth : AuthValue) (attributes : Attributes) :
    module.reply (.loadExternal handle auth key attributes) =
        .error (.parameters "RSA exponent does not fit in 32 bits") ∧
      (module.next (.loadExternal handle auth key attributes)).objects = module.objects := by
  have refused : externalArea key attributes =
      .error (.parameters "RSA exponent does not fit in 32 bits") := by
    have above : maxDeclaredExponent < key.exponent := large
    exact if_pos above
  constructor
  · simp only [reply, Request.perform, Action.run_bind_pure, run_loadExternal, free, refused]
    rfl
  · simp only [next, Request.perform, Action.run_bind_pure, run_loadExternal, free, refused,
      counted_objects]

/-- After every run, the area that a module tells of an object is the one kept with it, is
faithful to the key material, and is not that of a symmetric cipher. At a free handle, a key whose
exponent has more than 32 bits is refused. -/
theorem publicAreas_faithful (limit : UInt32) (requests : List Request) :
    (∀ handle object, ((empty limit).after requests).objects.get? handle = some object →
      ((empty limit).after requests).reply (.readPublic handle) = .ok (.area object.area) ∧
      object.area.Faithful object.material ∧
      object.area.parameters ≠ .symCipher) ∧
    (∀ handle auth (key : Rsa.PrivateKey) attributes,
      ((empty limit).after requests).objects.get? handle = none → 2 ^ 32 ≤ key.exponent →
      ((empty limit).after requests).reply (.loadExternal handle auth key attributes) =
          .error (.parameters "RSA exponent does not fit in 32 bits") ∧
        (((empty limit).after requests).next (.loadExternal handle auth key attributes)).objects =
          ((empty limit).after requests).objects) := by
  constructor
  · intro handle object present
    have describes : object.area.Describes object.material := describes_of_get? present
    exact ⟨reply_readPublic present, describes.faithful, describes.ne_symCipher⟩
  · intro handle auth key attributes free large
    exact loadExternal_refused free large auth attributes

/-- The bound on the size cannot be dropped: from the area of a stored RSA key of 4484 bits no
public key is rebuilt. -/
theorem publicArea_longKey :
    ∃ object,
      (Sample.holding Sample.longKey).objects.get? Sample.handle = some object ∧
      object.material = .rsa Sample.longKey ∧
      (Sample.holding Sample.longKey).reply (.readPublic Sample.handle) =
        .ok (.area object.area) ∧
      object.area.publicKey = .error (.module (.malformedResponse
        "invalid RSA public key: modulus too large")) := by
  have present := Sample.get?_holding Sample.declarable_longKey
  have faithful := (describes_of_get? present).faithful
  exact ⟨_, present, rfl, reply_readPublic present, faithful.2.2 Sample.longKey_bits_gt⟩

end SoftwareModule

end SealedKeys

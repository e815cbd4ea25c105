import Mathlib.NumberTheory.LucasPrimality
import SealedKeys.CommandLine.Report
import SealedKeys.Proofs.Hex
import SealedKeys.Proofs.Provisioning
import SealedKeys.Proofs.SoftwareModule.Pss
import SealedKeys.Proofs.SoftwareModule.Salt

/-!
How the program comes out when it is to sign.

The program makes a key, has a digest signed with it, and checks the signature with the public half
before it prints it. For the check it works out the length of the salt once more, from the public
key that it rebuilt, while the module worked it out from the private key. Both come to the same, so
the check passes whatever was signed and whether or not the factors of the key are prime
(`verifies_of_signature`). That leaves three ways to fail: in the text of the digest, in the size of
the key, and in the length of the digest.
-/

namespace SealedKeys

namespace CommandLine

open SoftwareModule (signature supportedKeyBits)

/-! ## The check of a signature -/

theorem selectScheme_optionsOf (hash : ModuleHash) (padding : Padding) (keyBits : Nat) :
    selectScheme (optionsOf hash padding) keyBits = .ok ⟨padding, hash⟩ := by
  cases padding with
  | pkcs1 => exact selectScheme_pkcs1 hash keyBits
  | pss => exact selectScheme_pss hash .auto keyBits

/-- The length of the salt is worked out as the module does it. -/
theorem saltLengthOf_pss {hash : ModuleHash} {keyBits length : Nat}
    (chosen : Scheme.saltLength? ⟨.pss, hash⟩ keyBits = some length) :
    saltLengthOf (optionsOf hash .pss) keyBits = .ok (some length) := by
  have selected : selectScheme (.pss ⟨hash.algorithm, .auto⟩) keyBits = .ok ⟨.pss, hash⟩ :=
    selectScheme_optionsOf hash .pss keyBits
  simp only [saltLengthOf, optionsOf, SignOptions.padding, selected, Except.mapError]
  simp only [bind, Except.bind, chosen]
  rfl

/-- A signature of the module passes the check, with the salt as long as the module drew it. -/
theorem verifies_of_signature {draws : Draws} {key : Rsa.PrivateKey} {publicKey : Rsa.PublicKey}
    {digest bytes : Bytes} {hash : ModuleHash} {padding : Padding}
    (modulus_eq : publicKey.modulus = key.modulus) (exponent_eq : publicKey.exponent = key.exponent)
    (length : digest.length = hash.size)
    (signed : signature draws key digest ⟨padding, hash⟩ = .ok bytes) :
    ∃ saltLength, saltLengthOf (optionsOf hash padding) publicKey.bits = .ok saltLength ∧
      publicKey.verifies hash saltLength digest bytes = true := by
  rcases SoftwareModule.isSignature_of_signature signed with ⟨encoded, encodes, isSignature⟩
  have bits_eq : publicKey.bits = key.bits := congrArg bitLength modulus_eq
  cases padding with
  | pkcs1 =>
    refine ⟨none, rfl, ?_⟩
    rw [Rsa.PublicKey.verifies, modulus_eq, exponent_eq]
    exact (Rsa.verifyPkcs1_iff length encodes isSignature hash digest).2 ⟨rfl, rfl⟩
  | pss =>
    simp only [SoftwareModule.encodedMessage?] at encodes
    rcases Option.bind_eq_some_iff.1 encodes with ⟨saltLength, chosen, encoded_eq⟩
    refine ⟨some saltLength, ?_, ?_⟩
    · rw [bits_eq]
      exact saltLengthOf_pss chosen
    · have own_size : digest.length = hash.function.size := by
        rw [length, ModuleHash.size_function]
      rw [Rsa.PublicKey.verifies, modulus_eq, exponent_eq, Rsa.verifyPss_eq]
      exact (Rsa.verifyPssWith_iff own_size encoded_eq isSignature saltLength).2
        Vector.length_toList.symm

/-! ## The key -/

/-- The draws hold a key of the given size with prime factors. -/
def DrawsPrimes (draws : Draws) (bits : Nat) : Prop :=
  ∃ own, draws.rsaKey bits RsaParameters.defaultExponent = .ok own ∧ own.key.OfPrimes

theorem createdKey_of_supported {draws : Draws} {bits : Nat}
    {own : Rsa.KeyOfSize bits RsaParameters.defaultExponent} (supported : bits ∈ supportedKeyBits)
    (drawn : draws.rsaKey bits RsaParameters.defaultExponent = .ok own) :
    ∃ area, SoftwareModule.createdKey draws (.rsa bits) = .ok (.rsa own.key, area) := by
  have contains : supportedKeyBits.contains bits = true := List.contains_iff_mem.2 supported
  have small : ¬ SoftwareModule.maxDeclaredBits < own.key.bits := by
    have size : own.key.bits = bits := (Subtype.property own).1
    have le_max := SoftwareModule.le_maxModulusBits_of_supported supported
    have max_le : Rsa.maxModulusBits ≤ SoftwareModule.maxDeclaredBits := by decide
    omega
  have told : SoftwareModule.rsaArea own.key (0 : UInt32).toNat .sha256 .signingKey = .ok _ :=
    if_neg small
  have drawn : draws.rsaKey bits (RsaParameters.resolveExponent (0 : UInt32).toNat) = .ok own :=
    drawn
  rw [KeyTemplate.rsa, SoftwareModule.createdKey_rsa, contains, if_neg (by decide),
    if_neg (by decide), drawn]
  exact ⟨_, congrArg (Except.map _) told⟩

theorem createdKey_of_unsupported (draws : Draws) {bits : Nat}
    (unsupported : bits ∉ supportedKeyBits) :
    SoftwareModule.createdKey draws (.rsa bits) =
      .error (.parameters ("unsupported RSA key size " ++ toString bits)) := by
  have contains : supportedKeyBits.contains bits = false := by
    rwa [← Bool.not_eq_true, List.contains_iff_mem]
  rw [KeyTemplate.rsa, SoftwareModule.createdKey_rsa, if_pos contains]

variable {keyDraws saltDraws : Draws} {hash : ModuleHash} {padding : Padding} {text : String}
  {bits : Nat} {limit : UInt32}

/-- A key of a supported size is made and opened. -/
theorem run_provision_of_supported (supported : bits ∈ supportedKeyBits)
    (primes : DrawsPrimes keyDraws bits) (limit : UInt32) :
    ∃ moduleKey key events left,
      (ModuleKey.provision keyDraws keyHandle .empty (.rsa bits)).run (SoftwareModule.empty limit) =
        ⟨.ok moduleKey, events, left⟩ ∧
      SoftwareModule.Provisioned (.empty limit) left keyHandle .empty (.rsa bits) moduleKey key ∧
      key.bits = bits ∧ key.OfPrimes := by
  rcases primes with ⟨own, drawn, ofPrimes⟩
  rcases createdKey_of_supported supported drawn with ⟨area, made⟩
  have free : (SoftwareModule.empty limit).objects.get? keyHandle = none := rfl
  rcases SoftwareModule.run_provision_of_made free rfl made .empty with
    ⟨moduleKey, events, left, run, provisioned⟩
  exact ⟨moduleKey, own.key, events, left, run, provisioned, (Subtype.property own).1, ofPrimes⟩

/-- No key of another size is made, and the module stays empty. -/
theorem run_provision_of_unsupported (keyDraws : Draws) (unsupported : bits ∉ supportedKeyBits)
    (limit : UInt32) :
    ∃ events,
      (ModuleKey.provision keyDraws keyHandle .empty (.rsa bits)).run (SoftwareModule.empty limit) =
        ⟨.error (.module (.parameters ("unsupported RSA key size " ++ toString bits))), events,
          (SoftwareModule.empty limit).counted⟩ :=
  ⟨_, SoftwareModule.run_provision_of_refused rfl rfl
    (createdKey_of_unsupported keyDraws unsupported) .empty⟩

/-- The module that holds the key alone is not locked out, and asks for the empty value. -/
theorem asksAuth_of_provisioned {left : SoftwareModule} {moduleKey : ModuleKey}
    {key : Rsa.PrivateKey}
    (provisioned : SoftwareModule.Provisioned (.empty limit) left keyHandle .empty (.rsa bits)
      moduleKey key) :
    left.AsksAuth moduleKey.handle ⟨.rsa key, .empty, moduleKey.area⟩ key where
  present := by
    rw [provisioned.left_eq, provisioned.handle_eq, SoftwareModule.counted_objects,
      SoftwareModule.counted_objects, SoftwareModule.withObjects_objects,
      ObjectTable.get?_insert, if_pos rfl]
  signs := congrArg Attributes.sign provisioned.attributes_eq
  rsa := rfl
  unlocked := by
    rw [provisioned.left_eq, SoftwareModule.isLockedOut, decide_eq_false_iff_not]
    rintro ⟨positive, reached⟩
    exact absurd reached (UInt32.not_le.2 positive)
  userWithAuth := congrArg Attributes.userWithAuth provisioned.attributes_eq

/-- Every scheme fits every size of keys that the module creates. -/
theorem fits_of_supported (scheme : Scheme) (supported : bits ∈ supportedKeyBits) :
    scheme.Fits bits := by
  rcases scheme with ⟨padding, hash⟩
  revert bits
  cases padding <;> cases hash <;> decide

/-! ## The ways to end -/

/-- The ways in which signing ends: the answer, and the module that is left. -/
inductive SignEnding (hash : ModuleHash) (text : String) (bits : Nat) (limit : UInt32) :
    Except Failure (List String) → SoftwareModule → Prop where
  | unreadable {fault : Hex.Fault} (not_hex : ¬ Hex.IsHex text) :
    SignEnding hash text bits limit (.error (.digest fault)) (.empty limit)
  | unsupported {left : SoftwareModule} (isHex : Hex.IsHex text)
      (unsupported : bits ∉ [1024, 2048, 3072, 4096]) (objects_eq : left.objects = .empty) :
    SignEnding hash text bits limit
      (.error (.provisioning (.module
        (.parameters ("unsupported RSA key size " ++ toString bits))))) left
  | wrongLength {left : SoftwareModule} (isHex : Hex.IsHex text)
      (supported : bits ∈ [1024, 2048, 3072, 4096]) (differs : text.length / 2 ≠ hash.size) :
    SignEnding hash text bits limit
      (.error (.signing (.module (.digestSize hash.size (text.length / 2))))) left
  | signed {left : SoftwareModule} {line : String} (isHex : Hex.IsHex text)
      (supported : bits ∈ [1024, 2048, 3072, 4096]) (length : text.length / 2 = hash.size)
      (line_length : line.length = bits / 4)
      (digits : ∀ char ∈ line.toList, Hex.IsLowerDigit char) :
    SignEnding hash text bits limit (.ok [line]) left

/-- The line that is printed for a signature of a key with `bits` bits. -/
theorem length_encode_signature {key : Rsa.PrivateKey} {bytes : Bytes}
    (supported : bits ∈ supportedKeyBits) (size : key.bits = bits)
    (length : bytes.length = key.size) : (Hex.encode bytes).length = bits / 4 := by
  have written : key.size = (bits + 7) / 8 := congrArg (fun bits => (bits + 7) / 8) size
  rw [Hex.length_encode, length, written]
  clear written size
  revert bits
  decide

theorem signEnding (primes : bits ∈ supportedKeyBits → DrawsPrimes keyDraws bits)
    (saltDraws : Draws) (hash : ModuleHash) (padding : Padding) (text : String) (limit : UInt32) :
    let outcome := (signDigest keyDraws saltDraws hash padding text bits).run (.empty limit)
    SignEnding hash text bits limit outcome.answer outcome.state := by
  simp only [signDigest, provision, Action.run_ofExcept_bind]
  cases read : Hex.decode text with
  | error fault =>
    refine .unreadable fun isHex => ?_
    rcases Hex.isHex_iff.1 isHex with ⟨digest, told⟩
    cases told.symm.trans read
  | ok digest =>
    have ⟨isHex, text_length⟩ := Hex.isHex_of_decode read
    have digest_length : text.length / 2 = digest.length := by omega
    simp only [Except.mapError, Action.run_mapError_bind]
    by_cases supported : bits ∈ supportedKeyBits
    · rcases run_provision_of_supported supported (primes supported) limit with
        ⟨moduleKey, key, events, left, run, provisioned, size, ofPrimes⟩
      have asks := asksAuth_of_provisioned provisioned
      have same : AuthValue.empty.bytes = moduleKey.auth.bytes := by rw [provisioned.auth_eq]
      simp only [run, moduleKey.run_sign, selectScheme_optionsOf]
      by_cases length : digest.length = hash.size
      · have fits : Scheme.Fits ⟨padding, hash⟩ key.bits := size ▸ fits_of_supported _ supported
        rcases SoftwareModule.signature_of_fits ofPrimes length fits saltDraws with
          ⟨bytes, signed, bytes_length⟩
        rcases verifies_of_signature provisioned.modulus_eq provisioned.exponent_eq length signed
          with ⟨saltLength, recomputed, verifies⟩
        have sent : ((SecureModule.sign saltDraws moduleKey.handle moduleKey.auth digest
            ⟨padding, hash⟩).run left).answer = .ok bytes :=
          (SoftwareModule.signAnswer_of_asksAuth asks same length saltDraws).trans signed
        simp only [sent, Except.mapError, recomputed, verifies, Action.run_ofExcept_bind,
          Action.run_ensure_bind, Action.run_log_bind, if_true]
        exact .signed isHex supported (digest_length.trans length)
          (length_encode_signature supported size bytes_length)
          (Hex.isLowerDigit_of_mem_encode bytes)
      · have sent : ((SecureModule.sign saltDraws moduleKey.handle moduleKey.auth digest
            ⟨padding, hash⟩).run left).answer = .error (.digestSize hash.size digest.length) :=
          SoftwareModule.signAnswer_of_length_ne asks same length saltDraws
        simp only [sent, Except.mapError, ← digest_length]
        exact .wrongLength isHex supported (digest_length ▸ length)
    · rcases run_provision_of_unsupported keyDraws supported limit with ⟨events, run⟩
      rw [run]
      exact .unsupported isHex supported rfl

/-- The salt of a PSS signature with a key that was drawn is as long as the program expects it. -/
theorem saltLengthOf_eq_saltUsed? {own : Rsa.KeyOfSize bits RsaParameters.defaultExponent}
    (supported : bits ∈ supportedKeyBits) (saltDraws : Draws) (hash : ModuleHash) :
    ∃ salt, SoftwareModule.saltUsed? saltDraws own.key hash = some salt ∧
      saltLengthOf (optionsOf hash .pss) own.key.bits = .ok (some salt.length) := by
  have size : own.key.bits = bits := (Subtype.property own).1
  have fits := fits_of_supported ⟨.pss, hash⟩ supported
  rw [← size] at fits
  cases chosen : Scheme.saltLength? ⟨.pss, hash⟩ own.key.bits with
  | none => exact absurd fits ((Scheme.saltLength?_eq_none_iff hash own.key.bits).1 chosen)
  | some length =>
    rcases SoftwareModule.length_of_saltUsed? chosen saltDraws with ⟨salt, used, rfl⟩
    exact ⟨salt, used, saltLengthOf_pss chosen⟩

theorem report_of_ok {request : Request} {lines : List String}
    (answered : ((request.task.work keyDraws saltDraws).run
      (.empty request.maxAuthFailures)).answer = .ok lines) :
    let report := request.report keyDraws saltDraws
    report.exitCode = 0 ∧ report.output = lines ∧ report.errors = [] := by
  rw [Request.report, answered]
  exact ⟨rfl, rfl, rfl⟩

theorem report_of_error {request : Request} {failure : Failure}
    (answered : ((request.task.work keyDraws saltDraws).run
      (.empty request.maxAuthFailures)).answer = .error failure) :
    let report := request.report keyDraws saltDraws
    report.exitCode = 1 ∧ report.output = [] ∧ report.errors = failure.lines := by
  rw [Request.report, answered]
  exact ⟨rfl, rfl, rfl⟩

/-- How the program ends when it is to sign, for every hash and padding, text, size, limit of
authorization failures, and whatever salt is drawn.

A text that is not an even number of hexadecimal digits is refused before there is a key. Any other
size than the four that the module knows is refused by the module, and no key is made. A digest of
another length than that of the hash is refused by the module too, and told with both lengths.
Otherwise one line is printed, with two digits for each byte of the modulus. In no case does the
signature fail the check or the salt fail to fit, since a salt fits all these keys, and is as long
as the program expects it. What is asked of the draws is a key with prime factors, of the size in
question. -/
theorem signing_exact {request : Request}
    (asks : request.task = .sign hash padding text bits)
    (primes : bits ∈ [1024, 2048, 3072, 4096] → DrawsPrimes keyDraws bits) (saltDraws : Draws) :
    let outcome := (request.task.work keyDraws saltDraws).run (.empty request.maxAuthFailures)
    let report := request.report keyDraws saltDraws
    SignEnding hash text bits request.maxAuthFailures outcome.answer outcome.state ∧
    (match outcome.answer with
    | .ok lines => report.exitCode = 0 ∧ report.output = lines ∧ report.errors = []
    | .error (.digest fault) => report.exitCode = 1 ∧ report.output = [] ∧
      report.errors = ["Error: Invalid digest hex: " ++ fault.message]
    | .error (.provisioning _) => report.exitCode = 1 ∧ report.output = [] ∧
      report.errors.head? = some "Error: failed to provision key"
    | .error (.signing _) => report.exitCode = 1 ∧ report.output = [] ∧
      report.errors.head? = some "Error: module refused to sign"
    | .error _ => False) ∧
    (∀ own : Rsa.KeyOfSize bits RsaParameters.defaultExponent, bits ∈ [1024, 2048, 3072, 4096] →
      ∃ salt, SoftwareModule.saltUsed? saltDraws own.key hash = some salt ∧
        saltLengthOf (optionsOf hash .pss) own.key.bits = .ok (some salt.length)) := by
  intro outcome report
  have ending : SignEnding hash text bits request.maxAuthFailures outcome.answer outcome.state := by
    have run := signEnding primes saltDraws hash padding text request.maxAuthFailures
    simp only [outcome, asks]
    exact run
  refine ⟨ending, ?_, fun own supported => saltLengthOf_eq_saltUsed? supported saltDraws hash⟩
  cases answered : outcome.answer with
  | ok lines => exact report_of_ok answered
  | error failure =>
    have ⟨code, output, errors⟩ := report_of_error answered
    rw [answered] at ending
    cases failure with
    | digest | provisioning | signing =>
      refine ⟨code, output, ?_⟩
      rw [errors]
      rfl
    | selection | noRoom | verification | noHandshake => cases ending

namespace Sample

/-- A prime of 503 bits. -/
def factor : Nat := 433 * 2 ^ 494 + 1

theorem zmod_pow_eq_one_iff {modulus : Nat} (large : 1 < modulus) (base exponent : Nat) :
    (base : ZMod modulus) ^ exponent = 1 ↔ Rsa.powMod base exponent modulus = 1 := by
  rw [Rsa.powMod_eq, ← Nat.cast_pow, ← Nat.cast_one, ZMod.natCast_eq_natCast_iff',
    Nat.mod_eq_of_lt large]

theorem factor_prime : factor.Prime := by
  have large : 1 < factor := by decide +kernel
  refine lucas_primality factor ((3 : Nat) : ZMod factor) ?_ ?_
  · rw [zmod_pow_eq_one_iff large]
    decide +kernel
  · intro divisor prime divides
    have less_one : factor - 1 = 433 * 2 ^ 494 := by rw [factor, Nat.add_sub_cancel]
    have small : divisor = 433 ∨ divisor = 2 := by
      rw [less_one] at divides
      rcases prime.dvd_mul.1 divides with first | second
      · exact .inl ((Nat.prime_dvd_prime_iff_eq prime (by norm_num)).1 first)
      · have two := prime.dvd_of_dvd_pow second
        exact .inr ((Nat.prime_dvd_prime_iff_eq prime Nat.prime_two).1 two)
    rw [Ne, zmod_pow_eq_one_iff large]
    rcases small with rfl | rfl
    · decide +kernel
    · decide +kernel

/-- A key of 1024 bits whose factors are prime. -/
def smallestKey : Rsa.PrivateKey where
  p := 2 ^ 521 - 1
  q := factor
  others := []
  exponent := 65537
  privateExponent := (Rsa.inverse? 65537 (Nat.lcm (2 ^ 521 - 2) (factor - 1))).getD 0
  admissible := SoftwareModule.Sample.admissible_usual (by decide +kernel) (by decide +kernel)
  inverse := by decide +kernel

theorem smallestKey_ofPrimes : smallestKey.OfPrimes :=
  .of_two (lucas_lehmer_sufficiency 521 (by decide) (by norm_num)) factor_prime
    (by decide +kernel) rfl

/-- Draws with one key in them, and salts of zero bytes. -/
def drawsOf (key : Rsa.PrivateKey) : Draws where
  salt length := Vector.replicate length 0
  rsaKey bits exponent :=
    if fits : key.bits = bits ∧ key.exponent = exponent then .ok ⟨key, fits⟩
    else .error .invalidPrime
  point := P256.Point.base

theorem drawsPrimes_drawsOf {key : Rsa.PrivateKey}
    (exponent_eq : key.exponent = RsaParameters.defaultExponent) (primes : key.OfPrimes) :
    DrawsPrimes (drawsOf key) key.bits :=
  ⟨⟨key, rfl, exponent_eq⟩, dif_pos ⟨rfl, exponent_eq⟩, primes⟩

/-- A number of zero digits. -/
def zeros (count : Nat) : String := String.ofList (List.replicate count '0')

theorem length_zeros (count : Nat) : (zeros count).length = count := by
  rw [zeros, String.length_ofList, List.length_replicate]

theorem isHex_zeros {count : Nat} (even : count % 2 = 0) : Hex.IsHex (zeros count) where
  even := by rwa [length_zeros]
  digits := by
    intro char member
    rw [zeros, String.toList_ofList] at member
    rw [List.eq_of_mem_replicate member]
    decide

/-- A digest of SHA-512 is to be signed under PSS, where the salt has to be shorter than it. -/
def request : Request := ⟨0, 0, 3, .sign .sha512 .pss (zeros 128) 1024⟩

end Sample

/-- With a key of 1024 bits, the program prints 256 digits for a digest of SHA-512. -/
theorem signing_exact_smallestKey :
    ∃ line,
      let report := Sample.request.report (Sample.drawsOf Sample.smallestKey)
        (Sample.drawsOf Sample.smallestKey)
      report.exitCode = 0 ∧ report.output = [line] ∧ report.errors = [] ∧ line.length = 256 := by
  have size : Sample.smallestKey.bits = 1024 := by decide +kernel
  have primes := Sample.drawsPrimes_drawsOf rfl Sample.smallestKey_ofPrimes
  rw [size] at primes
  have asks : Sample.request.task = .sign .sha512 .pss (Sample.zeros 128) 1024 := rfl
  have isHex : Hex.IsHex (Sample.zeros 128) := Sample.isHex_zeros rfl
  have length : (Sample.zeros 128).length / 2 = ModuleHash.sha512.size := by
    rw [Sample.length_zeros]
    rfl
  generalize Sample.smallestKey = key at *
  rcases signing_exact asks (fun _ => primes) (Sample.drawsOf key) with ⟨ending, reported, -⟩
  generalize Action.run _ _ = outcome at ending reported
  rcases outcome with ⟨answer, events, left⟩
  cases ending with
  | unreadable not_hex => exact absurd isHex not_hex
  | unsupported _ unsupported => exact absurd (by decide) unsupported
  | wrongLength _ _ differs => exact absurd length differs
  | signed _ _ _ line_length =>
    rcases reported with ⟨code, output, errors⟩
    exact ⟨_, code, output, errors, line_length⟩

end CommandLine

end SealedKeys

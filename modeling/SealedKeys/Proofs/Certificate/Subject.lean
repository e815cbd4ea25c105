import SealedKeys.Proofs.Certificate.Issuing

/-!
Whom a certificate is issued for.

The common name of a request becomes the text of a name without any escape, so the subject of the
certificate is the requested name exactly if that is plain. A name with a separator, an escape or a
hexadecimal form in it is issued as well; the subject is then another one, and it may be the
subject of another request.
-/

namespace SealedKeys

namespace Certificate

variable {State : Type}

/-- A certificate that was issued for a common name, to an authority itself or by an authority, by
whatever signer. -/
inductive IssuedFor (commonName : String) (certificate : Certificate) : Prop where
  | authority {State : Type} (stamp : Stamp) (draws : Draws) (signer : Signer State)
      (validity : Nat) (state : State)
      (issued : ((issueAuthority stamp draws signer commonName validity).run state).answer =
        .ok certificate)
  | leaf {State : Type} (stamp : Stamp) (draws : Draws) (signer : Signer State)
      (issuer : Certificate) (subjectKey : PublicKey) (request : LeafRequest) (state : State)
      (asks : request.commonName = commonName)
      (issued : ((issueLeaf stamp draws signer issuer subjectKey request).run state).answer =
        .ok certificate)

theorem subjectName_eq_ok_iff {commonName : String} {name : Name} :
    subjectName commonName = .ok name ↔ Name.ofCommonName commonName = .ok name :=
  mapError_eq_ok_iff

/-- The subject of a certificate is what its common name was read as. -/
theorem IssuedFor.subject {commonName : String} {certificate : Certificate}
    (issued : IssuedFor commonName certificate) :
    Name.ofCommonName commonName = .ok certificate.body.subject := by
  cases issued with
  | authority stamp draws signer validity state issued =>
    have made := (Order.authority commonName validity).body_of_issued issued
    rcases bind_eq_ok_iff.1 made with ⟨notAfter, -, built⟩
    rcases bind_eq_ok_iff.1 built with ⟨name, read, last⟩
    have body := Except.ok.inj last
    rw [← body]
    exact subjectName_eq_ok_iff.1 read
  | leaf stamp draws signer issuer subjectKey request state asks issued =>
    subst asks
    have made := (Order.leaf issuer subjectKey request).body_of_issued issued
    rcases bind_eq_ok_iff.1 made with ⟨notAfter, -, built⟩
    rcases bind_eq_ok_iff.1 built with ⟨name, read, built⟩
    rcases bind_eq_ok_iff.1 built with ⟨alternatives, -, last⟩
    have body := Except.ok.inj last
    rw [← body]
    exact subjectName_eq_ok_iff.1 read

theorem IssuedFor.subject_of_isPlain {commonName : String} {certificate : Certificate}
    (issued : IssuedFor commonName certificate) (plain : Name.IsPlain commonName) :
    certificate.body.subject = [[.commonName commonName]] := by
  have read := issued.subject
  rw [Name.ofCommonName_of_isPlain plain] at read
  exact (Except.ok.inj read).symm

/-- The subject is the requested common name and nothing else exactly if that is plain. -/
theorem IssuedFor.isCommonName_iff {commonName : String} {certificate : Certificate}
    (issued : IssuedFor commonName certificate) :
    certificate.body.subject.IsCommonName commonName ↔ Name.IsPlain commonName := by
  constructor
  · exact Name.isPlain_of_isCommonName issued.subject
  · intro plain
    rw [issued.subject_of_isPlain plain]
    exact Name.isCommonName_commonName commonName

open SoftwareModule in
/-- A software module signs bodies with a key of two primes that is large enough, if it would
compare authorization values and the one of the credential is right. -/
theorem signs_of_asksAuth {module : SoftwareModule} {moduleKey : ModuleKey} {object : ModuleObject}
    {key : Rsa.PrivateKey} (asks : AsksAuth module moduleKey.handle object key)
    (same : object.auth.bytes = moduleKey.auth.bytes) (primes : key.OfPrimes)
    (fits : (⟨.pkcs1, .sha256⟩ : Scheme).Fits key.bits) (publicKey : Rsa.PublicKey)
    (draws : Draws) (message : Bytes) :
    ∃ signature, ((Signer.sign ⟨moduleKey.credential, publicKey⟩ draws message).run
      (Recorder.ofModule module)).answer = .ok signature := by
  have length : (ModuleHash.sha256.digest message).length =
      (⟨.pkcs1, .sha256⟩ : Scheme).hash.size := ModuleHash.length_digest .sha256 message
  rcases signature_of_fits primes length fits draws with ⟨signature, signed, -⟩
  have answered := (signAnswer_of_asksAuth asks same length draws).trans signed
  have sends := Recorder.sendsOnce_signBody moduleKey publicKey (Recorder.ofModule module) draws
    message
  refine ⟨signature, sends.answer_eq.trans ?_⟩
  exact congrArg (Except.mapError _) answered

open SoftwareModule in
/-- A credential on a software module, which signs every body. -/
theorem Sample.signs_primeKey :
    ∃ (moduleKey : ModuleKey) (found : Recorder SoftwareModule), found.log = [] ∧
      ∀ draws message, ∃ signature,
        ((Signer.sign ⟨moduleKey.credential, moduleKey.key⟩ draws message).run found).answer =
          .ok signature := by
  have declarable := Sample.declarable_primeKey
  have bits_le : Sample.primeKey.bits ≤ Rsa.maxModulusBits := by decide +kernel
  have primes := Sample.primeKey_ofPrimes
  have fits : (⟨.pkcs1, .sha256⟩ : Scheme).Fits Sample.primeKey.bits := by decide +kernel
  generalize Sample.primeKey = key at *
  have asks : AsksAuth (Sample.holding key) (Sample.moduleKey key bits_le).handle
      (Sample.object key) key := Sample.holding_asksAuth declarable
  exact ⟨_, _, rfl, signs_of_asksAuth asks rfl primes fits (Sample.moduleKey key bits_le).key⟩

/-- A software module with a prime key signs certificates for every name that can be read. -/
theorem issued_primeKey {commonName : String} {name : Name}
    (read : Name.ofCommonName commonName = .ok name) :
    ∃ certificate, IssuedFor commonName certificate ∧ certificate.body.subject = name := by
  rcases Sample.signs_primeKey with ⟨moduleKey, found, -, signs⟩
  let signer : Signer (Recorder SoftwareModule) := ⟨moduleKey.credential, moduleKey.key⟩
  have inside : Sample.stamp.now.seconds + 3600 ≤ Time.last := by decide
  rcases authorityBody_eq_ok inside read (.rsa moduleKey.key) with ⟨body, made, subject⟩
  have built : (Order.authority commonName 3600).body Sample.stamp signer.key = .ok body := made
  rcases Order.issued_of_signs built (signs (.ofSeed []) body.element) with ⟨signature, issued⟩
  exact ⟨_, .authority _ _ _ _ _ issued, subject⟩

/-- For whom a certificate is issued.

Whoever signs it, whatever its validity, and whether it is an authority's own or one that an
authority gives: the subject of a certificate is the requested common name and nothing else exactly
if that name is plain. It is then the one attribute of the one relative name, a UTF-8 string with
the bytes of the name. Two certificates for plain names have the same subject only if the names are
the same. -/
theorem subject_exact {commonName : String} {certificate : Certificate}
    (issued : IssuedFor commonName certificate) :
    (certificate.body.subject.IsCommonName commonName ↔ Name.IsPlain commonName) ∧
    (Name.IsPlain commonName → certificate.body.subject = [[.commonName commonName]]) ∧
    (∀ other second, IssuedFor other second → Name.IsPlain commonName → Name.IsPlain other →
      certificate.body.subject = second.body.subject → commonName = other) := by
  refine ⟨issued.isCommonName_iff, issued.subject_of_isPlain, ?_⟩
  intro other second alsoIssued plain alsoPlain same
  have first := issued.isCommonName_iff.2 plain
  have also := alsoIssued.isCommonName_iff.2 alsoPlain
  rw [same] at first
  exact first.unique also

/-- An authority and a server get certificates in their names, and those differ. -/
theorem subject_exact_server :
    ∃ authority server, IssuedFor "Test CA" authority ∧ IssuedFor "server" server ∧
      authority.body.subject.IsCommonName "Test CA" ∧ server.body.subject.IsCommonName "server" ∧
      authority.body.subject ≠ server.body.subject := by
  have plain : Name.IsPlain "Test CA" := by decide +kernel
  have alsoPlain : Name.IsPlain "server" := by decide +kernel
  rcases issued_primeKey (Name.ofCommonName_of_isPlain plain) with ⟨authority, isAuthority, -⟩
  rcases issued_primeKey (Name.ofCommonName_of_isPlain alsoPlain) with ⟨server, isServer, -⟩
  have ⟨named, _, unique⟩ := subject_exact isAuthority
  have ⟨alsoNamed, _⟩ := subject_exact isServer
  refine ⟨authority, server, isAuthority, isServer, named.2 plain, alsoNamed.2 alsoPlain, ?_⟩
  intro same
  have equal := unique "server" server isServer plain alsoPlain same
  exact absurd equal (by decide)

/-- A comma in a common name begins an organization, so that the certificate is issued for somebody
else; and a common name with an escape in it gets the subject of another common name. -/
theorem subject_misread :
    (∃ certificate, IssuedFor "a,O=b" certificate ∧
      certificate.body.subject =
        [[⟨.ofArcs [2, 5, 4, 10], Der.Tag.utf8String, Bytes.ofText "b"⟩], [.commonName "a"]] ∧
      ¬ certificate.body.subject.IsCommonName "a,O=b") ∧
    (∃ first second, IssuedFor "a" first ∧ IssuedFor "\\61" second ∧
      first.body.subject = second.body.subject) := by
  have parted : (Name.ofCommonName "a,O=b").toOption =
      some [[⟨.ofArcs [2, 5, 4, 10], Der.Tag.utf8String, Bytes.ofText "b"⟩], [.commonName "a"]] := by
    decide +kernel
  have escaped : (Name.ofCommonName "\\61").toOption = some [[.commonName "a"]] := by
    decide +kernel
  have plain : Name.IsPlain "a" := by decide +kernel
  constructor
  · rcases issued_primeKey (toOption_eq_some_iff.1 parted) with ⟨certificate, issued, subject⟩
    refine ⟨certificate, issued, subject, ?_⟩
    rw [subject]
    rintro ⟨entry, single, -, -⟩
    cases congrArg List.length single
  · rcases issued_primeKey (Name.ofCommonName_of_isPlain plain) with ⟨first, isFirst, subject⟩
    rcases issued_primeKey (toOption_eq_some_iff.1 escaped) with ⟨second, isSecond, also⟩
    exact ⟨first, second, isFirst, isSecond, subject.trans also.symm⟩

end Certificate

end SealedKeys

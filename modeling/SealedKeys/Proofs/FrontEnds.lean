import SealedKeys.Certificate.Signer
import SealedKeys.Proofs.Recorder
import SealedKeys.Proofs.Tls.Commitment

/-!
The three ways in which a credential is used, seen from the module.

A credential may be asked to sign a digest, a TLS signer a handshake message, and a certificate
signer the body of a certificate. Each of them comes down to one sign command with the handle and
the authorization value of the credential, or, if the options of a caller are refused, to none. The
signers choose hash and options themselves, so theirs are never refused, and the digest that they
send is never too long or too short.
-/

namespace SealedKeys

theorem Certificate.SignatureNumber.bytes_ofBytes (signature : Bytes) :
    (ofBytes signature).bytes = signature :=
  Bytes.ofNat_toNat signature

@[simp]
theorem ModuleKey.sign_credential {State : Type} [SecureModule State] (moduleKey : ModuleKey) :
    (moduleKey.credential : SigningCredential State).sign = moduleKey.sign :=
  rfl

/-- A certificate signer over any module: it has the SHA-256 digest of a body signed under PKCS#1
v1.5, which is never refused. What it answers went through a number, and is what the module answered
nevertheless. -/
theorem ModuleKey.run_signBody {State : Type} [SecureModule State] (moduleKey : ModuleKey)
    (key : Rsa.PublicKey) (draws : Draws) (message : Bytes) (state : State) :
    (Certificate.Signer.sign ⟨moduleKey.credential, key⟩ draws message).run state =
      let sent := (SecureModule.sign draws moduleKey.handle moduleKey.auth
        (ModuleHash.sha256.digest message) ⟨.pkcs1, .sha256⟩).run state
      ⟨sent.answer.mapError fun failure => ⟨.module failure⟩,
        .signingBody message.length ::
          .signingDigest (ModuleHash.sha256.digest message).length moduleKey.handle
            ⟨.pkcs1, .sha256⟩ :: sent.events,
        sent.state⟩ := by
  have selected : selectScheme (.pkcs1 .sha256) moduleKey.key.bits = .ok ⟨.pkcs1, .sha256⟩ :=
    selectScheme_pkcs1 .sha256 moduleKey.key.bits
  have unchanged : (fun signature => (Certificate.SignatureNumber.ofBytes signature).bytes) = id :=
    funext Certificate.SignatureNumber.bytes_ofBytes
  simp only [Certificate.Signer.sign, Action.run_log_bind, Action.run_bind_pure, unchanged,
    Except.map_id, id_eq, ModuleKey.sign_credential, Action.run_mapError, ModuleKey.run_sign,
    selected]
  cases ((SecureModule.sign draws moduleKey.handle moduleKey.auth
    (ModuleHash.sha256.digest message) ⟨.pkcs1, .sha256⟩).run state).answer <;> rfl

namespace SoftwareModule

theorem SignOutcome.ne_digestSize {module left : SoftwareModule} {draws : Draws}
    {handle : Handle} {auth : AuthValue} {digest : Bytes} {scheme : Scheme}
    {answer : Except ModuleError Bytes}
    (outcome : SignOutcome module draws handle auth digest scheme answer left)
    (length : digest.length = scheme.hash.size) (expected actual : Nat) :
    answer ≠ .error (.digestSize expected actual) := by
  intro told
  cases outcome with
  | absent | unfit | foreign | locked | closed | wrongAuth => cases told
  | wrongLength asks same differs => exact differs length
  | tried =>
    rcases signature_blames told with ⟨reason, blamed | blamed⟩ <;> cases blamed

/-- A module never finds fault with the length of what a hash digested. -/
theorem signAnswer_ne_digestSize (hash : ModuleHash) (padding : Padding) (message : Bytes)
    (module : SoftwareModule) (draws : Draws) (handle : Handle) (auth : AuthValue)
    (expected actual : Nat) :
    module.signAnswer draws handle auth (hash.digest message) ⟨padding, hash⟩ ≠
      .error (.digestSize expected actual) :=
  (sign_outcome module draws handle auth (hash.digest message) ⟨padding, hash⟩).ne_digestSize
    (ModuleHash.length_digest hash message) expected actual

end SoftwareModule

namespace Recorder

section

variable (recorder : Recorder SoftwareModule) (draws : Draws) (handle : Handle)
  (auth : AuthValue) (digest : Bytes) (scheme : Scheme)

/-- The answer to a sign command: the next failure that is queued, or else that of the module. -/
def signReply : Except ModuleError Bytes :=
  match recorder.signFailures with
  | [] => recorder.inner.signAnswer draws handle auth digest scheme
  | failure :: _ => .error failure

/-- The module behind the recorder after a sign command, which it may not have seen. -/
def innerAfterSign : SoftwareModule :=
  match recorder.signFailures with
  | [] => recorder.inner.next (.sign draws handle auth digest scheme)
  | _ :: _ => recorder.inner

/-- One sign command was sent to a recorded module, and its answer was handed on; failures are told
in other terms. -/
structure SendsOnce {Failure : Type} (tell : ModuleError → Failure)
    (outcome : Outcome (Recorder SoftwareModule) Failure Bytes) : Prop where
  log_eq : outcome.state.log = recorder.log ++ [.sign handle digest scheme]
  answer_eq : outcome.answer = (recorder.signReply draws handle auth digest scheme).mapError tell
  inner_eq : outcome.state.inner = recorder.innerAfterSign draws handle auth digest scheme
  queue_eq : outcome.state.signFailures = recorder.signFailures.tail

end

variable {Failure Other : Type} {tell : ModuleError → Failure} {recorder : Recorder SoftwareModule}
  {draws : Draws} {handle : Handle} {auth : AuthValue} {digest : Bytes} {scheme : Scheme}

theorem sendsOnce_sign (recorder : Recorder SoftwareModule) (draws : Draws) (handle : Handle)
    (auth : AuthValue) (digest : Bytes) (scheme : Scheme) (tell : ModuleError → Failure) :
    recorder.SendsOnce draws handle auth digest scheme tell
      (((SecureModule.sign draws handle auth digest scheme).mapError tell).run recorder) := by
  rw [Action.run_mapError, run_sign]
  rcases recorder with ⟨inner, log, _ | ⟨failure, rest⟩⟩
  · exact ⟨rfl, rfl, (SoftwareModule.next_sign inner draws handle auth digest scheme).symm, rfl⟩
  · exact ⟨rfl, rfl, rfl, rfl⟩

/-- Failures may be told in other terms once more. -/
theorem SendsOnce.mapError {action : Action (Recorder SoftwareModule) Failure Bytes}
    (sends : recorder.SendsOnce draws handle auth digest scheme tell (action.run recorder))
    (more : Failure → Other) :
    recorder.SendsOnce draws handle auth digest scheme (fun failure => more (tell failure))
      ((action.mapError more).run recorder) := by
  refine ⟨sends.log_eq, ?_, sends.inner_eq, sends.queue_eq⟩
  rw [Action.run_mapError, sends.answer_eq]
  cases recorder.signReply draws handle auth digest scheme <;> rfl

/-- Once a scheme is selected, a credential sends the sign command. -/
theorem sendsOnce_of_selectScheme {moduleKey : ModuleKey} {options : SignOptions}
    (selected : selectScheme options moduleKey.key.bits = .ok scheme)
    (recorder : Recorder SoftwareModule) (draws : Draws) (digest : Bytes) :
    recorder.SendsOnce draws moduleKey.handle moduleKey.auth digest scheme Error.module
      ((moduleKey.sign draws digest options).run recorder) := by
  have sends := sendsOnce_sign recorder draws moduleKey.handle moduleKey.auth digest scheme
    Error.module
  have run := moduleKey.run_sign draws digest options recorder
  simp only [selected] at run
  rw [run]
  exact ⟨sends.log_eq, sends.answer_eq, sends.inner_eq, sends.queue_eq⟩

/-- A TLS signer sends the digest of the handshake message, under the scheme that was chosen. -/
theorem sendsOnce_signHandshake {moduleKey : ModuleKey} {offered : List Nat}
    {signer : Tls.Signer (Recorder SoftwareModule)}
    (chosen : Tls.SigningKey.choose? moduleKey.key.bits offered = some signer.scheme)
    (held : signer.credential = moduleKey.credential) (recorder : Recorder SoftwareModule)
    (draws : Draws) (message : Bytes) :
    recorder.SendsOnce draws moduleKey.handle moduleKey.auth (signer.scheme.hash.digest message)
      ⟨signer.scheme.padding, signer.scheme.hash⟩ Tls.tellSigning
      ((signer.sign draws message).run recorder) := by
  have selected := Tls.selectScheme_options (Tls.supports_of_choose? chosen).2
  have sends := (sendsOnce_of_selectScheme selected recorder draws
    (signer.scheme.hash.digest message)).mapError fun cause =>
      TlsError.general ("module signing failed: " ++ cause.message)
  simp only [Tls.Signer.sign, held, ModuleKey.sign_credential]
  exact sends

/-- A certificate signer sends the digest of the body. -/
theorem sendsOnce_signBody (moduleKey : ModuleKey) (key : Rsa.PublicKey)
    (recorder : Recorder SoftwareModule) (draws : Draws) (message : Bytes) :
    recorder.SendsOnce draws moduleKey.handle moduleKey.auth (ModuleHash.sha256.digest message)
      ⟨.pkcs1, .sha256⟩ (fun failure => Certificate.SignatureError.mk (.module failure))
      ((Certificate.Signer.sign ⟨moduleKey.credential, key⟩ draws message).run recorder) := by
  have sends := sendsOnce_sign recorder draws moduleKey.handle moduleKey.auth
    (ModuleHash.sha256.digest message) ⟨.pkcs1, .sha256⟩ fun failure =>
      Certificate.SignatureError.mk (.module failure)
  rw [moduleKey.run_signBody key]
  exact ⟨sends.log_eq, sends.answer_eq, sends.inner_eq, sends.queue_eq⟩

/-- Every way of signing with a credential sends the recorded module at most one command, and the
right one, whatever state it is in.

Asked to sign a digest, a credential sends nothing and leaves everything alone if its options are
refused, and otherwise sends the digest as it is, under the scheme that was selected. A TLS signer,
whatever was offered and whenever it was agreed upon, always sends the digest of the message under
the hash of its scheme, with the padding of its scheme; a certificate signer always sends the
SHA-256 digest for PKCS#1 v1.5. The module behind never answers these two that the digest has the
wrong size. In all three, the bytes of a signature come back as they are, and the failure of the
module comes back in the terms of who was asked. -/
theorem frontEnds_sendOnce (moduleKey : ModuleKey) (recorder : Recorder SoftwareModule)
    (draws : Draws) :
    (∀ digest options,
      match selectScheme options moduleKey.key.bits with
      | .error refusal =>
        (moduleKey.sign draws digest options).run recorder = ⟨.error refusal, [], recorder⟩
      | .ok scheme =>
        recorder.SendsOnce draws moduleKey.handle moduleKey.auth digest scheme Error.module
          ((moduleKey.sign draws digest options).run recorder)) ∧
    (∀ tlsKey offered (found : Recorder SoftwareModule) signer message,
      Tls.SigningKey.ofCredential? moduleKey.credential = .ok tlsKey →
      ((tlsKey.negotiate offered).run found).answer = .ok (some signer) →
      recorder.SendsOnce draws moduleKey.handle moduleKey.auth
        (signer.scheme.hash.digest message) ⟨signer.scheme.padding, signer.scheme.hash⟩
        Tls.tellSigning ((signer.sign draws message).run recorder) ∧
      ∀ expected actual, recorder.inner.signAnswer draws moduleKey.handle moduleKey.auth
        (signer.scheme.hash.digest message) ⟨signer.scheme.padding, signer.scheme.hash⟩ ≠
          .error (.digestSize expected actual)) ∧
    (∀ certificateSigner message,
      Certificate.Signer.ofCredential? moduleKey.credential = .ok certificateSigner →
      recorder.SendsOnce draws moduleKey.handle moduleKey.auth
        (ModuleHash.sha256.digest message) ⟨.pkcs1, .sha256⟩
        (fun failure => Certificate.SignatureError.mk (.module failure))
        ((certificateSigner.sign draws message).run recorder) ∧
      ∀ expected actual, recorder.inner.signAnswer draws moduleKey.handle moduleKey.auth
        (ModuleHash.sha256.digest message) ⟨.pkcs1, .sha256⟩ ≠
          .error (.digestSize expected actual)) := by
  refine ⟨?_, ?_, ?_⟩
  · intro digest options
    cases selected : selectScheme options moduleKey.key.bits with
    | error refusal =>
      have run := moduleKey.run_sign draws digest options recorder
      simp only [selected] at run
      exact run
    | ok scheme => exact sendsOnce_of_selectScheme selected recorder draws digest
  · intro tlsKey offered found signer message adapted negotiated
    have key : (⟨moduleKey.credential, moduleKey.key.bits⟩ : Tls.SigningKey _) = tlsKey :=
      Except.ok.inj adapted
    rcases Tls.choose?_of_negotiate negotiated with ⟨chosen, held⟩
    subst key
    exact ⟨sendsOnce_signHandshake chosen held recorder draws message,
      recorder.inner.signAnswer_ne_digestSize _ _ message draws _ _⟩
  · intro certificateSigner message adapted
    have signer : (⟨moduleKey.credential, moduleKey.key⟩ : Certificate.Signer _) =
        certificateSigner := Except.ok.inj adapted
    have sends := sendsOnce_signBody moduleKey moduleKey.key recorder draws message
    subst signer
    exact ⟨sends, recorder.inner.signAnswer_ne_digestSize _ _ message draws _ _⟩

open SoftwareModule in
/-- For a prime key in a module that was not asked for anything yet, TLS agrees on SHA-256 with
PKCS#1 v1.5; either signer then has one command sent. -/
theorem frontEnds_sendOnce_primeKey :
    ∃ (moduleKey : ModuleKey) (tlsKey : Tls.SigningKey (Recorder SoftwareModule))
      (tlsSigner : Tls.Signer (Recorder SoftwareModule))
      (certificateSigner : Certificate.Signer (Recorder SoftwareModule)),
      Tls.SigningKey.ofCredential? moduleKey.credential = .ok tlsKey ∧
      ((tlsKey.negotiate [0x0401]).run (ofModule (Sample.holding Sample.primeKey))).answer =
        .ok (some tlsSigner) ∧
      Certificate.Signer.ofCredential? moduleKey.credential = .ok certificateSigner ∧
      ∀ draws message,
        ((tlsSigner.sign draws message).run
          (ofModule (Sample.holding Sample.primeKey))).state.log =
            [.sign Sample.handle (ModuleHash.sha256.digest message) ⟨.pkcs1, .sha256⟩] ∧
        ((certificateSigner.sign draws message).run
          (ofModule (Sample.holding Sample.primeKey))).state.log =
            [.sign Sample.handle (ModuleHash.sha256.digest message) ⟨.pkcs1, .sha256⟩] := by
  have bits_le : Sample.primeKey.bits ≤ Rsa.maxModulusBits := by decide +kernel
  have chosen : Tls.SigningKey.choose? Sample.primeKey.bits [0x0401] = some .pkcs1Sha256 := by
    decide +kernel
  generalize Sample.primeKey = key at *
  rw [← Sample.bits_moduleKey key bits_le] at chosen
  rcases Tls.negotiates_of_choose? chosen (ofModule (Sample.holding key)) with
    ⟨tlsKey, adapted, negotiated⟩
  refine ⟨_, tlsKey, _, ⟨_, (Sample.moduleKey key bits_le).key⟩, adapted, negotiated, rfl,
    fun draws message => ?_⟩
  have ⟨_, tls, certificate⟩ := frontEnds_sendOnce (Sample.moduleKey key bits_le)
    (ofModule (Sample.holding key)) draws
  have handshake := (tls tlsKey [0x0401] _ _ message adapted negotiated).1
  have body := (certificate ⟨_, (Sample.moduleKey key bits_le).key⟩ message rfl).1
  exact ⟨handshake.log_eq, body.log_eq⟩

end Recorder

end SealedKeys

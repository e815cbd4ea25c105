import SealedKeys.Certificate.Issuing
import SealedKeys.Proofs.Certificate.Name
import SealedKeys.Proofs.FrontEnds
import SealedKeys.Proofs.Provisioning

/-!
How an authority is told that its certificate was not made.

An order has a body or a fault in it. With a body, the credential of the authority is asked to sign
once, and the answer decides; with a fault, nothing is asked. Both a fault and a failure of the
module come back as the failure of a certificate. Which of the two it was, and what the module
reported, is in the text alone.
-/

namespace SealedKeys

namespace Certificate

variable {State : Type}

/-- An order to issue a certificate: an authority's own, or one that it gives for another key. -/
inductive Order where
  | authority (commonName : String) (validity : Nat)
  | leaf (issuer : Certificate) (subjectKey : PublicKey) (request : LeafRequest)

namespace Order

/-- What is to be signed with a key, if the order has no fault. -/
def body (stamp : Stamp) (key : Rsa.PublicKey) : Order → Except EncodingFault Body
  | .authority commonName validity => authorityBody stamp (.rsa key) commonName validity
  | .leaf issuer subjectKey request =>
    leafBody stamp issuer.body.subject (.rsa key) subjectKey request

/-- What is logged of a certificate that was issued. -/
def event : Order → Event
  | .authority commonName _ => .issuedAuthority commonName
  | .leaf _ _ request => .issuedLeaf request.commonName

def issue (stamp : Stamp) (draws : Draws) (signer : Signer State) :
    Order → Action State Error Certificate
  | .authority commonName validity => issueAuthority stamp draws signer commonName validity
  | .leaf issuer subjectKey request =>
    issueLeaf stamp draws signer issuer subjectKey request

/-- Both ways of issuing take the same steps. -/
theorem issue_eq (order : Order) (stamp : Stamp) (draws : Draws) (signer : Signer State) :
    order.issue stamp draws signer = (do
      let body ← Action.ofExcept ((order.body stamp signer.key).mapError EncodingFault.error)
      let certificate ← attest signer draws body
      Action.log order.event
      return certificate) := by
  cases order <;> rfl

/-- Issuing, with any signer: an order with a fault is refused without asking the signer, and
otherwise what the signer answers decides. -/
theorem run_issue (order : Order) (stamp : Stamp) (draws : Draws) (signer : Signer State)
    (state : State) :
    (order.issue stamp draws signer).run state =
      match order.body stamp signer.key with
      | .error fault => ⟨.error fault.error, [], state⟩
      | .ok body =>
        match (signer.sign draws body.element).run state with
        | ⟨.error failure, events, left⟩ =>
          ⟨.error (.certificate ("signature error: " ++ failure.message)), events, left⟩
        | ⟨.ok signature, events, left⟩ => ⟨.ok ⟨body, signature⟩, events ++ [order.event], left⟩ := by
  rw [issue_eq, Action.run_ofExcept_bind]
  cases order.body stamp signer.key with
  | error fault => rfl
  | ok body =>
    simp only [Except.mapError, attest, Action.run_bind_assoc, Action.run_mapError_bind]
    rcases (signer.sign draws body.element).run state with ⟨failure | signature, events, left⟩
    · rfl
    · rfl

/-- A certificate that is issued has the body that was built for it. -/
theorem body_of_issued (order : Order) {stamp : Stamp} {draws : Draws} {signer : Signer State}
    {state : State} {certificate : Certificate}
    (issued : ((order.issue stamp draws signer).run state).answer = .ok certificate) :
    order.body stamp signer.key = .ok certificate.body := by
  rw [run_issue] at issued
  cases built : order.body stamp signer.key with
  | error fault =>
    rw [built] at issued
    cases issued
  | ok body =>
    simp only [built] at issued
    rcases signed : (signer.sign draws body.element).run state with
      ⟨failure | signature, events, left⟩
    · rw [signed] at issued
      cases issued
    · rw [signed] at issued
      cases issued
      rfl

/-- If there is a body and the signer signs it, a certificate is issued. -/
theorem issued_of_signs {order : Order} {stamp : Stamp} {draws : Draws} {signer : Signer State}
    {state : State} {body : Body} (built : order.body stamp signer.key = .ok body)
    (signs : ∃ signature, ((signer.sign draws body.element).run state).answer = .ok signature) :
    ∃ signature, ((order.issue stamp draws signer).run state).answer = .ok ⟨body, signature⟩ := by
  rcases signs with ⟨signature, signed⟩
  have run := order.run_issue stamp draws signer state
  simp only [built] at run
  rcases sent : (signer.sign draws body.element).run state with ⟨answer, events, left⟩
  rw [sent] at run signed
  cases signed
  exact ⟨signature, congrArg Outcome.answer run⟩

end Order

/-- A validity that ends within the calendar has an end. -/
theorem endOf_eq_ok {now : Time} {validity : Nat} (inside : now.seconds + validity ≤ Time.last) :
    endOf now validity = .ok ⟨now.seconds + validity⟩ := by
  rw [endOf, Time.after?, if_pos inside]

/-- An authority has a body for its own certificate if the end is within the calendar and its name
can be read. -/
theorem authorityBody_eq_ok {stamp : Stamp} {commonName : String} {name : Name} {validity : Nat}
    (inside : stamp.now.seconds + validity ≤ Time.last)
    (read : Name.ofCommonName commonName = .ok name) (publicKey : PublicKey) :
    ∃ body, authorityBody stamp publicKey commonName validity = .ok body ∧ body.subject = name := by
  rw [authorityBody, endOf_eq_ok inside, subjectName, read]
  exact ⟨_, rfl, rfl⟩

/-- How a failure of the module is told to whoever has a certificate issued. -/
def tellIssuing (failure : ModuleError) : Error :=
  .certificate ("signature error: signature error: secure module error: " ++ failure.message)

theorem tellIssuing_eq (failure : ModuleError) :
    Error.certificate ("signature error: " ++ (SignatureError.mk (.module failure)).message) =
      tellIssuing failure := by
  have words : (SignatureError.mk (.module failure)).message =
      "signature error: " ++ ("secure module error: " ++ failure.message) := rfl
  have begins : "signature error: " ++ "signature error: " ++ "secure module error: " =
      "signature error: signature error: secure module error: " := by decide +kernel
  rw [tellIssuing, words, ← String.append_assoc, ← String.append_assoc, begins]

/-- The text of a fault begins otherwise than that of a failure to sign. -/
theorem tellIssuing_ne_error (failure : ModuleError) (fault : EncodingFault) :
    tellIssuing failure ≠ fault.error := by
  intro same
  rw [tellIssuing, EncodingFault.error, Error.certificate.injEq] at same
  have first := congrArg (fun text => text.toList.head?) same
  simp at first

/-- The command by which a credential has the body of a certificate signed: it asks for a signature
on the SHA-256 digest under PKCS#1 v1.5. -/
def Body.signCommand [SecureModule State] (body : Body) (moduleKey : ModuleKey) (draws : Draws) :
    Action State ModuleError Bytes :=
  SecureModule.sign draws moduleKey.handle moduleKey.auth (ModuleHash.sha256.digest body.element)
    ⟨.pkcs1, .sha256⟩

theorem Order.run_issue_credential [SecureModule State] {order : Order} {moduleKey : ModuleKey}
    {stamp : Stamp} {body : Body} (built : order.body stamp moduleKey.key = .ok body)
    (draws : Draws) (state : State) :
    let outcome := (order.issue stamp draws ⟨moduleKey.credential, moduleKey.key⟩).run state
    let sent := (body.signCommand moduleKey draws).run state
    outcome.state = sent.state ∧
      outcome.answer = (sent.answer.map (Certificate.mk body)).mapError tellIssuing := by
  simp only [run_issue, built, moduleKey.run_signBody, Body.signCommand]
  rcases (SecureModule.sign draws moduleKey.handle moduleKey.auth
    (ModuleHash.sha256.digest body.element) ⟨.pkcs1, .sha256⟩).run state with
    ⟨failure | signature, events, left⟩
  · exact ⟨rfl, congrArg Except.error (tellIssuing_eq failure)⟩
  · exact ⟨rfl, rfl⟩

/-- How an order comes out, for a credential on any module in any state.

An order with a fault in it is refused, without a command. Any other sends the module one sign
command. The module is left as that leaves it, and a signature is put under the body as it is. A
failure of the module never comes back as such: it is the failure of a certificate, with the
module's wording at the end of the text, and only how the text begins tells it from a fault in the
order. -/
theorem issuing_exact [SecureModule State] {moduleKey : ModuleKey} {signer : Signer State}
    (adapted : Signer.ofCredential? moduleKey.credential = .ok signer) (order : Order)
    (stamp : Stamp) (draws : Draws) (state : State) :
    let outcome := (order.issue stamp draws signer).run state
    (∀ cause, outcome.answer ≠ .error (.module cause)) ∧
    match order.body stamp moduleKey.key with
    | .error fault => outcome = ⟨.error fault.error, [], state⟩
    | .ok body =>
      let sent := (body.signCommand moduleKey draws).run state
      outcome.state = sent.state ∧
      match sent.answer with
      | .ok signature => outcome.answer = .ok ⟨body, signature⟩
      | .error failure =>
        outcome.answer = .error (tellIssuing failure) ∧
        ∀ fault : EncodingFault, tellIssuing failure ≠ fault.error := by
  have held : (⟨moduleKey.credential, moduleKey.key⟩ : Signer State) = signer :=
    Except.ok.inj adapted
  subst held
  intro outcome
  cases built : order.body stamp moduleKey.key with
  | error fault =>
    have refused : outcome = ⟨.error fault.error, [], state⟩ := by
      have run : outcome = _ := order.run_issue stamp draws _ state
      simp only [built] at run
      exact run
    rw [refused]
    exact ⟨nofun, rfl⟩
  | ok body =>
    have ⟨state_eq, answer_eq⟩ := Order.run_issue_credential built draws state
    have answer_eq : outcome.answer = _ := answer_eq
    rw [answer_eq]
    cases answered : ((body.signCommand moduleKey draws).run state).answer with
    | ok signature =>
      simp only [answered]
      exact ⟨nofun, state_eq, rfl⟩
    | error failure =>
      simp only [answered]
      exact ⟨nofun, state_eq, rfl, tellIssuing_ne_error failure⟩

/-- A moment, and a serial number without any entropy. -/
def Sample.stamp : Stamp := ⟨⟨0⟩, Vector.replicate 16 0⟩

/-- An authority that asks for its own certificate. -/
def Sample.order : Order := .authority "Test CA" 3600

theorem Sample.body_order (key : Rsa.PublicKey) :
    ∃ body, Sample.order.body Sample.stamp key = .ok body := by
  have plain : Name.IsPlain "Test CA" := by decide +kernel
  have inside : Sample.stamp.now.seconds + 3600 ≤ Time.last := by decide
  rcases authorityBody_eq_ok inside (Name.ofCommonName_of_isPlain plain) (.rsa key) with
    ⟨body, built, -⟩
  exact ⟨body, built⟩

open SoftwareModule in
/-- A failure that was queued for the signature of an authority comes back as a certificate's. -/
theorem issuing_exact_lockout :
    ∃ (moduleKey : ModuleKey) (signer : Signer (Recorder SoftwareModule)),
      Signer.ofCredential? moduleKey.credential = .ok signer ∧
      ∀ draws, ((Sample.order.issue Sample.stamp draws signer).run
          ⟨Sample.holding Sample.primeKey, [], [.lockout]⟩).answer = .error (.certificate
            ("signature error: signature error: secure module error: "
              ++ "module is in dictionary-attack lockout")) := by
  have bits_le : Sample.primeKey.bits ≤ Rsa.maxModulusBits := by decide +kernel
  generalize Sample.primeKey = key at *
  let moduleKey := Sample.moduleKey key bits_le
  let recorder : Recorder SoftwareModule := ⟨Sample.holding key, [], [.lockout]⟩
  have adapted : Signer.ofCredential? moduleKey.credential =
      .ok (⟨moduleKey.credential, moduleKey.key⟩ : Signer (Recorder SoftwareModule)) := rfl
  refine ⟨moduleKey, _, adapted, fun draws => ?_⟩
  have ⟨_, outcome⟩ := issuing_exact adapted Sample.order Sample.stamp draws recorder
  rcases Sample.body_order moduleKey.key with ⟨body, built⟩
  have locked : ((body.signCommand moduleKey draws).run recorder).answer = .error .lockout := rfl
  simp only [built, locked] at outcome
  exact outcome.2.1

open SoftwareModule in
/-- The key of an authority is evicted after it was opened. The module reports that there is no
object at the handle, and what comes back is that no certificate could be made. -/
theorem issuing_misreported :
    ∃ (moduleKey : ModuleKey) (signer : Signer (Recorder SoftwareModule)) (events : List Event)
      (opened : Recorder SoftwareModule) (body : Body),
      (ModuleKey.ofHandle Sample.handle Sample.secret).run
        (Recorder.ofModule (Sample.holding Sample.primeKey)) = ⟨.ok moduleKey, events, opened⟩ ∧
      Signer.ofCredential? moduleKey.credential = .ok signer ∧
      Sample.order.body Sample.stamp moduleKey.key = .ok body ∧
      ∀ draws,
        let evicted := opened.next (.request (.evict Sample.handle))
        let answer := ((Sample.order.issue Sample.stamp draws signer).run evicted).answer
        ((body.signCommand moduleKey draws).run evicted).answer =
          .error (.handleNotFound Sample.handle) ∧
        answer ≠ .error (.module (.handleNotFound Sample.handle)) ∧
        answer = .error (.certificate
          "signature error: signature error: secure module error: handle 0x81000001 not found") := by
  have bits_le : Sample.primeKey.bits ≤ Rsa.maxModulusBits := by decide +kernel
  have declarable := Sample.declarable_primeKey
  have text : tellIssuing (.handleNotFound Sample.handle) = .certificate
      "signature error: signature error: secure module error: handle 0x81000001 not found" := by
    decide +kernel
  generalize Sample.primeKey = key at *
  let moduleKey := Sample.moduleKey key bits_le
  let opened : Recorder SoftwareModule :=
    ⟨(Sample.holding key).counted, [.readPublic Sample.handle], []⟩
  let evicted := opened.next (.request (.evict Sample.handle))
  rcases Sample.run_ofHandle_holding declarable bits_le with ⟨events, opens⟩
  rcases Sample.body_order moduleKey.key with ⟨body, built⟩
  have left : evicted = ⟨opened.inner.next (.evict Sample.handle),
      [.readPublic Sample.handle, .evict Sample.handle], []⟩ :=
    congrArg Outcome.state (Recorder.run_perform_of_unscripted rfl)
  have refused : ∀ draws, ((body.signCommand moduleKey draws).run evicted).answer =
      .error (.handleNotFound Sample.handle) := by
    intro draws
    rw [left, Body.signCommand, Recorder.run_sign]
    apply signAnswer_eq_of_objection?
    simp only [objection?, moduleKey, Sample.moduleKey, get?_next_evict]
  refine ⟨moduleKey, ⟨moduleKey.credential, moduleKey.key⟩, events, opened, body, ?_, rfl, built,
    fun draws => ?_⟩
  · rw [Recorder.run_ofHandle]
    simp only [Recorder.ofModule, opens]
    rfl
  · have told := (Order.run_issue_credential built draws evicted).2
    rw [refused draws] at told
    have misreported := told.trans (congrArg Except.error text)
    refine ⟨refused draws, ?_, misreported⟩
    rw [misreported]
    intro same
    cases same

end Certificate

end SealedKeys

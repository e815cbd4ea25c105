import Mathlib.Logic.Equiv.Basic
import SealedKeys.Proofs.Secrecy.Renaming
import SealedKeys.Proofs.SoftwareModule.Transcript

/-!
What those who use a recorded module get to see, and that no secret is in it.

A session is a software module behind a recorder, together with the keys that were opened, which
keep the authorization values they were opened with. Whoever uses it gives secrets and never gets
one back: after each operation there is a `View`, which holds all that can be seen of the result, of
the log and of the state.

Two sessions that differ in their secrets by an injective renaming show the same. One operation
mirrors itself (`Operation.mirrors_perform`), and views forget what the renaming changes
(`view_renamed`), so the sessions stay a renaming apart and the views agree from the first operation
to the last. That the renaming is injective cannot be dropped: whether two secrets are equal is what
an authorization tells.
-/

namespace SealedKeys

/-- A recorded software module, with the keys that were opened so far, the first one first. -/
structure Session where
  recorder : Recorder SoftwareModule
  opened : List ModuleKey

namespace Session

/-- What can be done in a session. An opened key is named by its place among them. -/
inductive Operation where
  | loadExternal (handle : Handle) (auth : AuthValue) (key : Rsa.PrivateKey)
      (attributes : Attributes)
  | createPrimary (draws : Draws) (handle : Handle) (auth : AuthValue) (template : KeyTemplate)
  | evict (handle : Handle)
  | readPublic (handle : Handle)
  | sign (draws : Draws) (handle : Handle) (auth : AuthValue) (digest : Bytes) (scheme : Scheme)
  | resetLockout
  | failNextSign (failure : ModuleError)
  | provision (draws : Draws) (handle : Handle) (auth : AuthValue) (template : KeyTemplate)
  | openKey (handle : Handle) (auth : AuthValue)
  | copyKey (index : Nat)
  | signDigest (index : Nat) (draws : Draws) (digest : Bytes) (options : SignOptions)
  | signHandshake (index : Nat) (draws : Draws) (offered : List Nat) (message : Bytes)
  | signBody (index : Nat) (draws : Draws) (message : Bytes)

/-- Why an operation failed, in the terms of the part that was asked. -/
inductive Failure where
  | module (cause : ModuleError)
  | library (cause : Error)
  | tls (cause : TlsError)
  | certificate (cause : Certificate.SignatureError)
  deriving DecidableEq

def Failure.message : Failure → String
  | .module cause => cause.message
  | .library cause => cause.message
  | .tls cause => cause.message
  | .certificate cause => cause.message

/-- What an operation that succeeds tells. -/
inductive Told where
  | nothing
  | area (area : PublicArea)
  | signature (signature : Bytes)
  | opened (handle : Handle) (area : PublicArea) (publicKey : PublicKey)
  | handshake (scheme : Tls.SignatureScheme) (shown : List String) (signature : Bytes)
  | body (shown : String) (signature : Bytes)
  deriving DecidableEq

/-- What an operation does in a session. -/
abbrev Step := Action Session Failure Told

/-! ## Operations, carried out -/

/-- Carries an action out on the recorded module. -/
def onRecorder {Cause Answer : Type} (tell : Cause → Failure)
    (action : Action (Recorder SoftwareModule) Cause Answer) : Action Session Failure Answer :=
  (action.onPart recorder fun session left => { session with recorder := left }).mapError tell

/-- Keeps an opened key. -/
def keep (moduleKey : ModuleKey) : Step := do
  Action.modify fun session => { session with opened := session.opened ++ [moduleKey] }
  return .opened moduleKey.handle moduleKey.area moduleKey.publicKey

/-- Uses the opened key at a place. Where there is none, nothing is done. -/
def withKey (index : Nat) (use : ModuleKey → Step) : Step := do
  let session ← Action.current
  match session.opened[index]? with
  | some moduleKey => use moduleKey
  | none => return .nothing

/-- Signs a handshake message with a signer. -/
def signAgreed (draws : Draws) (message : Bytes) (shown : String)
    (signer : Tls.Signer (Recorder SoftwareModule)) : Step := do
  let signature ← onRecorder .tls (signer.sign draws message)
  return .handshake signer.scheme [shown, signer.inspect] signature

/-- Agrees on a scheme with a peer, and signs a handshake message. -/
def signHandshake (draws : Draws) (offered : List Nat) (message : Bytes) (moduleKey : ModuleKey) :
    Step := do
  let key ← Action.ofExcept
    ((Tls.SigningKey.ofCredential? moduleKey.credential).mapError Failure.library)
  match ← onRecorder .library (key.negotiate offered) with
  | some signer => signAgreed draws message key.inspect signer
  | none => return .nothing

/-- Signs the body of a certificate with a signer. -/
def signIssued (draws : Draws) (message : Bytes)
    (signer : Certificate.Signer (Recorder SoftwareModule)) : Step := do
  let signature ← onRecorder .certificate (signer.sign draws message)
  return .body signer.inspect signature

/-- Signs the body of a certificate. -/
def signBody (draws : Draws) (message : Bytes) (moduleKey : ModuleKey) : Step := do
  let signer ← Action.ofExcept
    ((Certificate.Signer.ofCredential? moduleKey.credential).mapError Failure.library)
  signIssued draws message signer

/-- Carries an operation out. Loading a key and clearing the lockout bypass the recorder. -/
def Operation.perform : Operation → Step
  | .loadExternal handle auth key attributes => do
    let area ← onRecorder .module
      (Recorder.onInner (SoftwareModule.loadExternal handle auth key attributes))
    return .area area
  | .createPrimary draws handle auth template => do
    let area ← onRecorder .module (KeyProvisioner.createPrimary draws handle auth template)
    return .area area
  | .evict handle => do
    let _ ← onRecorder .module (KeyProvisioner.evict handle)
    return .nothing
  | .readPublic handle => do
    let area ← onRecorder .module (SecureModule.readPublic handle)
    return .area area
  | .sign draws handle auth digest scheme => do
    let signature ← onRecorder .module (SecureModule.sign draws handle auth digest scheme)
    return .signature signature
  | .resetLockout => do
    let _ ← onRecorder .module (Recorder.onInner SoftwareModule.resetLockout)
    return .nothing
  | .failNextSign failure => do
    let _ ← onRecorder .module (Recorder.failNextSign failure)
    return .nothing
  | .provision draws handle auth template => do
    let moduleKey ← onRecorder .library (ModuleKey.provision draws handle auth template)
    keep moduleKey
  | .openKey handle auth => do
    let moduleKey ← onRecorder .library (ModuleKey.ofHandle handle auth)
    keep moduleKey
  | .copyKey index => withKey index keep
  | .signDigest index draws digest options => withKey index fun moduleKey => do
    let signature ← onRecorder .library (moduleKey.sign draws digest options)
    return .signature signature
  | .signHandshake index draws offered message =>
    withKey index (Session.signHandshake draws offered message)
  | .signBody index draws message => withKey index (Session.signBody draws message)

/-! ## What is seen -/

/-- All that can be seen after an operation: what it told, or the failure and its wording; what it
logged; the module and the opened keys as they are shown to a developer; what the recorder has
written down and what failures it still holds; and what the module tells about itself. -/
structure View where
  result : Except Failure Told
  failureText : Option String
  events : List Event
  module : String
  keys : List String
  sent : List SentCommand
  queued : List ModuleError
  commands : Nat
  isLockedOut : Bool

def view (outcome : Outcome Session Failure Told) : View where
  result := outcome.answer
  failureText :=
    match outcome.answer with
    | .ok _ => none
    | .error failure => some failure.message
  events := outcome.events
  module := outcome.state.recorder.inner.inspect
  keys := outcome.state.opened.map ModuleKey.inspect
  sent := outcome.state.recorder.log
  queued := outcome.state.recorder.signFailures
  commands := outcome.state.recorder.inner.commands
  isLockedOut := outcome.state.recorder.inner.isLockedOut

/-- What is seen while a list of operations is carried out, after the first one first. -/
def views (session : Session) : List Operation → List View
  | [] => []
  | operation :: rest =>
    view (operation.perform.run session) ::
      (operation.perform.run session).state.views rest

/-- A session with a new module. -/
def start (limit : UInt32) : Session :=
  ⟨.ofModule (.empty limit), []⟩

/-! ## Other secrets -/

def renamed (rename : AuthValue → AuthValue) (session : Session) : Session :=
  ⟨session.recorder.moved (SoftwareModule.renamed rename),
    session.opened.map (ModuleKey.renamed rename)⟩

/-- The same operation, given other secrets. -/
def Operation.renamed (rename : AuthValue → AuthValue) : Operation → Operation
  | .loadExternal handle auth key attributes => .loadExternal handle (rename auth) key attributes
  | .createPrimary draws handle auth template => .createPrimary draws handle (rename auth) template
  | .sign draws handle auth digest scheme => .sign draws handle (rename auth) digest scheme
  | .provision draws handle auth template => .provision draws handle (rename auth) template
  | .openKey handle auth => .openKey handle (rename auth)
  | other => other

open SealedKeys.Action (Mirrors mirrors_pure mirrors_log mirrors_modify mirrors_current_bind)

variable {rename : AuthValue → AuthValue}

theorem mirrors_onRecorder {Cause Answer Said : Type} {say : Answer → Said}
    {action : Action (Recorder SoftwareModule) Cause Answer}
    {mirror : Action (Recorder SoftwareModule) Cause Said} (tell : Cause → Failure)
    (mirrors : Mirrors (Recorder.moved (SoftwareModule.renamed rename)) say action mirror) :
    Mirrors (renamed rename) say (onRecorder tell action) (onRecorder tell mirror) := by
  apply Mirrors.mapError
  exact mirrors.onPart (fun _ => rfl) fun _ _ => rfl

theorem mirrors_tells {Cause Answer : Type}
    {action mirror : Action (Recorder SoftwareModule) Cause Answer} (tell : Cause → Failure)
    (say : Answer → Told)
    (mirrors : Mirrors (Recorder.moved (SoftwareModule.renamed rename)) id action mirror) :
    Mirrors (renamed rename) id (onRecorder tell action >>= fun answer => pure (say answer))
      (onRecorder tell mirror >>= fun answer => pure (say answer)) := by
  apply (mirrors_onRecorder tell mirrors).bind
  intro answer
  exact mirrors_pure (say answer)

theorem mirrors_keep (moduleKey : ModuleKey) :
    Mirrors (renamed rename) id (keep moduleKey) (keep (moduleKey.renamed rename)) := by
  apply Mirrors.bind
  · apply mirrors_modify
    intro session
    simp only [renamed, List.map_append, List.map_cons, List.map_nil]
  · intro _
    exact mirrors_pure (Told.opened moduleKey.handle moduleKey.area moduleKey.publicKey)

theorem mirrors_withKey (index : Nat) {use mirrored : ModuleKey → Step}
    (uses : ∀ moduleKey, Mirrors (renamed rename) id (use moduleKey)
      (mirrored (moduleKey.renamed rename))) :
    Mirrors (renamed rename) id (withKey index use) (withKey index mirrored) := by
  apply mirrors_current_bind
  intro known
  have found : (known.renamed rename).opened[index]? =
      known.opened[index]?.map (ModuleKey.renamed rename) := List.getElem?_map
  rw [found]
  cases known.opened[index]? with
  | none => exact mirrors_pure Told.nothing
  | some moduleKey => exact uses moduleKey

/-- A module key always serves as a TLS key, so all depends on the scheme that is chosen. -/
theorem run_signHandshake (draws : Draws) (offered : List Nat) (message : Bytes)
    (moduleKey : ModuleKey) (session : Session) :
    (signHandshake draws offered message moduleKey).run session =
      match Tls.SigningKey.choose? moduleKey.key.bits offered with
      | none => ⟨.ok .nothing, [], session⟩
      | some scheme =>
        (Action.log (.negotiated scheme) >>= fun _ =>
          signAgreed draws message (Inspect.openRecord "RustlsSigningKey" [])
            ⟨moduleKey.credential, scheme⟩).run session := by
  have serves : Tls.SigningKey.ofCredential?
      (moduleKey.credential : SigningCredential (Recorder SoftwareModule)) =
        .ok ⟨moduleKey.credential, moduleKey.key.bits⟩ := rfl
  simp only [signHandshake, serves, Except.mapError, Action.run_ofExcept_bind,
    Tls.SigningKey.negotiate, Tls.SigningKey.signer?]
  cases Tls.SigningKey.choose? moduleKey.key.bits offered with
  | none => rfl
  | some scheme =>
    simp only [Option.map_some, Tls.SigningKey.inspect]
    rfl

section

variable (hides : HidesSecrets rename (Recorder.moved (SoftwareModule.renamed rename)))
  (draws : Draws) (message : Bytes) (moduleKey : ModuleKey)

include hides

theorem mirrors_signAgreed (shown : String) (scheme : Tls.SignatureScheme) :
    Mirrors (renamed rename) id
      (signAgreed draws message shown ⟨moduleKey.credential, scheme⟩)
      (signAgreed draws message shown ⟨(moduleKey.renamed rename).credential, scheme⟩) := by
  have signs := Tls.Signer.mirrors_sign hides moduleKey scheme draws message
  -- The signers differ, but not in what is shown of them.
  simp only [signAgreed, Tls.Signer.inspect]
  exact mirrors_tells Failure.tls (Told.handshake scheme _) signs

theorem mirrors_signHandshake (offered : List Nat) :
    Mirrors (renamed rename) id (signHandshake draws offered message moduleKey)
      (signHandshake draws offered message (moduleKey.renamed rename)) := by
  intro session
  have same : (moduleKey.renamed rename).key = moduleKey.key := rfl
  rw [run_signHandshake, run_signHandshake, same]
  cases Tls.SigningKey.choose? moduleKey.key.bits offered with
  | none => rfl
  | some scheme =>
    have agreed := mirrors_signAgreed hides draws message moduleKey
      (Inspect.openRecord "RustlsSigningKey" []) scheme
    exact ((mirrors_log (.negotiated scheme)).bind fun _ => agreed) session

theorem mirrors_signBody :
    Mirrors (renamed rename) id (signBody draws message moduleKey)
      (signBody draws message (moduleKey.renamed rename)) := by
  have signs := Certificate.Signer.mirrors_sign hides moduleKey moduleKey.key draws message
  have issued : Mirrors (renamed rename) id
      (signIssued draws message ⟨moduleKey.credential, moduleKey.key⟩)
      (signIssued draws message ⟨(moduleKey.renamed rename).credential, moduleKey.key⟩) := by
    simp only [signIssued, Certificate.Signer.inspect]
    exact mirrors_tells Failure.certificate (Told.body _) signs
  intro session
  exact issued session

end

/-- Every operation mirrors itself with the renamed secrets. -/
theorem Operation.mirrors_perform (injective : Function.Injective rename) (operation : Operation) :
    Mirrors (Session.renamed rename) id operation.perform (operation.renamed rename).perform := by
  have hides : HidesSecrets rename (Recorder.moved (SoftwareModule.renamed rename)) :=
    Recorder.hidesSecrets (SoftwareModule.hidesSecrets injective)
  have hidesNew : HidesNewSecrets rename (Recorder.moved (SoftwareModule.renamed rename)) :=
    Recorder.hidesNewSecrets SoftwareModule.hidesNewSecrets
  cases operation with
  | loadExternal handle auth key attributes =>
    have loads := SoftwareModule.mirrors_loadExternal rename handle auth key attributes
    exact mirrors_tells Failure.module Told.area (Recorder.mirrors_onInner loads)
  | createPrimary draws handle auth template =>
    exact mirrors_tells Failure.module Told.area (hidesNew.createPrimary draws handle auth template)
  | evict handle =>
    exact mirrors_tells Failure.module (fun _ => Told.nothing) (hidesNew.evict handle)
  | readPublic handle =>
    exact mirrors_tells Failure.module Told.area (hides.readPublic handle)
  | sign draws handle auth digest scheme =>
    exact mirrors_tells Failure.module Told.signature (hides.sign draws handle auth digest scheme)
  | resetLockout =>
    have resets := SoftwareModule.mirrors_resetLockout rename
    exact mirrors_tells Failure.module (fun _ => Told.nothing) (Recorder.mirrors_onInner resets)
  | failNextSign failure =>
    exact mirrors_tells Failure.module (fun _ => Told.nothing)
      (Recorder.mirrors_failNextSign failure)
  | provision draws handle auth template =>
    have provisions := ModuleKey.mirrors_provision hides hidesNew draws handle auth template
    apply (mirrors_onRecorder Failure.library provisions).bind
    exact mirrors_keep
  | openKey handle auth =>
    have opens := ModuleKey.mirrors_ofHandle hides handle auth
    apply (mirrors_onRecorder Failure.library opens).bind
    exact mirrors_keep
  | copyKey index => exact mirrors_withKey index mirrors_keep
  | signDigest index draws digest options =>
    apply mirrors_withKey index
    intro moduleKey
    have signs := moduleKey.mirrors_sign hides draws digest options
    exact mirrors_tells Failure.library Told.signature signs
  | signHandshake index draws offered message =>
    apply mirrors_withKey index
    intro moduleKey
    exact mirrors_signHandshake hides draws message moduleKey offered
  | signBody index draws message =>
    apply mirrors_withKey index
    intro moduleKey
    exact mirrors_signBody hides draws message moduleKey

/-- What is seen does not tell two sessions apart that differ in their secrets. -/
theorem view_renamed (outcome : Outcome Session Failure Told) :
    view ⟨outcome.answer.map id, outcome.events, outcome.state.renamed rename⟩ = view outcome := by
  have answer : outcome.answer.map id = outcome.answer := by cases outcome.answer <;> rfl
  have module : (outcome.state.recorder.inner.renamed rename).inspect =
      outcome.state.recorder.inner.inspect := SoftwareModule.inspect_renamed _
  have keys : (outcome.state.opened.map (ModuleKey.renamed rename)).map ModuleKey.inspect =
      outcome.state.opened.map ModuleKey.inspect := by
    rw [List.map_map]
    rfl
  simp only [view, renamed, Recorder.moved, answer, module, keys]
  rfl

/-- A run with renamed secrets shows what the run shows, from any session. -/
theorem views_renamed (injective : Function.Injective rename) (operations : List Operation)
    (session : Session) :
    (session.renamed rename).views (operations.map (Operation.renamed rename)) =
      session.views operations := by
  induction operations generalizing session with
  | nil => rfl
  | cons operation rest ih =>
    have mirrored := operation.mirrors_perform injective session
    rw [List.map_cons, views, views, mirrored, view_renamed, ih]

/-- No secret can be seen.

For every injective renaming of authorization values and every list of operations on a new recorded
module, the operations with the renamed values show, one after the other, what the operations with
the values show: the same results and failures with the same wording, the same events, the same
module and keys for a developer to look at, the same commands written down, and the same counts and
lockouts. -/
theorem secrets_unseen (rename : AuthValue → AuthValue) (injective : Function.Injective rename)
    (limit : UInt32) (operations : List Operation) :
    (start limit).views (operations.map (Operation.renamed rename)) =
      (start limit).views operations := by
  have fresh : (start limit).renamed rename = start limit := rfl
  have same := views_renamed injective operations (start limit)
  rw [fresh] at same
  exact same

open SoftwareModule

/-- A key is loaded and opened, once with its secret and once with another value. Both are asked to
sign, and then the first one by a TLS peer. -/
def Sample.visit (own other : AuthValue) : List Operation :=
  [.loadExternal Sample.handle own Sample.shortKey .signingKey, .openKey Sample.handle own,
    .openKey Sample.handle other, .signDigest 0 (.ofSeed []) Sample.digest (.pkcs1 .sha1),
    .signDigest 1 (.ofSeed []) Sample.digest (.pkcs1 .sha1),
    .signHandshake 0 (.ofSeed []) [0x0401] Sample.digest]

/-- A key without a secret looks like a key with one. -/
theorem secrets_unseen_empty :
    Function.Injective (Equiv.swap AuthValue.empty Sample.secret) ∧
    (start 3).views (Sample.visit .empty Sample.otherSecret) =
      (start 3).views (Sample.visit Sample.secret Sample.otherSecret) := by
  have injective := (Equiv.swap AuthValue.empty Sample.secret).injective
  have other : Equiv.swap AuthValue.empty Sample.secret Sample.otherSecret = Sample.otherSecret :=
    Equiv.swap_apply_of_ne_of_ne (by decide) (by decide)
  have same := secrets_unseen (Equiv.swap AuthValue.empty Sample.secret) injective 3
    (Sample.visit Sample.secret Sample.otherSecret)
  simp only [Sample.visit, List.map_cons, List.map_nil, Operation.renamed,
    Equiv.swap_apply_right, other] at same
  exact ⟨injective, same⟩

end Session

end SealedKeys

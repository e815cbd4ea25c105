import SealedKeys.Proofs.SoftwareModule.Commands

/-!
What a sign command can come to.

`SignOutcome` has one case for each way through the command, with what was found on that way, the
answer and the module afterwards. A locked module answers without looking at the authorization
value or the digest: its answer is `lockedReply`.
-/

namespace SealedKeys

theorem AuthValue.isMatch_iff (auth other : AuthValue) :
    auth.isMatch other = true ↔ auth.bytes = other.bytes := by
  simp only [AuthValue.isMatch, beq_iff_eq]

namespace SoftwareModule

/-- A module holds an RSA key at a handle, and the object may sign. -/
structure HoldsSigner (module : SoftwareModule) (handle : Handle) (object : ModuleObject)
    (key : Rsa.PrivateKey) : Prop where
  present : module.objects.get? handle = some object
  signs : object.area.attributes.sign = true
  rsa : object.material = .rsa key

/-- A module compares authorization values for an object: it is not locked out, and the object
takes such a value. -/
structure AsksAuth (module : SoftwareModule) (handle : Handle) (object : ModuleObject)
    (key : Rsa.PrivateKey) : Prop extends HoldsSigner module handle object key where
  unlocked : module.isLockedOut = false
  userWithAuth : object.area.attributes.userWithAuth = true

section

variable (module : SoftwareModule) (draws : Draws) (handle : Handle) (auth : AuthValue)
  (digest : Bytes) (scheme : Scheme)

/-- The ways through a sign command: the answer, and the module afterwards. -/
inductive SignOutcome : Except ModuleError Bytes → SoftwareModule → Prop where
  | absent (absent : module.objects.get? handle = none) :
    SignOutcome (.error (.handleNotFound handle)) module.counted
  | unfit {object : ModuleObject} (present : module.objects.get? handle = some object)
      (unfit : object.area.attributes.sign = false) :
    SignOutcome (.error (.attributes handle "signing")) module.counted
  | foreign {object : ModuleObject} {reason : String}
      (present : module.objects.get? handle = some object)
      (signs : object.area.attributes.sign = true)
      (foreign : ∀ key, object.material ≠ .rsa key)
      (told : signingKey handle scheme object = .error (.scheme reason)) :
    SignOutcome (.error (.scheme reason)) module.counted
  | locked {object : ModuleObject} {key : Rsa.PrivateKey}
      (holds : HoldsSigner module handle object key) (locked : module.isLockedOut = true) :
    SignOutcome (.error .lockout) module.counted
  | closed {object : ModuleObject} {key : Rsa.PrivateKey}
      (holds : HoldsSigner module handle object key) (unlocked : module.isLockedOut = false)
      (closed : object.area.attributes.userWithAuth = false) :
    SignOutcome (.error (.attributes handle "password authorization")) module.counted
  | wrongAuth {object : ModuleObject} {key : Rsa.PrivateKey}
      (asks : AsksAuth module handle object key) (differs : object.auth.bytes ≠ auth.bytes) :
    SignOutcome (.error (.authFailure handle))
      (module.counted.withFailures (module.failedAuths + 1))
  | wrongLength {object : ModuleObject} {key : Rsa.PrivateKey}
      (asks : AsksAuth module handle object key) (same : object.auth.bytes = auth.bytes)
      (differs : digest.length ≠ scheme.hash.size) :
    SignOutcome (.error (.digestSize scheme.hash.size digest.length))
      (module.counted.withFailures 0)
  | tried {object : ModuleObject} {key : Rsa.PrivateKey}
      (asks : AsksAuth module handle object key) (same : object.auth.bytes = auth.bytes)
      (length : digest.length = scheme.hash.size) :
    SignOutcome (signature draws key digest scheme) (module.counted.withFailures 0)

end

/-- Signing leaves the objects alone, whatever comes of it. -/
theorem SignOutcome.objects_eq {module left : SoftwareModule} {draws : Draws} {handle : Handle}
    {auth : AuthValue} {digest : Bytes} {scheme : Scheme} {answer : Except ModuleError Bytes}
    (outcome : SignOutcome module draws handle auth digest scheme answer left) :
    left.objects = module.objects := by
  cases outcome <;> rfl

/-- Signing is counted, whatever comes of it. -/
theorem SignOutcome.commands_eq {module left : SoftwareModule} {draws : Draws} {handle : Handle}
    {auth : AuthValue} {digest : Bytes} {scheme : Scheme} {answer : Except ModuleError Bytes}
    (outcome : SignOutcome module draws handle auth digest scheme answer left) :
    left.commands = module.commands + 1 := by
  cases outcome <;> rfl

/-- The key of an object that is to sign is its RSA key; without one, the scheme is blamed. -/
theorem signingKey_cases (handle : Handle) (scheme : Scheme) (object : ModuleObject) :
    (∃ key, object.material = .rsa key ∧ signingKey handle scheme object = .ok key) ∨
      ((∀ key, object.material ≠ .rsa key) ∧
        ∃ reason, signingKey handle scheme object = .error (.scheme reason)) := by
  unfold signingKey
  cases object.material with
  | rsa key => exact .inl ⟨key, rfl, rfl⟩
  | ecc curve => exact .inr ⟨fun key => nofun, _, rfl⟩
  | keyedHash => exact .inr ⟨fun key => nofun, _, rfl⟩

/-- When signing itself fails, the command or the scheme is blamed. -/
theorem signature_blames {draws : Draws} {key : Rsa.PrivateKey} {digest : Bytes}
    {scheme : Scheme} {failure : ModuleError}
    (failed : signature draws key digest scheme = .error failure) :
    ∃ reason, failure = .commandFailed reason ∨ failure = .scheme reason := by
  rcases scheme with ⟨padding, hash⟩
  cases padding with
  | pkcs1 =>
    rcases mapError_eq_error_iff.1 failed with ⟨fault, -, rfl⟩
    exact ⟨_, .inl rfl⟩
  | pss =>
    simp only [signature] at failed
    cases chosen : Scheme.saltLength? ⟨.pss, hash⟩ key.bits with
    | none =>
      rw [chosen] at failed
      cases failed
      exact ⟨_, .inr rfl⟩
    | some length =>
      rw [chosen] at failed
      rcases mapError_eq_error_iff.1 failed with ⟨fault, -, rfl⟩
      exact ⟨_, .inl rfl⟩

theorem run_authorize_bind {Answer : Type} {module : SoftwareModule} {handle : Handle}
    {object : ModuleObject} (present : module.objects.get? handle = some object)
    (auth : AuthValue) (next : Unit → Command Answer) :
    (authorize handle auth >>= next).run module =
      if module.isLockedOut then ⟨.error .lockout, [], module⟩
      else if !object.area.attributes.userWithAuth then
        ⟨.error (.attributes handle "password authorization"), [], module⟩
      else if object.auth.isMatch auth then (next ()).run (module.withFailures 0)
      else
        ⟨.error (.authFailure handle), [.authorizationFailed handle (module.failedAuths + 1)],
          module.withFailures (module.failedAuths + 1)⟩ := by
  simp only [authorize, Action.run_bind_assoc, Action.run_current_bind, Action.run_ensure_bind,
    run_lookup_bind, present]
  cases module.isLockedOut <;> cases object.area.attributes.userWithAuth <;>
    cases object.auth.isMatch auth <;> rfl

theorem run_lookupRsa_bind {Answer : Type} {module : SoftwareModule} {handle : Handle}
    {object : ModuleObject} {key : Rsa.PrivateKey}
    (present : module.objects.get? handle = some object) (rsa : object.material = .rsa key)
    (next : Rsa.PrivateKey → Command Answer) :
    (lookupRsa handle >>= next).run module = (next key).run module := by
  simp only [lookupRsa, Action.run_bind_assoc, Action.run_current_bind, present, Option.map_some,
    rsa]
  rfl

/-- Every sign command goes one of the ways. -/
theorem sign_outcome (module : SoftwareModule) (draws : Draws) (handle : Handle)
    (auth : AuthValue) (digest : Bytes) (scheme : Scheme) :
    SignOutcome module draws handle auth digest scheme
      ((sign draws handle auth digest scheme).run module).answer
      ((sign draws handle auth digest scheme).run module).state := by
  simp only [sign, run_count_bind, run_lookup_bind, counted_objects]
  cases present : module.objects.get? handle with
  | none => exact .absent present
  | some object =>
    simp only [Action.run_ensure_bind]
    cases signs : object.area.attributes.sign with
    | false => exact .unfit present signs
    | true =>
      simp only [if_true, Action.run_ofExcept_bind]
      rcases signingKey_cases handle scheme object with
        ⟨key, rsa, given⟩ | ⟨foreign, reason, told⟩
      · have holds : HoldsSigner module handle object key := ⟨present, signs, rsa⟩
        have found : module.counted.objects.get? handle = some object := present
        have still : (module.counted.withFailures 0).objects.get? handle = some object := present
        simp only [given, run_authorize_bind found, run_lookupRsa_bind still rsa,
          counted_isLockedOut, counted_failedAuths, Action.run_ensure_bind, Action.run_log_bind,
          Action.run_ofExcept]
        cases locked : module.isLockedOut with
        | true => exact .locked holds locked
        | false =>
          cases takesAuth : object.area.attributes.userWithAuth with
          | false => exact .closed holds locked takesAuth
          | true =>
            have asks : AsksAuth module handle object key := ⟨holds, locked, takesAuth⟩
            cases isMatch : object.auth.isMatch auth with
            | false =>
              refine .wrongAuth asks fun same => ?_
              rw [(AuthValue.isMatch_iff _ _).2 same] at isMatch
              cases isMatch
            | true =>
              have same := (AuthValue.isMatch_iff _ _).1 isMatch
              by_cases length : digest.length = scheme.hash.size
              · simp only [length, beq_self_eq_true]
                exact .tried asks same length
              · have differs : (digest.length == scheme.hash.size) = false := by
                  simp only [beq_eq_false_iff_ne, ne_eq, length, not_false_eq_true]
                simp only [differs]
                exact .wrongLength asks same length
      · simp only [told]
        exact .foreign present signs foreign told

/-- What a locked module answers to a sign command. -/
def lockedReply (module : SoftwareModule) (handle : Handle) (scheme : Scheme) : ModuleError :=
  match module.objects.get? handle with
  | none => .handleNotFound handle
  | some object =>
    if object.area.attributes.sign then
      match signingKey handle scheme object with
      | .error failure => failure
      | .ok _ => .lockout
    else .attributes handle "signing"

/-- A locked module answers every sign command with `lockedReply` and counts it, no more. -/
theorem sign_locked {module : SoftwareModule} (locked : module.isLockedOut = true)
    (draws : Draws) (handle : Handle) (auth : AuthValue) (digest : Bytes) (scheme : Scheme) :
    ((sign draws handle auth digest scheme).run module).answer =
        .error (module.lockedReply handle scheme) ∧
      ((sign draws handle auth digest scheme).run module).state = module.counted := by
  have outcome := sign_outcome module draws handle auth digest scheme
  revert outcome
  generalize ((sign draws handle auth digest scheme).run module).answer = answer
  generalize ((sign draws handle auth digest scheme).run module).state = left
  intro outcome
  cases outcome with
  | absent absent => simp only [lockedReply, absent, and_self]
  | unfit present unfit => simp [lockedReply, present, unfit]
  | foreign present signs foreign told => simp [lockedReply, present, signs, told]
  | @locked object key holds =>
    have given : signingKey handle scheme object = .ok key := by
      simp only [signingKey, holds.rsa]
    simp [lockedReply, holds.present, holds.signs, given]
  | closed _ unlocked => cases locked.symm.trans unlocked
  | wrongAuth asks => cases locked.symm.trans asks.unlocked
  | wrongLength asks => cases locked.symm.trans asks.unlocked
  | tried asks => cases locked.symm.trans asks.unlocked

end SoftwareModule

end SealedKeys

import Mathlib.Data.List.Forall2
import SealedKeys.Proofs.SoftwareModule.Lockout

/-!
What a locked-out module gives away.

Nothing but a reset ends a lockout. Until then every sign request is answered without a look at
the authorization value or the digest, so that the replies of two runs that differ only in these
are the same; all other requests are answered as if there were no lockout.
-/

namespace SealedKeys

namespace SoftwareModule

/-- Whether a reply to a sign request comes only after authorization values were compared. -/
def comparesAuth : Except ModuleError Reply → Bool
  | .ok _ | .error (.authFailure _) | .error (.digestSize _ _) | .error (.commandFailed _) => true
  | .error _ => false

/-- Whether a request makes, reads or takes out an object. -/
def Request.isUnauthorized : Request → Bool
  | .sign _ _ _ _ _ | .resetLockout => false
  | _ => true

/-- Two requests are the same but for what a sign request keeps secret or signs: the
authorization value, the digest, and the draws. -/
inductive SameButSecrets : Request → Request → Prop where
  | same (request : Request) : SameButSecrets request request
  | sign (first second : Draws) (handle : Handle) (auth other : AuthValue)
      (digest candidate : Bytes) (scheme : Scheme) :
    SameButSecrets (.sign first handle auth digest scheme)
      (.sign second handle other candidate scheme)

/-- A module is locked out with a given count of failures, and shows no more than that. -/
structure Sealed (module : SoftwareModule) (failures : UInt32) : Prop where
  locked : module.isLockedOut = true
  count : module.failedAuths = failures
  /-- No reply to a sign request tells that authorization values were compared. -/
  silent : ∀ draws handle auth digest scheme,
    comparesAuth (module.reply (.sign draws handle auth digest scheme)) = false
  /-- Whoever asks for a signature of an object that could give one is told of the lockout. -/
  refuses : ∀ draws handle auth digest scheme object key, HoldsSigner module handle object key →
    module.reply (.sign draws handle auth digest scheme) = .error .lockout
  /-- Neither the authorization value nor the digest, nor any draw, shows in a reply. -/
  blind : ∀ first second handle auth other digest candidate scheme,
    module.reply (.sign first handle auth digest scheme) =
      module.reply (.sign second handle other candidate scheme)
  /-- Making, reading and evicting go on as they would with no failures counted. -/
  usual : ∀ request : Request, request.isUnauthorized = true →
    module.reply request = (module.withFailures 0).reply request ∧
      (module.next request).withFailures 0 = (module.withFailures 0).next request
  /-- A reset brings that module about, with the same objects. -/
  reset : module.next .resetLockout = module.withFailures 0

/-- Requests that need no authorization neither look at the count of failures nor change it. -/
theorem perform_withFailures (module : SoftwareModule) {request : Request}
    (unauthorized : request.isUnauthorized = true) (failures : UInt32) :
    (module.withFailures failures).reply request = module.reply request ∧
      (module.withFailures failures).next request =
        (module.next request).withFailures failures := by
  unfold reply next
  cases request with
  | loadExternal handle auth key attributes =>
    simp only [Request.perform, Action.run_bind_pure, run_loadExternal, withFailures_objects]
    cases module.objects.get? handle with
    | some object => exact ⟨rfl, rfl⟩
    | none => cases externalArea key attributes <;> exact ⟨rfl, rfl⟩
  | createPrimary draws handle auth template =>
    simp only [Request.perform, Action.run_bind_pure, run_createPrimary, withFailures_objects]
    cases module.objects.get? handle with
    | some object => exact ⟨rfl, rfl⟩
    | none => rcases createdKey draws template with failure | ⟨material, area⟩ <;> exact ⟨rfl, rfl⟩
  | evict handle =>
    simp only [Request.perform, Action.run_bind_pure, run_evict, withFailures_objects]
    cases module.objects.get? handle <;> exact ⟨rfl, rfl⟩
  | readPublic handle =>
    simp only [Request.perform, Action.run_bind_pure, run_readPublic, withFailures_objects]
    exact ⟨trivial, rfl⟩
  | sign draws handle auth digest scheme => cases unauthorized
  | resetLockout => cases unauthorized

variable {module : SoftwareModule}

theorem reply_sign_locked (locked : module.isLockedOut = true) (draws : Draws)
    (handle : Handle) (auth : AuthValue) (digest : Bytes) (scheme : Scheme) :
    module.reply (.sign draws handle auth digest scheme) =
      .error (module.lockedReply handle scheme) := by
  rw [reply_sign, (sign_locked locked draws handle auth digest scheme).1]
  rfl

theorem next_sign_locked (locked : module.isLockedOut = true) (draws : Draws)
    (handle : Handle) (auth : AuthValue) (digest : Bytes) (scheme : Scheme) :
    module.next (.sign draws handle auth digest scheme) = module.counted := by
  rw [next_sign, (sign_locked locked draws handle auth digest scheme).2]

theorem comparesAuth_lockedReply (module : SoftwareModule) (handle : Handle) (scheme : Scheme) :
    comparesAuth (.error (module.lockedReply handle scheme)) = false := by
  unfold lockedReply
  cases module.objects.get? handle with
  | none => rfl
  | some object =>
    simp only
    split
    · rcases signingKey_cases handle scheme object with
        ⟨key, -, given⟩ | ⟨-, reason, told⟩
      · rw [given]
        rfl
      · rw [told]
        rfl
    · rfl

theorem lockedReply_of_holdsSigner {handle : Handle} {object : ModuleObject}
    {key : Rsa.PrivateKey} (holds : HoldsSigner module handle object key) (scheme : Scheme) :
    module.lockedReply handle scheme = .lockout := by
  simp only [lockedReply, holds.present, holds.signs, if_true, signingKey, holds.rsa]

/-- Being locked out is enough to be sealed. -/
theorem sealed_of_locked (locked : module.isLockedOut = true) :
    module.Sealed module.failedAuths where
  locked := locked
  count := rfl
  silent draws handle auth digest scheme := by
    rw [reply_sign_locked locked]
    exact comparesAuth_lockedReply module handle scheme
  refuses draws handle auth digest scheme object key holds := by
    rw [reply_sign_locked locked, lockedReply_of_holdsSigner holds]
  blind first second handle auth other digest candidate scheme := by
    rw [reply_sign_locked locked, reply_sign_locked locked]
  usual request unauthorized := by
    rcases module.perform_withFailures unauthorized 0 with ⟨reply, next⟩
    exact ⟨reply.symm, next.symm⟩
  reset := rfl

/-- Nothing but a reset changes the count of a locked module. -/
theorem Responds.failedAuths_locked {left : SoftwareModule} {request : Request}
    {reply : Except ModuleError Reply} (response : Responds module request reply left)
    (locked : module.isLockedOut = true) (noReset : request ≠ .resetLockout) :
    left.failedAuths = module.failedAuths := by
  cases response with
  | reset => exact absurd rfl noReset
  | sign outcome =>
    cases outcome with
    | wrongAuth asks => cases locked.symm.trans asks.unlocked
    | wrongLength asks => cases locked.symm.trans asks.unlocked
    | tried asks => cases locked.symm.trans asks.unlocked
    | _ => rfl
  | _ => rfl

theorem next_locked (locked : module.isLockedOut = true) {request : Request}
    (noReset : request ≠ .resetLockout) :
    (module.next request).isLockedOut = true ∧
      (module.next request).failedAuths = module.failedAuths := by
  have response := responds module request
  have count := response.failedAuths_locked locked noReset
  refine ⟨?_, count⟩
  rw [isLockedOut_iff, response.maxAuthFailures_eq, count]
  exact (isLockedOut_iff module).1 locked

/-- A lockout lasts through every run without a reset, at the same count. -/
theorem after_locked (locked : module.isLockedOut = true) {requests : List Request}
    (noReset : Request.resetLockout ∉ requests) :
    (module.after requests).isLockedOut = true ∧
      (module.after requests).failedAuths = module.failedAuths := by
  induction requests generalizing module with
  | nil => exact ⟨locked, rfl⟩
  | cons request rest ih =>
    simp only [List.mem_cons, not_or] at noReset
    rcases noReset with ⟨first, later⟩
    rcases next_locked locked (Ne.symm first) with ⟨still, count⟩
    rw [after_cons, ← count]
    exact ih still later

/-- Of two requests that are the same but for secrets, a locked module makes the same. -/
theorem SameButSecrets.perform_eq {request other : Request}
    (same : SameButSecrets request other) (locked : module.isLockedOut = true) :
    module.reply other = module.reply request ∧ module.next other = module.next request := by
  cases same with
  | same => exact ⟨rfl, rfl⟩
  | sign =>
    rw [reply_sign_locked locked, reply_sign_locked locked, next_sign_locked locked,
      next_sign_locked locked]
    exact ⟨rfl, rfl⟩

/-- Two runs of a locked module that are the same but for secrets have the same replies, and
leave the same module. -/
theorem run_eq_of_sameButSecrets (locked : module.isLockedOut = true)
    {requests others : List Request} (noReset : Request.resetLockout ∉ requests)
    (same : List.Forall₂ SameButSecrets requests others) :
    (module.transcript others).map Exchange.reply =
        (module.transcript requests).map Exchange.reply ∧
      module.after others = module.after requests := by
  induction same generalizing module with
  | nil => exact ⟨rfl, rfl⟩
  | @cons request other rest remaining one _ ih =>
    simp only [List.mem_cons, not_or] at noReset
    rcases noReset with ⟨first, later⟩
    rcases one.perform_eq locked with ⟨reply, next⟩
    rcases ih (next_locked locked (Ne.symm first)).1 later with ⟨replies, left⟩
    simp only [transcript_cons, List.map_cons, after_cons, next, exchange, reply, replies, left,
      and_self]

/-- A lockout absorbs every run without a reset.

From any module that is locked out, whatever is made, evicted, read or asked to sign, the module
stays sealed at the same count, and what is secret in the sign requests of the run shows neither
in the replies nor in the module that is left. -/
theorem lockout_absorbs (locked : module.isLockedOut = true) {requests : List Request}
    (noReset : Request.resetLockout ∉ requests) :
    (∀ earlier later, requests = earlier ++ later →
      (module.after earlier).Sealed module.failedAuths) ∧
    (∀ others, List.Forall₂ SameButSecrets requests others →
      (module.transcript others).map Exchange.reply =
          (module.transcript requests).map Exchange.reply ∧
        module.after others = module.after requests) := by
  constructor
  · rintro earlier later rfl
    obtain ⟨still, count⟩ :=
      after_locked locked fun member => noReset (List.mem_append_left later member)
    rw [← count]
    exact sealed_of_locked still
  · intro others same
    exact run_eq_of_sameButSecrets locked noReset same

/-- A module with a limit of one, after a wrong guess. -/
def Sample.guessed : SoftwareModule :=
  (empty 1).after [Sample.load Sample.shortKey Sample.secret, Sample.sign Sample.otherSecret]

/-- Making the object anew, with a secret that is known, does not open a locked module: it stays
sealed, and does not tell a right secret from a wrong one. -/
theorem lockout_absorbs_reload :
    (Sample.guessed.after
        [.evict Sample.handle, Sample.load Sample.shortKey Sample.otherSecret]).Sealed
      Sample.guessed.failedAuths ∧
    (Sample.guessed.transcript
        [.evict Sample.handle, Sample.load Sample.shortKey Sample.otherSecret,
          Sample.sign Sample.secret]).map Exchange.reply =
      (Sample.guessed.transcript
        [.evict Sample.handle, Sample.load Sample.shortKey Sample.otherSecret,
          Sample.sign Sample.otherSecret]).map Exchange.reply := by
  have locked : Sample.guessed.isLockedOut = true := by decide +kernel
  have noReset : Request.resetLockout ∉
      [.evict Sample.handle, Sample.load Sample.shortKey Sample.otherSecret,
        Sample.sign Sample.otherSecret] := by
    simp [Sample.load, Sample.sign]
  rcases lockout_absorbs locked noReset with ⟨remains, blind⟩
  refine ⟨remains _ [Sample.sign Sample.otherSecret] rfl, (blind _ ?_).1⟩
  exact .cons (.same _) (.cons (.same _) (.cons (.sign _ _ _ _ _ _ _ _) .nil))

end SoftwareModule

end SealedKeys

import SealedKeys.Proofs.SoftwareModule.Transcript

/-!
When a module is locked out.

The failure count of a module is told by its transcript: it is the number of authorization
failures since the last reset and the last sign request whose authorization value was accepted.
That acceptance shows in the reply even where nothing is signed (`Exchange.authorized`).

The count is kept in a word. With a limit, which is a word as well, that makes no difference: a
failure is only added below the limit (`failedAuths_eq_recentFailures`). Without one the word is the
number of failures up to a multiple of `2 ^ 32` (`after_failedAuths`), and nobody asks for it.
-/

namespace SealedKeys

namespace SoftwareModule

/-- Whether a module holds an RSA key at a handle. -/
def holdsRsa (module : SoftwareModule) (handle : Handle) : Bool :=
  match module.objects.get? handle with
  | some ⟨.rsa _, _, _⟩ => true
  | _ => false

theorem holdsRsa_iff (module : SoftwareModule) (handle : Handle) :
    module.holdsRsa handle = true ↔
      ∃ object key, module.objects.get? handle = some object ∧ object.material = .rsa key := by
  unfold holdsRsa
  cases module.objects.get? handle with
  | none => simp
  | some object =>
    rcases object with ⟨_ | _ | _, auth, area⟩ <;> simp

namespace Exchange

/-- Whether an exchange is a sign request answered with an authorization failure. -/
def failsAuth (exchange : Exchange) : Bool :=
  match exchange.request, exchange.reply with
  | .sign _ _ _ _ _, .error (.authFailure _) => true
  | _, _ => false

/-- Whether an exchange is a sign request whose authorization value was accepted. It was if
there is a signature, or if the failure is one that is only looked for afterwards; the scheme is
also blamed beforehand, but then the object is no RSA key. -/
def authorized (exchange : Exchange) : Bool :=
  match exchange.request, exchange.reply with
  | .sign _ _ _ _ _, .ok _ => true
  | .sign _ _ _ _ _, .error (.digestSize _ _) => true
  | .sign _ _ _ _ _, .error (.commandFailed _) => true
  | .sign _ handle _ _ _, .error (.scheme _) => exchange.found.holdsRsa handle
  | _, _ => false

/-- Whether an exchange ends a count of failures. -/
def clears (exchange : Exchange) : Bool :=
  match exchange.request with
  | .resetLockout => true
  | _ => exchange.authorized

end Exchange

/-- The authorization failures in a history since the last exchange that cleared them. -/
def recentFailures (history : List Exchange) : Nat :=
  (history.reverse.takeWhile fun exchange => !exchange.clears).countP Exchange.failsAuth

theorem recentFailures_append_singleton (history : List Exchange) (exchange : Exchange) :
    recentFailures (history ++ [exchange]) =
      if exchange.clears then 0 else recentFailures history + exchange.failsAuth.toNat := by
  unfold recentFailures
  rw [List.reverse_append, List.reverse_singleton, List.singleton_append, List.takeWhile_cons]
  cases exchange.clears with
  | true => rfl
  | false =>
    simp only [Bool.not_false, if_true, List.countP_cons, Bool.false_eq_true, if_false]
    cases exchange.failsAuth <;> rfl

/-! ## What one request does to the count -/

variable {module left : SoftwareModule} {request : Request} {reply : Except ModuleError Reply}

theorem Responds.maxAuthFailures_eq (response : Responds module request reply left) :
    left.maxAuthFailures = module.maxAuthFailures := by
  cases response with
  | sign outcome => cases outcome <;> rfl
  | _ => rfl

/-- A request to make an object has no part in the count. -/
theorem Exchange.uncounted_of_target {handle : Handle}
    (target : request.target? = some handle) :
    Exchange.clears ⟨module, request, reply⟩ = false ∧
      Exchange.failsAuth ⟨module, request, reply⟩ = false := by
  cases request <;> cases target <;> exact ⟨rfl, rfl⟩

/-- A request starts the count again, or adds one to it for an authorization failure, as the
exchange tells. -/
theorem Responds.failedAuths_eq (response : Responds module request reply left) :
    left.failedAuths =
      if Exchange.clears ⟨module, request, reply⟩ then 0
      else if Exchange.failsAuth ⟨module, request, reply⟩ then module.failedAuths + 1
      else module.failedAuths := by
  cases response with
  | occupied target | unmade target | made target =>
    rcases Exchange.uncounted_of_target target with ⟨clears, fails⟩
    rw [clears, fails]
    rfl
  | unevicted | evicted | unread | read | reset => rfl
  | @sign draws handle auth digest scheme answer left outcome =>
    cases outcome with
    | absent | unfit | locked | closed | wrongAuth | wrongLength => rfl
    | foreign present _ foreign =>
      have other : module.holdsRsa handle = false := by
        rw [← Bool.not_eq_true, holdsRsa_iff]
        rintro ⟨object, key, found, rsa⟩
        cases present.symm.trans found
        exact foreign key rsa
      simp only [Except.map, Exchange.clears, Exchange.authorized, other, Exchange.failsAuth]
      rfl
    | @tried object key asks =>
      have clears : Exchange.clears ⟨module, .sign draws handle auth digest scheme,
          (signature draws key digest scheme).map .signature⟩ = true := by
        cases signed : signature draws key digest scheme with
        | ok bytes => rfl
        | error failure =>
          rcases signature_blames signed with ⟨reason, rfl | rfl⟩
          · rfl
          · exact (holdsRsa_iff _ _).2 ⟨object, key, asks.present, asks.rsa⟩
      rw [clears]
      rfl

/-- A failure is only added below the limit. -/
theorem Responds.unlocked_of_failsAuth (response : Responds module request reply left)
    (fails : Exchange.failsAuth ⟨module, request, reply⟩ = true) :
    module.isLockedOut = false := by
  cases response with
  | occupied target | unmade target | made target =>
    rw [(Exchange.uncounted_of_target target).2] at fails
    cases fails
  | unevicted | evicted | unread | read | reset => cases fails
  | @sign draws handle auth digest scheme answer left outcome =>
    cases outcome with
    | absent | unfit | foreign | locked | closed | wrongLength => cases fails
    | wrongAuth asks => exact asks.unlocked
    | tried asks => exact asks.unlocked

/-! ## What a run does to the count -/

theorem isLockedOut_iff (module : SoftwareModule) :
    module.isLockedOut = true ↔
      0 < module.maxAuthFailures ∧ module.maxAuthFailures ≤ module.failedAuths := by
  simp only [isLockedOut, decide_eq_true_eq]

/-- Below a limit there is room for one more failure. -/
theorem failedAuths_lt {module : SoftwareModule} (positive : 0 < module.maxAuthFailures)
    (unlocked : module.isLockedOut = false) : module.failedAuths < module.maxAuthFailures := by
  rw [← Bool.not_eq_true, isLockedOut_iff] at unlocked
  exact UInt32.not_le.1 fun reached => unlocked ⟨positive, reached⟩

/-- A word below another one has room for one more. -/
theorem toNat_add_one_of_lt {count limit : UInt32} (below : count < limit) :
    (count + 1).toNat = count.toNat + 1 := by
  have limit_lt := limit.toNat_lt
  rw [UInt32.lt_iff_toNat_lt] at below
  rw [UInt32.toNat_add, UInt32.toNat_one]
  exact Nat.mod_eq_of_lt (by omega)

theorem after_maxAuthFailures (module : SoftwareModule) (requests : List Request) :
    (module.after requests).maxAuthFailures = module.maxAuthFailures := by
  refine transcript_induction module (motive := fun _ left =>
    left.maxAuthFailures = module.maxAuthFailures) rfl ?_ requests
  intro past left request kept
  rw [(responds left request).maxAuthFailures_eq, kept]

/-- With a limit, the count is the number of recent failures, and there are never more than the
limit. -/
theorem failedAuths_eq_recentFailures {limit : UInt32} (positive : 0 < limit)
    (requests : List Request) :
    ((empty limit).after requests).failedAuths.toNat =
        recentFailures ((empty limit).transcript requests) ∧
      recentFailures ((empty limit).transcript requests) ≤ limit.toNat := by
  refine (transcript_induction (empty limit) (motive := fun history module =>
    module.maxAuthFailures = limit ∧ module.failedAuths.toNat = recentFailures history ∧
      recentFailures history ≤ limit.toNat) ⟨rfl, rfl, Nat.zero_le _⟩ ?_ requests).2
  rintro past module request ⟨kept, counted, within⟩
  have response := responds module request
  refine ⟨response.maxAuthFailures_eq.trans kept, ?_⟩
  rw [response.failedAuths_eq, recentFailures_append_singleton, exchange]
  cases Exchange.clears ⟨module, request, module.reply request⟩ with
  | true => exact ⟨rfl, Nat.zero_le _⟩
  | false =>
    cases fails : Exchange.failsAuth ⟨module, request, module.reply request⟩ with
    | false => exact ⟨counted, within⟩
    | true =>
      have below := failedAuths_lt (kept ▸ positive) (response.unlocked_of_failsAuth fails)
      have next := toNat_add_one_of_lt below
      rw [kept, UInt32.lt_iff_toNat_lt] at below
      simp only [Bool.false_eq_true, if_false, if_true, Bool.toNat_true, next]
      omega

/-- A module is locked out exactly if there is a limit and the recent failures reach it.

With a limit, the count is the number of recent failures and never passes the limit, and a failure
is only ever added below it, so that the word has room for one more; without one the module is never
locked out. -/
theorem lockout_exact (limit : UInt32) (requests : List Request) :
    (((empty limit).after requests).isLockedOut = true ↔
      0 < limit ∧ limit.toNat ≤ recentFailures ((empty limit).transcript requests)) ∧
    (0 < limit →
      ((empty limit).after requests).failedAuths.toNat =
        recentFailures ((empty limit).transcript requests) ∧
      ((empty limit).after requests).failedAuths ≤ limit ∧
      ∀ exchange ∈ (empty limit).transcript requests, exchange.failsAuth = true →
        exchange.found.failedAuths.toNat + 1 ≤ limit.toNat) ∧
    (limit = 0 → ((empty limit).after requests).isLockedOut = false) := by
  have same_limit : ((empty limit).after requests).maxAuthFailures = limit :=
    after_maxAuthFailures (empty limit) requests
  have locked := isLockedOut_iff ((empty limit).after requests)
  rw [same_limit, UInt32.le_iff_toNat_le] at locked
  refine ⟨?_, fun positive => ?_, ?_⟩
  · rw [locked]
    refine and_congr_right fun positive => ?_
    rw [(failedAuths_eq_recentFailures positive requests).1]
  · have ⟨counted, within⟩ := failedAuths_eq_recentFailures positive requests
    refine ⟨counted, ?_, ?_⟩
    · rwa [UInt32.le_iff_toNat_le, counted]
    · intro exchange member fails
      rcases mem_transcript member with ⟨earlier, request, rest, -, rfl⟩
      have unlocked := (responds _ request).unlocked_of_failsAuth fails
      have kept := after_maxAuthFailures (empty limit) earlier
      have below := failedAuths_lt (kept ▸ positive) unlocked
      rw [kept] at below
      exact UInt32.lt_iff_toNat_lt.1 below
  · rintro rfl
    rw [← Bool.not_eq_true, locked]
    rintro ⟨positive, -⟩
    exact absurd positive (by decide)

-- Two wrong secrets reach a limit of two.
example :
    ((empty 2).after
      [Sample.load Sample.shortKey Sample.secret, Sample.sign Sample.otherSecret,
        Sample.sign Sample.otherSecret]).isLockedOut = true := by
  decide +kernel

-- A right secret clears the count, even where the digest is too short to be signed.
example :
    ((empty 2).after
      [Sample.load Sample.shortKey Sample.secret, Sample.sign Sample.otherSecret,
        .sign (.ofSeed []) Sample.handle Sample.secret [] ⟨.pkcs1, .sha1⟩,
        Sample.sign Sample.otherSecret]).failedAuths = 1 := by
  decide +kernel

end SoftwareModule

end SealedKeys

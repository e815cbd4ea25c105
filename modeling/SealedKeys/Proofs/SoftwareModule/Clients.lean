import SealedKeys.Proofs.SoftwareModule.Completeness
import SealedKeys.Proofs.SoftwareModule.Ledger
import SealedKeys.Proofs.SoftwareModule.Lockout
import SealedKeys.Proofs.SoftwareModule.Standing

/-!
Clients that share a module without sharing a handle.

The clients' requests reach the module in some order, each client's own in the order in which it
sends them. All of them meet one table of objects, one count of authorization failures and one
count of commands. As long as the module is not locked out, only what stands at the handle of a
request decides its reply (`reply_congr`), and what the request leaves at a handle follows from the
reply and from what stood there (`get?_next_congr`). So the module agrees, at the handles of each
client, with a module that this client has for itself, and no reply tells of the other clients.

The bound on failures is the one thing that clients do share. That is why a lockout is excluded:
the failures of one client lock out all the others.
-/

namespace SealedKeys

namespace SoftwareModule

/-- The handle that a request is about. -/
def Request.handle? : Request → Option Handle
  | .loadExternal handle _ _ _ | .createPrimary _ handle _ _ | .evict handle
  | .readPublic handle | .sign _ handle _ _ _ => some handle
  | .resetLockout => none

theorem Request.handle?_of_changes? {request : Request} {handle : Handle}
    (changes : request.changes? = some handle) : request.handle? = some handle := by
  cases request <;> cases changes <;> rfl

section

variable {Client : Type} [DecidableEq Client]

/-- The requests that one client has in a schedule. -/
def requestsOf (client : Client) (schedule : List (Client × Request)) : List Request :=
  (schedule.filter fun entry => entry.1 = client).map Prod.snd

/-- A schedule interleaves the requests of the clients: each client's requests stand in it in their
own order, and there are no others. -/
def Interleaves (requests : Client → List Request) (schedule : List (Client × Request)) : Prop :=
  ∀ client, requestsOf client schedule = requests client

/-- No handle is used by two clients. -/
def SeparateHandles (requests : Client → List Request) : Prop :=
  ∀ client other, client ≠ other → ∀ own ∈ requests client, ∀ foreign ∈ requests other,
    ∀ handle, own.handle? = some handle → foreign.handle? ≠ some handle

/-- The replies that one client sees while a module carries out a schedule. -/
def repliesTo (client : Client) (module : SoftwareModule) :
    List (Client × Request) → List (Except ModuleError Reply)
  | [] => []
  | entry :: rest =>
    if entry.1 = client then
      module.reply entry.2 :: repliesTo client (module.next entry.2) rest
    else repliesTo client (module.next entry.2) rest

theorem mem_requestsOf {schedule : List (Client × Request)} {entry : Client × Request}
    (member : entry ∈ schedule) : entry.2 ∈ requestsOf entry.1 schedule := by
  apply List.mem_map_of_mem
  rw [List.mem_filter]
  exact ⟨member, decide_eq_true rfl⟩

end

/-! ## Two modules that agree at a handle -/

section

variable {module other : SoftwareModule} {request : Request} {handle : Handle}

theorem objection?_congr (agree : module.objects.get? handle = other.objects.get? handle)
    (unlocked : module.isLockedOut = false) (open_too : other.isLockedOut = false)
    (auth : AuthValue) (digest : Bytes) (scheme : Scheme) :
    module.objection? handle auth digest scheme = other.objection? handle auth digest scheme := by
  simp only [objection?, objections, agree, unlocked, open_too]

theorem signAnswer_congr (agree : module.objects.get? handle = other.objects.get? handle)
    (unlocked : module.isLockedOut = false) (open_too : other.isLockedOut = false)
    (draws : Draws) (auth : AuthValue) (digest : Bytes) (scheme : Scheme) :
    module.signAnswer draws handle auth digest scheme =
      other.signAnswer draws handle auth digest scheme := by
  have same := objection?_congr agree unlocked open_too auth digest scheme
  cases told : module.objection? handle auth digest scheme with
  | some failure =>
    rw [signAnswer_eq_of_objection? told, signAnswer_eq_of_objection? (same ▸ told)]
  | none =>
    rcases signAnswer_eq_signature told draws with ⟨object, key, asks, -, answered⟩
    rcases signAnswer_eq_signature (same ▸ told) draws with ⟨found, own, asked, -, answered_too⟩
    have present := asks.present
    rw [agree, asked.present] at present
    cases present
    cases asks.rsa.symm.trans asked.rsa
    rw [answered, answered_too]

/-- Modules that are not locked out and agree at the handle of a request reply the same. -/
theorem reply_congr (unlocked : module.isLockedOut = false) (open_too : other.isLockedOut = false)
    (agree : ∀ handle, request.handle? = some handle →
      module.objects.get? handle = other.objects.get? handle) :
    module.reply request = other.reply request := by
  cases request with
  | sign draws handle auth digest scheme =>
    have same := signAnswer_congr (agree handle rfl) unlocked open_too draws auth digest scheme
    rw [reply_sign, reply_sign]
    exact congrArg (Except.map Reply.signature) same
  | loadExternal handle auth key attributes =>
    simp only [reply, Request.perform, Action.run_bind_pure, run_loadExternal, agree handle rfl]
    cases other.objects.get? handle with
    | some object => rfl
    | none => cases externalArea key attributes <;> rfl
  | createPrimary draws handle auth template =>
    simp only [reply, Request.perform, Action.run_bind_pure, run_createPrimary, agree handle rfl]
    cases other.objects.get? handle with
    | some object => rfl
    | none => rcases createdKey draws template with failure | ⟨material, area⟩ <;> rfl
  | evict handle =>
    simp only [reply, Request.perform, Action.run_bind_pure, run_evict, agree handle rfl]
    cases other.objects.get? handle <;> rfl
  | readPublic handle =>
    simp only [reply, Request.perform, Action.run_bind_pure, run_readPublic, agree handle rfl]
  | resetLockout => rfl

theorem Exchange.spares_congr {reply : Except ModuleError Reply} :
    Exchange.Spares ⟨module, request, reply⟩ handle ↔
      Exchange.Spares ⟨other, request, reply⟩ handle :=
  ⟨fun spares => ⟨spares.not_made, spares.not_evicted⟩,
    fun spares => ⟨spares.not_made, spares.not_evicted⟩⟩

/-- What a request leaves at a handle follows from its reply and from what stood there. -/
theorem get?_next_congr (reply : module.reply request = other.reply request)
    (agree : module.objects.get? handle = other.objects.get? handle) :
    (module.next request).objects.get? handle = (other.next request).objects.get? handle := by
  apply Option.ext
  intro object
  rw [(responds module request).get?_iff, (responds other request).get?_iff, reply, agree,
    Exchange.spares_congr]
  exact Iff.rfl

end

/-! ## A client among others, and alone -/

section

variable {Client : Type} [DecidableEq Client] {client : Client}

theorem isLockedOut_of_zero {module : SoftwareModule} (unlimited : module.maxAuthFailures = 0) :
    module.isLockedOut = false := by
  rw [← Bool.not_eq_true, isLockedOut_iff, unlimited]
  rintro ⟨positive, -⟩
  exact UInt32.lt_irrefl 0 positive

/-- A client is told the same among others and alone, if at its handles the shared module and its
own begin with the same objects. -/
theorem repliesTo_eq_of_agree (owned : Handle → Prop) {module solo : SoftwareModule}
    {schedule : List (Client × Request)}
    (own : ∀ entry ∈ schedule, entry.1 = client →
      ∀ handle, entry.2.handle? = some handle → owned handle)
    (foreign : ∀ entry ∈ schedule, entry.1 ≠ client →
      ∀ handle, entry.2.handle? = some handle → ¬ owned handle)
    (agree : ∀ handle, owned handle →
      module.objects.get? handle = solo.objects.get? handle)
    (unlocked : ∀ exchange ∈ module.transcript (schedule.map Prod.snd),
      exchange.found.isLockedOut = false)
    (unlimited : solo.maxAuthFailures = 0) :
    repliesTo client module schedule =
      (solo.transcript (requestsOf client schedule)).map Exchange.reply := by
  -- The two modules go on agreeing at the owned handles: a request of the client does the same to
  -- both, and a request of another client reaches the shared one alone, at other handles.
  induction schedule generalizing module solo with
  | nil => rfl
  | cons entry rest ih =>
    rcases List.forall_mem_cons.1 own with ⟨own_now, own_rest⟩
    rcases List.forall_mem_cons.1 foreign with ⟨foreign_now, foreign_rest⟩
    rw [List.map_cons, transcript_cons] at unlocked
    rcases List.forall_mem_cons.1 unlocked with ⟨unlocked_now, unlocked_rest⟩
    by_cases mine : entry.1 = client
    · have same : module.reply entry.2 = solo.reply entry.2 := by
        apply reply_congr unlocked_now (isLockedOut_of_zero unlimited)
        intro handle named
        exact agree handle (own_now mine handle named)
      have further := ih own_rest foreign_rest
        (fun handle owns => get?_next_congr same (agree handle owns)) unlocked_rest
        ((responds solo entry.2).maxAuthFailures_eq.trans unlimited)
      simp only [repliesTo, requestsOf, mine, if_true, decide_true, List.filter_cons, List.map_cons,
        transcript_cons, exchange, same] at further ⊢
      rw [further]
    · have kept : ∀ handle, owned handle →
          (module.next entry.2).objects.get? handle = solo.objects.get? handle := by
        intro handle owns
        have elsewhere : entry.2.changes? ≠ some handle := by
          intro changes
          have named := Request.handle?_of_changes? changes
          exact foreign_now mine handle named owns
        rw [(responds module entry.2).get?_eq_of_changes?_ne elsewhere]
        exact agree handle owns
      have further := ih own_rest foreign_rest kept unlocked_rest unlimited
      simp only [repliesTo, requestsOf, mine, if_false, decide_false, List.filter_cons,
        Bool.false_eq_true] at further ⊢
      exact further

/-- A client among others sees what it would see alone. -/
theorem repliesTo_eq_solo {requests : Client → List Request} (separate : SeparateHandles requests)
    {limit : UInt32} {schedule : List (Client × Request)} (interleaves : Interleaves requests schedule)
    (unlocked : ∀ exchange ∈ (empty limit).transcript (schedule.map Prod.snd),
      exchange.found.isLockedOut = false) (client : Client) :
    repliesTo client (empty limit) schedule =
      ((empty 0).transcript (requests client)).map Exchange.reply := by
  have mine : ∀ entry ∈ schedule, entry.2 ∈ requests entry.1 := by
    intro entry member
    rw [← interleaves]
    exact mem_requestsOf member
  rw [← interleaves client]
  apply repliesTo_eq_of_agree
    (fun handle => ∃ request ∈ requests client, request.handle? = some handle)
  · rintro entry member rfl handle named
    exact ⟨entry.2, mine entry member, named⟩
  · rintro entry member others handle named ⟨request, own, owned⟩
    exact separate client entry.1 (Ne.symm others) request own entry.2 (mine entry member) handle
      owned named
  · intro handle _
    rfl
  · exact unlocked
  · rfl

/-- Without a limit there is no lockout. -/
theorem unlocked_of_zero (requests : List Request) :
    ∀ exchange ∈ (empty 0).transcript requests, exchange.found.isLockedOut = false := by
  intro exchange member
  rcases mem_transcript member with ⟨earlier, request, rest, -, rfl⟩
  exact isLockedOut_of_zero (after_maxAuthFailures _ _)

/-- Clients that use separate handles do not disturb each other.

As long as no request meets a module that is locked out, each client is told, at each of its
requests, what an empty module without a limit would tell it if it were alone. Where the shared
module has no limit there is no lockout to exclude, and what a client is told does not depend on the
order in which the requests of different clients arrive. -/
theorem clients_independent {requests : Client → List Request}
    (separate : SeparateHandles requests) :
    (∀ limit schedule, Interleaves requests schedule →
      (∀ exchange ∈ (empty limit).transcript (schedule.map Prod.snd),
        exchange.found.isLockedOut = false) →
      ∀ client, repliesTo client (empty limit) schedule =
        ((empty 0).transcript (requests client)).map Exchange.reply) ∧
    (∀ schedule other, Interleaves requests schedule → Interleaves requests other →
      ∀ client, repliesTo client (empty 0) schedule = repliesTo client (empty 0) other) := by
  constructor
  · intro limit schedule interleaves unlocked client
    exact repliesTo_eq_solo separate interleaves unlocked client
  · intro schedule other interleaves interleaved client
    rw [repliesTo_eq_solo separate interleaves (unlocked_of_zero _) client,
      repliesTo_eq_solo separate interleaved (unlocked_of_zero _) client]

end

/-! ## Two clients that guess wrongly -/

namespace Sample

def nextHandle : Handle := ⟨0x81000002⟩

/-- Each client loads the same key at a handle of its own. The one guesses its secret wrongly twice,
the other asks for a signature in between. -/
def clientRequests : Bool → List Request
  | true => [load shortKey secret, sign otherSecret, sign otherSecret]
  | false => [.loadExternal nextHandle secret shortKey .signingKey,
      .sign (.ofSeed []) nextHandle secret digest ⟨.pkcs1, .sha1⟩]

def clientSchedule : List (Bool × Request) :=
  [(true, load shortKey secret), (false, .loadExternal nextHandle secret shortKey .signingKey),
    (true, sign otherSecret),
    (false, .sign (.ofSeed []) nextHandle secret digest ⟨.pkcs1, .sha1⟩),
    (true, sign otherSecret)]

end Sample

/-- Two failures would lock out the shared module, but the signature of the other client is given
between them. Each client is told what it would be told alone. -/
theorem clients_independent_guesses :
    SeparateHandles Sample.clientRequests ∧
    Interleaves Sample.clientRequests Sample.clientSchedule ∧
    (∀ exchange ∈ (empty 2).transcript (Sample.clientSchedule.map Prod.snd),
      exchange.found.isLockedOut = false) ∧
    ∀ client, repliesTo client (empty 2) Sample.clientSchedule =
      ((empty 0).transcript (Sample.clientRequests client)).map Exchange.reply := by
  have separate : SeparateHandles Sample.clientRequests := by
    have handles : ∀ client, ∀ request ∈ Sample.clientRequests client,
        request.handle? = some (if client then Sample.handle else Sample.nextHandle) := by
      intro client request member
      cases client <;> simp only [Sample.clientRequests, List.mem_cons, List.not_mem_nil,
        or_false] at member
      · rcases member with rfl | rfl <;> rfl
      · rcases member with rfl | rfl | rfl <;> rfl
    intro client other different own ofClient foreign ofOther handle named
    rw [handles client own ofClient] at named
    rw [handles other foreign ofOther, ← named]
    cases client <;> cases other <;> first | exact absurd rfl different | decide
  have interleaves : Interleaves Sample.clientRequests Sample.clientSchedule := by
    intro client
    cases client <;> rfl
  have unlocked : ∀ exchange ∈ (empty 2).transcript (Sample.clientSchedule.map Prod.snd),
      exchange.found.isLockedOut = false := by
    have computed : ((empty 2).transcript (Sample.clientSchedule.map Prod.snd)).all
        (fun exchange => exchange.found.isLockedOut == false) = true := by
      decide +kernel
    intro exchange member
    exact eq_of_beq (List.all_eq_true.1 computed exchange member)
  exact ⟨separate, interleaves, unlocked,
    (clients_independent separate).1 2 Sample.clientSchedule interleaves unlocked⟩

end SoftwareModule

end SealedKeys

import SealedKeys.Proofs.SoftwareModule.Description
import SealedKeys.Proofs.SoftwareModule.Signing

/-!
Requests to a software module, and the transcript of a run.

A `Request` is a command with its arguments and with what the module draws for it. A run is a
list of requests; its transcript keeps, for each, the module that met it and the reply.
`responds` says all that a request can come to, and `transcript_induction` carries a fact about
transcript and module from the first request to the last.
-/

namespace SealedKeys

namespace SoftwareModule

/-- A command for a module, with what the module draws while it answers. -/
inductive Request where
  | loadExternal (handle : Handle) (auth : AuthValue) (key : Rsa.PrivateKey)
      (attributes : Attributes)
  | createPrimary (draws : Draws) (handle : Handle) (auth : AuthValue) (template : KeyTemplate)
  | evict (handle : Handle)
  | readPublic (handle : Handle)
  | sign (draws : Draws) (handle : Handle) (auth : AuthValue) (digest : Bytes) (scheme : Scheme)
  | resetLockout

/-- What a command that succeeds gives back. -/
inductive Reply where
  | area (area : PublicArea)
  | signature (signature : Bytes)
  | done
  deriving DecidableEq

/-- Carries a request out. -/
def Request.perform : Request → Command Reply
  | .loadExternal handle auth key attributes => do
    return .area (← SoftwareModule.loadExternal handle auth key attributes)
  | .createPrimary draws handle auth template => do
    return .area (← SoftwareModule.createPrimary draws handle auth template)
  | .evict handle => do
    let _ ← SoftwareModule.evict handle
    return .done
  | .readPublic handle => do
    return .area (← SoftwareModule.readPublic handle)
  | .sign draws handle auth digest scheme => do
    return .signature (← SoftwareModule.sign draws handle auth digest scheme)
  | .resetLockout => do
    let _ ← SoftwareModule.resetLockout
    return .done

/-- The reply of a module to a request. -/
def reply (module : SoftwareModule) (request : Request) : Except ModuleError Reply :=
  (request.perform.run module).answer

/-- The module after a request. -/
def next (module : SoftwareModule) (request : Request) : SoftwareModule :=
  (request.perform.run module).state

/-- The module after a list of requests. -/
def after (module : SoftwareModule) (requests : List Request) : SoftwareModule :=
  requests.foldl next module

/-- A request and its reply, with the module that met the request. -/
structure Exchange where
  found : SoftwareModule
  request : Request
  reply : Except ModuleError Reply

/-- What passes between a module and whoever sends it a request. -/
def exchange (module : SoftwareModule) (request : Request) : Exchange :=
  ⟨module, request, module.reply request⟩

/-- What passes while a module carries out a list of requests, the first one first. -/
def transcript (module : SoftwareModule) : List Request → List Exchange
  | [] => []
  | request :: rest => module.exchange request :: (module.next request).transcript rest

/-! ## Runs -/

@[simp] theorem after_nil (module : SoftwareModule) : module.after [] = module := rfl

@[simp] theorem after_cons (module : SoftwareModule) (request : Request) (rest : List Request) :
    module.after (request :: rest) = (module.next request).after rest := rfl

@[simp] theorem transcript_nil (module : SoftwareModule) : module.transcript [] = [] := rfl

@[simp] theorem transcript_cons (module : SoftwareModule) (request : Request)
    (rest : List Request) :
    module.transcript (request :: rest) =
      module.exchange request :: (module.next request).transcript rest := rfl

theorem transcript_append (module : SoftwareModule) (first second : List Request) :
    module.transcript (first ++ second) =
      module.transcript first ++ (module.after first).transcript second := by
  induction first generalizing module with
  | nil => rfl
  | cons request rest ih =>
    simp only [List.cons_append, transcript_cons, ih, after_cons]

/-- What holds of the start and is kept by every request holds at the end of every run. -/
theorem transcript_induction (start : SoftwareModule)
    {motive : List Exchange → SoftwareModule → Prop} (base : motive [] start)
    (step : ∀ past module request, motive past module →
      motive (past ++ [module.exchange request]) (module.next request))
    (requests : List Request) : motive (start.transcript requests) (start.after requests) := by
  -- Generalized to a run that continues any past, so that the run may be taken from its front.
  have continued : ∀ (requests : List Request) (past : List Exchange) (module : SoftwareModule),
      motive past module →
        motive (past ++ module.transcript requests) (module.after requests) := by
    intro requests
    induction requests with
    | nil =>
      intro past module holds
      simpa only [transcript_nil, List.append_nil, after_nil] using holds
    | cons request rest ih =>
      intro past module holds
      have further := ih _ _ (step past module request holds)
      simpa only [transcript_cons, after_cons, List.append_assoc, List.singleton_append]
        using further
  simpa only [List.nil_append] using continued requests [] start base

/-- Every exchange of a transcript is one with the module that the requests before it left. -/
theorem transcript_eq_append {module : SoftwareModule} {requests : List Request}
    {before later : List Exchange} {exchange : Exchange}
    (recorded : module.transcript requests = before ++ exchange :: later) :
    ∃ earlier request rest, requests = earlier ++ request :: rest ∧
      before = module.transcript earlier ∧
      exchange = (module.after earlier).exchange request := by
  induction requests generalizing module before with
  | nil => cases before <;> cases recorded
  | cons request rest ih =>
    cases before with
    | nil =>
      cases recorded
      exact ⟨[], request, rest, rfl, rfl, rfl⟩
    | cons head tail =>
      simp only [transcript_cons, List.cons_append, List.cons.injEq] at recorded
      rcases recorded with ⟨rfl, recorded⟩
      rcases ih recorded with ⟨earlier, later, remaining, rfl, rfl, rfl⟩
      exact ⟨request :: earlier, later, remaining, rfl, rfl, rfl⟩

theorem mem_transcript {module : SoftwareModule} {requests : List Request} {exchange : Exchange}
    (member : exchange ∈ module.transcript requests) :
    ∃ earlier request rest, requests = earlier ++ request :: rest ∧
      exchange = (module.after earlier).exchange request := by
  rcases List.append_of_mem member with ⟨before, later, recorded⟩
  rcases transcript_eq_append recorded with ⟨earlier, request, rest, split, -, same⟩
  exact ⟨earlier, request, rest, split, same⟩

/-! ## What a request can come to -/

/-- What a request to make an object asks for. -/
structure Making where
  handle : Handle
  material : KeyMaterial
  auth : AuthValue
  attributes : Attributes

/-- The object that is made, once its public area is known. -/
def Making.object (making : Making) (area : PublicArea) : ModuleObject :=
  ⟨making.material, making.auth, area⟩

namespace Request

/-- The handle at which a request would make an object. -/
def target? : Request → Option Handle
  | .loadExternal handle _ _ _ | .createPrimary _ handle _ _ => some handle
  | _ => none

/-- What a request to make an object asks for, if a key can be had for it. -/
def making? : Request → Option Making
  | .loadExternal handle auth key attributes => some ⟨handle, .rsa key, auth, attributes⟩
  | .createPrimary draws handle auth template =>
    (drawnMaterial? draws template.algorithm).map fun material =>
      ⟨handle, material, auth, template.attributes⟩
  | _ => none

end Request

/-- The ways through a request: the reply, and the module afterwards. -/
inductive Responds (module : SoftwareModule) :
    Request → Except ModuleError Reply → SoftwareModule → Prop where
  | occupied {request : Request} {handle : Handle} {object : ModuleObject}
      (target : request.target? = some handle)
      (present : module.objects.get? handle = some object) :
    Responds module request (.error (.handleInUse handle)) module.counted
  | unmade {request : Request} {handle : Handle} {failure : ModuleError}
      (target : request.target? = some handle) (free : module.objects.get? handle = none)
      (blames : BlamesMaking failure) :
    Responds module request (.error failure) module.counted
  | made {request : Request} {making : Making} {area : PublicArea}
      (target : request.target? = some making.handle) (wanted : request.making? = some making)
      (free : module.objects.get? making.handle = none)
      (attributes : area.attributes = making.attributes)
      (describes : area.Describes making.material) :
    Responds module request (.ok (.area area))
      (module.counted.withObjects (module.objects.insert making.handle (making.object area)))
  | unevicted {handle : Handle} (absent : module.objects.get? handle = none) :
    Responds module (.evict handle) (.error (.handleNotFound handle)) module.counted
  | evicted {handle : Handle} {object : ModuleObject}
      (present : module.objects.get? handle = some object) :
    Responds module (.evict handle) (.ok .done)
      (module.counted.withObjects (module.objects.erase handle))
  | unread {handle : Handle} (absent : module.objects.get? handle = none) :
    Responds module (.readPublic handle) (.error (.handleNotFound handle)) module.counted
  | read {handle : Handle} {object : ModuleObject}
      (present : module.objects.get? handle = some object) :
    Responds module (.readPublic handle) (.ok (.area object.area)) module.counted
  | sign {draws : Draws} {handle : Handle} {auth : AuthValue} {digest : Bytes} {scheme : Scheme}
      {answer : Except ModuleError Bytes} {left : SoftwareModule}
      (outcome : SignOutcome module draws handle auth digest scheme answer left) :
    Responds module (.sign draws handle auth digest scheme) (answer.map .signature) left
  | reset : Responds module .resetLockout (.ok .done) (module.withFailures 0)

theorem reply_sign (module : SoftwareModule) (draws : Draws) (handle : Handle)
    (auth : AuthValue) (digest : Bytes) (scheme : Scheme) :
    module.reply (.sign draws handle auth digest scheme) =
      ((SoftwareModule.sign draws handle auth digest scheme).run module).answer.map
        .signature := by
  simp only [reply, Request.perform, Action.run_bind_pure]

theorem next_sign (module : SoftwareModule) (draws : Draws) (handle : Handle)
    (auth : AuthValue) (digest : Bytes) (scheme : Scheme) :
    module.next (.sign draws handle auth digest scheme) =
      ((SoftwareModule.sign draws handle auth digest scheme).run module).state := by
  simp only [next, Request.perform, Action.run_bind_pure]

theorem reply_sign_eq_ok {module : SoftwareModule} {draws : Draws} {handle : Handle}
    {auth : AuthValue} {digest : Bytes} {scheme : Scheme} {bytes : Bytes} :
    module.reply (.sign draws handle auth digest scheme) = .ok (.signature bytes) ↔
      ((SoftwareModule.sign draws handle auth digest scheme).run module).answer = .ok bytes := by
  rw [reply_sign]
  cases ((SoftwareModule.sign draws handle auth digest scheme).run module).answer <;>
    simp [Except.map]

theorem signature_of_isOk {module : SoftwareModule} {draws : Draws} {handle : Handle}
    {auth : AuthValue} {digest : Bytes} {scheme : Scheme}
    (ok : (module.reply (.sign draws handle auth digest scheme)).isOk = true) :
    ∃ signature,
      module.reply (.sign draws handle auth digest scheme) = .ok (.signature signature) := by
  rw [reply_sign] at ok ⊢
  cases answered : ((SoftwareModule.sign draws handle auth digest scheme).run module).answer with
  | error failure =>
    rw [answered] at ok
    cases ok
  | ok signature => exact ⟨signature, rfl⟩

theorem reply_readPublic {module : SoftwareModule} {handle : Handle} {object : ModuleObject}
    (present : module.objects.get? handle = some object) :
    module.reply (.readPublic handle) = .ok (.area object.area) := by
  simp only [reply, Request.perform, Action.run_bind_pure, run_readPublic, present, Except.map]

theorem get?_next_evict (module : SoftwareModule) (handle : Handle) :
    (module.next (.evict handle)).objects.get? handle = none := by
  simp only [next, Request.perform, Action.run_bind_pure, run_evict]
  cases present : module.objects.get? handle with
  | none => exact present
  | some object => rw [withObjects_objects, ObjectTable.get?_erase, if_pos rfl]

/-- Every request goes one of the ways. -/
theorem responds (module : SoftwareModule) (request : Request) :
    Responds module request (module.reply request) (module.next request) := by
  unfold reply next
  cases request with
  | loadExternal handle auth key attributes =>
    simp only [Request.perform, Action.run_bind_pure, run_loadExternal]
    cases found : module.objects.get? handle with
    | some object => exact .occupied rfl found
    | none =>
      have tells := externalArea_tells key attributes
      cases told : externalArea key attributes with
      | error failure =>
        rw [told] at tells
        exact .unmade rfl found tells
      | ok area =>
        rw [told] at tells
        exact @Responds.made _ _ ⟨handle, .rsa key, auth, attributes⟩ area rfl rfl found tells.1
          tells.2
  | createPrimary draws handle auth template =>
    simp only [Request.perform, Action.run_bind_pure, run_createPrimary]
    cases found : module.objects.get? handle with
    | some object => exact .occupied rfl found
    | none =>
      have tells := createdKey_tells draws template
      cases created : createdKey draws template with
      | error failure =>
        rw [created] at tells
        exact .unmade rfl found tells
      | ok made =>
        rcases made with ⟨material, area⟩
        rw [created] at tells
        rcases tells with ⟨drawn, kept, describes⟩
        refine @Responds.made _ _ ⟨handle, material, auth, template.attributes⟩ area rfl ?_ found
          kept describes
        simp only [Request.making?, drawn, Option.map_some]
  | evict handle =>
    simp only [Request.perform, Action.run_bind_pure, run_evict]
    cases found : module.objects.get? handle with
    | none => exact .unevicted found
    | some object => exact .evicted found
  | readPublic handle =>
    simp only [Request.perform, Action.run_bind_pure, run_readPublic]
    cases found : module.objects.get? handle with
    | none => exact .unread found
    | some object => exact .read found
  | sign draws handle auth digest scheme =>
    simp only [Request.perform, Action.run_bind_pure]
    exact .sign (sign_outcome module draws handle auth digest scheme)
  | resetLockout => exact .reset

/-! ## Short runs

Requests at one handle that are small enough to be carried out in a proof. -/

namespace Sample

/-- The usual exponent goes with every odd modulus above it. -/
theorem admissible_usual {modulus : Nat} (odd : modulus % 2 = 1) (above : 65537 < modulus) :
    Rsa.Admissible modulus 65537 :=
  ⟨odd, by decide, by decide, above, by decide⟩

/-- A key whose modulus has 363 bits, enough for a PKCS#1 v1.5 signature on a SHA-1 digest. -/
def shortKey : Rsa.PrivateKey where
  p := 0x20000000000000000000000000000000000000000000a5
  q := 0x20000000000000000000000000000000000000000000c5
  others := []
  exponent := 65537
  privateExponent :=
    0x6d3892c76d3892c76d3892c76d3892c76d3892c76d3d5f83e07c1f83e07c1f83e07c1f83e07c1f83e07c1f9145
  admissible := admissible_usual (by decide +kernel) (by decide +kernel)
  inverse := by decide +kernel

theorem declarable_shortKey : Declarable shortKey :=
  ⟨by decide +kernel, by decide +kernel⟩

def handle : Handle := ⟨0x81000001⟩

def secret : AuthValue := ⟨[1, 2, 3], by decide⟩

def otherSecret : AuthValue := ⟨[1, 2, 4], by decide⟩

def digest : Bytes := List.replicate 20 0

/-- Loads a key that may sign. -/
def load (key : Rsa.PrivateKey) (auth : AuthValue) : Request :=
  .loadExternal handle auth key .signingKey

/-- Asks for a PKCS#1 v1.5 signature on the digest. -/
def sign (auth : AuthValue) : Request :=
  .sign (.ofSeed []) handle auth digest ⟨.pkcs1, .sha1⟩

/-- A module that was given a key, and nothing else. -/
def holding (key : Rsa.PrivateKey) : SoftwareModule :=
  (empty 3).after [load key secret]

/-- The object that the module makes of a key. -/
def object (key : Rsa.PrivateKey) : ModuleObject :=
  ⟨.rsa key, secret, ⟨.sha256, .signingKey, .rsa (.ofKey key)⟩⟩

theorem holding_eq {key : Rsa.PrivateKey} (fits : Declarable key) :
    holding key = (empty 3).counted.withObjects ((empty 3).objects.insert handle (object key)) := by
  have free : (empty 3).objects.get? handle = none := rfl
  have told := externalArea_of_declarable fits .signingKey
  have run := run_loadExternal handle secret key .signingKey (empty 3)
  simp only [free, told] at run
  change ((load key secret).perform.run (empty 3)).state = _
  rw [load, Request.perform, Action.run_bind_pure, run]
  rfl

theorem get?_holding {key : Rsa.PrivateKey} (fits : Declarable key) :
    (holding key).objects.get? handle = some (object key) := by
  rw [holding_eq fits, withObjects_objects, ObjectTable.get?_insert, if_pos rfl]

theorem holding_asksAuth {key : Rsa.PrivateKey} (fits : Declarable key) :
    AsksAuth (holding key) handle (object key) key where
  present := get?_holding fits
  signs := rfl
  rsa := rfl
  unlocked := by
    rw [holding_eq fits]
    rfl
  userWithAuth := rfl

theorem key_of_get?_holding {key own : Rsa.PrivateKey} {found : ModuleObject}
    (fits : Declarable key) (present : (holding key).objects.get? handle = some found)
    (rsa : found.material = .rsa own) : key = own := by
  rw [get?_holding fits] at present
  cases present
  exact KeyMaterial.rsa.inj rsa

end Sample

end SoftwareModule

end SealedKeys

import Mathlib.Logic.Function.Basic
import SealedKeys.Proofs.SoftwareModule.Transcript

/-!
The object table as those who use a module can know it.

Whoever sees the requests and the replies can keep a ledger: for each handle the public area that
was told when an object was made there, until the object is taken out. Only the last entry for a
handle counts. The ledger needs no key, no authorization value and no count of failures, and yet it
tells what the module will answer to every read, and when a handle is in use.

`Responds.areas_eq` is the simulation of the module by the ledger for one request, and `areas_after`
carries it through a run. What follows about single requests is then said of the areas alone.
-/

namespace SealedKeys

namespace SoftwareModule

/-- The handle at which a request puts an object in or takes one out. -/
def Request.changes? : Request → Option Handle
  | .loadExternal handle _ _ _ | .createPrimary _ handle _ _ | .evict handle => some handle
  | .readPublic _ | .sign _ _ _ _ _ | .resetLockout => none

/-- The ledger after one more exchange. A making that succeeded is entered with the area that was
told, an eviction that succeeded strikes the entry out, and nothing else is entered. -/
def Exchange.enter (exchange : Exchange) (ledger : Handle → Option PublicArea) :
    Handle → Option PublicArea :=
  match exchange.request, exchange.reply with
  | .loadExternal handle _ _ _, .ok (.area area) => Function.update ledger handle (some area)
  | .createPrimary _ handle _ _, .ok (.area area) => Function.update ledger handle (some area)
  | .evict handle, .ok _ => Function.update ledger handle none
  | _, _ => ledger

/-- The ledger of a history, which begins without entries. -/
def ledger (history : List Exchange) : Handle → Option PublicArea :=
  history.foldl (fun ledger exchange => exchange.enter ledger) fun _ => none

theorem ledger_append_singleton (history : List Exchange) (exchange : Exchange) :
    ledger (history ++ [exchange]) = exchange.enter (ledger history) := by
  simp only [ledger, List.foldl_append, List.foldl_cons, List.foldl_nil]

/-- The public areas that a module keeps. -/
def areas (module : SoftwareModule) (handle : Handle) : Option PublicArea :=
  (module.objects.get? handle).map ModuleObject.area

variable {module left : SoftwareModule} {request : Request} {reply : Except ModuleError Reply}
  {handle : Handle}

theorem isSome_areas_iff :
    (module.areas handle).isSome = true ↔ ∃ object, module.objects.get? handle = some object := by
  rw [areas, Option.isSome_map, Option.isSome_iff_exists]

theorem areas_insert (module left : SoftwareModule) (handle : Handle) (object : ModuleObject) :
    (left.withObjects (module.objects.insert handle object)).areas =
      Function.update module.areas handle (some object.area) := by
  funext other
  rw [areas, withObjects_objects, ObjectTable.get?_insert, Function.update_apply]
  split <;> rfl

theorem areas_erase (module left : SoftwareModule) (handle : Handle) :
    (left.withObjects (module.objects.erase handle)).areas =
      Function.update module.areas handle none := by
  funext other
  rw [areas, withObjects_objects, ObjectTable.get?_erase, Function.update_apply]
  split <;> rfl

theorem areas_congr (kept : left.objects = module.objects) : left.areas = module.areas := by
  funext other
  rw [areas, kept, areas]

theorem Exchange.enter_error (failure : ModuleError) (ledger : Handle → Option PublicArea) :
    Exchange.enter ⟨module, request, .error failure⟩ ledger = ledger := by
  cases request <;> rfl

/-- One request changes the areas of a module as the exchange is entered into a ledger. -/
theorem Responds.areas_eq (response : Responds module request reply left) :
    left.areas = Exchange.enter ⟨module, request, reply⟩ module.areas := by
  cases response with
  | occupied | unmade | unevicted | unread =>
    rw [Exchange.enter_error]
    exact areas_congr rfl
  | @made _ making area target =>
    have entered : Exchange.enter ⟨module, request, .ok (.area area)⟩ module.areas =
        Function.update module.areas making.handle (some area) := by
      cases request <;> cases target <;> rfl
    rw [entered]
    exact areas_insert module module.counted making.handle (making.object area)
  | @evicted evictedHandle => exact areas_erase module module.counted evictedHandle
  | read | reset => exact areas_congr rfl
  | @sign draws signer auth digest scheme answer _ outcome =>
    have unchanged : Exchange.enter
        ⟨module, .sign draws signer auth digest scheme, answer.map .signature⟩ module.areas =
          module.areas := by
      cases answer <;> rfl
    rw [unchanged]
    exact areas_congr outcome.objects_eq

/-- After every run from the empty module, the areas that it keeps are those of the ledger. -/
theorem areas_after (limit : UInt32) (requests : List Request) :
    ((empty limit).after requests).areas = ledger ((empty limit).transcript requests) := by
  refine transcript_induction (empty limit)
    (motive := fun history module => module.areas = ledger history) rfl ?_ requests
  intro past module request known
  rw [ledger_append_singleton, ← known]
  exact (responds module request).areas_eq

/-! ## What stays as it was -/

/-- A request changes no handle but the one it names. -/
theorem Responds.get?_eq_of_changes?_ne (response : Responds module request reply left)
    (elsewhere : request.changes? ≠ some handle) :
    left.objects.get? handle = module.objects.get? handle := by
  cases response with
  | occupied | unmade | unevicted | unread | read | reset => rfl
  | @made _ making _ target =>
    have apart : handle ≠ making.handle := by
      rintro rfl
      cases request <;> cases target <;> exact elsewhere rfl
    rw [withObjects_objects, ObjectTable.get?_insert, if_neg apart]
  | @evicted evictedHandle =>
    have apart : handle ≠ evictedHandle := by
      rintro rfl
      exact elsewhere rfl
    rw [withObjects_objects, ObjectTable.get?_erase, if_neg apart]
  | sign outcome => rw [outcome.objects_eq]

/-- A request that fails changes no object. -/
theorem Responds.objects_eq_of_error (response : Responds module request reply left)
    {failure : ModuleError} (failed : reply = .error failure) : left.objects = module.objects := by
  cases response with
  | occupied | unmade | unevicted | unread | read | reset => rfl
  | made | evicted => cases failed
  | sign outcome => exact outcome.objects_eq

/-! ## What the areas tell of a reply -/

theorem reply_readPublic_eq (module : SoftwareModule) (handle : Handle) :
    module.reply (.readPublic handle) =
      match module.areas handle with
      | some area => .ok (.area area)
      | none => .error (.handleNotFound handle) := by
  simp only [SoftwareModule.reply, Request.perform, Action.run_bind_pure, run_readPublic, areas]
  cases module.objects.get? handle <;> rfl

theorem Responds.handleInUse_iff (response : Responds module request reply left)
    (target : request.target? = some handle) (other : Handle) :
    reply = .error (.handleInUse other) ↔
      other = handle ∧ (module.areas handle).isSome = true := by
  rw [isSome_areas_iff]
  cases response with
  | occupied own present =>
    cases target.symm.trans own
    constructor
    · intro told
      cases told
      exact ⟨rfl, _, present⟩
    · rintro ⟨rfl, -⟩
      rfl
  | unmade own free blames =>
    cases target.symm.trans own
    constructor
    · intro told
      cases told
      rcases blames with ⟨reason, parameters | command⟩
      · cases parameters
      · cases command
    · rintro ⟨-, object, present⟩
      cases free.symm.trans present
  | made own _ free =>
    cases target.symm.trans own
    constructor
    · intro told
      cases told
    · rintro ⟨-, object, present⟩
      cases free.symm.trans present
  | unevicted | evicted | unread | read | sign | reset => cases target

theorem Responds.evicts_iff (response : Responds module (.evict handle) reply left) :
    (∃ answer, reply = .ok answer) ↔ (module.areas handle).isSome = true := by
  rw [isSome_areas_iff]
  cases response with
  | occupied target | unmade target | made target => cases target
  | unevicted absent =>
    constructor
    · rintro ⟨answer, told⟩
      cases told
    · rintro ⟨object, present⟩
      cases absent.symm.trans present
  | evicted present => exact ⟨fun _ => ⟨_, present⟩, fun _ => ⟨.done, rfl⟩⟩

/-- The store is a map in which the last write counts.

After every run from the empty module, and for every handle, a read is answered with the entry of
the ledger, and with `handleNotFound` if there is none. A request to make an object is told that its
handle is in use exactly if there is an entry for it, whatever else may be wrong with the request,
and an eviction succeeds exactly if there is one. Requests that name another handle, requests that
neither make nor evict, and requests that fail change nothing that a read is answered with. -/
theorem store_lastWrite (limit : UInt32) (requests : List Request) (handle : Handle) :
    ((empty limit).after requests).reply (.readPublic handle) =
      (match ledger ((empty limit).transcript requests) handle with
      | some area => .ok (.area area)
      | none => .error (.handleNotFound handle)) ∧
    (∀ request : Request, request.target? = some handle → ∀ other,
      ((empty limit).after requests).reply request = .error (.handleInUse other) ↔
        other = handle ∧ (ledger ((empty limit).transcript requests) handle).isSome = true) ∧
    ((∃ answer, ((empty limit).after requests).reply (.evict handle) = .ok answer) ↔
      (ledger ((empty limit).transcript requests) handle).isSome = true) ∧
    (∀ request : Request,
      request.changes? ≠ some handle ∨
        (∃ failure, ((empty limit).after requests).reply request = .error failure) →
      (((empty limit).after requests).next request).reply (.readPublic handle) =
        ((empty limit).after requests).reply (.readPublic handle)) := by
  rw [← areas_after]
  generalize (empty limit).after requests = module
  refine ⟨reply_readPublic_eq module handle, ?_, (responds module (.evict handle)).evicts_iff, ?_⟩
  · intro request target other
    exact (responds module request).handleInUse_iff target other
  · intro request unwritten
    have response := responds module request
    have same : (module.next request).areas handle = module.areas handle := by
      rcases unwritten with elsewhere | ⟨failure, failed⟩
      · rw [areas, response.get?_eq_of_changes?_ne elsewhere, areas]
      · exact congrFun (areas_congr (response.objects_eq_of_error failed)) handle
    rw [reply_readPublic_eq, reply_readPublic_eq, same]

/-- A key is loaded, evicted, and loaded again with another secret: a read tells of the second
loading, a third one finds the handle in use, and a wrong guess of the secret changes nothing. -/
theorem store_lastWrite_reload :
    ((empty 3).after [Sample.load Sample.shortKey Sample.secret, .evict Sample.handle,
        Sample.load Sample.shortKey Sample.otherSecret]).reply
      (Sample.load Sample.shortKey Sample.secret) = .error (.handleInUse Sample.handle) ∧
    (((empty 3).after [Sample.load Sample.shortKey Sample.secret, .evict Sample.handle,
        Sample.load Sample.shortKey Sample.otherSecret]).next
      (Sample.sign Sample.secret)).reply (.readPublic Sample.handle) =
        .ok (.area (Sample.object Sample.shortKey).area) := by
  have entry : ledger ((empty 3).transcript [Sample.load Sample.shortKey Sample.secret,
      .evict Sample.handle, Sample.load Sample.shortKey Sample.otherSecret]) Sample.handle =
        some (Sample.object Sample.shortKey).area := by
    decide +kernel
  rcases store_lastWrite 3 [Sample.load Sample.shortKey Sample.secret, .evict Sample.handle,
      Sample.load Sample.shortKey Sample.otherSecret] Sample.handle with
    ⟨read, inUse, -, unchanged⟩
  rw [entry] at read inUse
  constructor
  · exact (inUse _ rfl Sample.handle).2 ⟨rfl, rfl⟩
  · rw [unchanged (Sample.sign Sample.secret) (.inl nofun)]
    exact read

end SoftwareModule

end SealedKeys

import SealedKeys.Proofs.SoftwareModule.Transcript

/-!
The object table as the transcript tells it.

At a handle stands the object whose making is the last thing that happened there. `get?_after`
says this of every run from the empty module, so what is known of a stored object can be traced
to the request that made it.
-/

namespace SealedKeys

namespace SoftwareModule

namespace Exchange

/-- What was made in an exchange, with the public area told of it. Only a request that succeeded
made anything. -/
def made? (exchange : Exchange) : Option (Making × PublicArea) :=
  match exchange.reply with
  | .ok (.area area) => exchange.request.making?.map fun making => (making, area)
  | _ => none

/-- The handle at which an exchange took an object out. -/
def evicted? (exchange : Exchange) : Option Handle :=
  match exchange.request, exchange.reply with
  | .evict handle, .ok _ => some handle
  | _, _ => none

/-- In an exchange nothing was made at a handle and nothing taken out there. -/
structure Spares (exchange : Exchange) (handle : Handle) : Prop where
  not_made : ∀ making area, exchange.made? = some (making, area) → making.handle ≠ handle
  not_evicted : exchange.evicted? ≠ some handle

/-- An exchange in which nothing was made or taken out spares every handle. -/
theorem Spares.of_none {exchange : Exchange} (made : exchange.made? = none)
    (evicted : exchange.evicted? = none) (handle : Handle) : exchange.Spares handle where
  not_made := fun making area told => by rw [made] at told; cases told
  not_evicted := fun told => by rw [evicted] at told; cases told

end Exchange

/-- Of all that happened at its handle, the making of an object was the last. -/
def LastMade (history : List Exchange) (making : Making) (area : PublicArea) : Prop :=
  ∃ older exchange newer, history = older ++ exchange :: newer ∧
    exchange.made? = some (making, area) ∧
    ∀ later ∈ newer, later.Spares making.handle

theorem not_lastMade_nil (making : Making) (area : PublicArea) : ¬ LastMade [] making area := by
  rintro ⟨older, exchange, newer, split, -⟩
  cases older <;> cases split

/-- The newest exchange made the object, or left in place what the older ones had made. -/
theorem lastMade_append_singleton (history : List Exchange) (exchange : Exchange)
    (making : Making) (area : PublicArea) :
    LastMade (history ++ [exchange]) making area ↔
      exchange.made? = some (making, area) ∨
        LastMade history making area ∧ exchange.Spares making.handle := by
  constructor
  · rintro ⟨older, source, newer, split, made, spared⟩
    rcases List.eq_nil_or_concat newer with rfl | ⟨kept, last, rfl⟩
    · rcases List.append_inj' split rfl with ⟨-, same⟩
      cases same
      exact .inl made
    · rw [List.concat_eq_append] at split spared
      rw [← List.cons_append, ← List.append_assoc] at split
      rcases List.append_inj' split rfl with ⟨rfl, same⟩
      cases same
      refine .inr ⟨⟨older, source, kept, rfl, made, fun later member => ?_⟩, ?_⟩
      · exact spared later (List.mem_append_left _ member)
      · exact spared exchange (List.mem_append_right _ List.mem_cons_self)
  · rintro (made | ⟨⟨older, source, newer, rfl, made, spared⟩, last⟩)
    · exact ⟨history, exchange, [], rfl, made, fun later member => nomatch member⟩
    · refine ⟨older, source, newer ++ [exchange], by simp, made, fun later member => ?_⟩
      rcases List.mem_append.1 member with earlier | newest
      · exact spared later earlier
      · cases List.mem_singleton.1 newest
        exact last

variable {module left : SoftwareModule} {request : Request} {reply : Except ModuleError Reply}

/-- Where an exchange made and took out nothing, the table tells what it told before. -/
theorem Exchange.get?_iff_of_none {handle : Handle} {object : ModuleObject}
    (kept : left.objects = module.objects)
    (made : Exchange.made? ⟨module, request, reply⟩ = none)
    (evicted : Exchange.evicted? ⟨module, request, reply⟩ = none) :
    left.objects.get? handle = some object ↔
      (∃ making area, Exchange.made? ⟨module, request, reply⟩ = some (making, area) ∧
        making.handle = handle ∧ making.object area = object) ∨
      module.objects.get? handle = some object ∧
        Exchange.Spares ⟨module, request, reply⟩ handle := by
  rw [kept, made]
  have spares := Exchange.Spares.of_none made evicted handle
  simp only [reduceCtorEq, false_and, exists_false, false_or, spares, and_true]

/-- A request to make an object that failed made and took out nothing. -/
theorem Exchange.none_of_refused {handle : Handle} {failure : ModuleError}
    (target : request.target? = some handle) :
    Exchange.made? ⟨module, request, .error failure⟩ = none ∧
      Exchange.evicted? ⟨module, request, .error failure⟩ = none := by
  cases request <;> cases target <;> exact ⟨rfl, rfl⟩

/-- What a request leaves at a handle: what it made there, or else what it found there and
spared. -/
theorem Responds.get?_iff (response : Responds module request reply left) (handle : Handle)
    (object : ModuleObject) :
    left.objects.get? handle = some object ↔
      (∃ making area, Exchange.made? ⟨module, request, reply⟩ = some (making, area) ∧
        making.handle = handle ∧ making.object area = object) ∨
      module.objects.get? handle = some object ∧
        Exchange.Spares ⟨module, request, reply⟩ handle := by
  cases response with
  | @made _ making area target wanted free =>
    have made : Exchange.made? ⟨module, request, .ok (.area area)⟩ = some (making, area) := by
      simp only [Exchange.made?, wanted, Option.map_some]
    have notEvicted : Exchange.evicted? ⟨module, request, .ok (.area area)⟩ = none := by
      cases request <;> cases target <;> rfl
    rw [withObjects_objects, ObjectTable.get?_insert, made]
    by_cases same : handle = making.handle
    · subst same
      simp only [if_true, free, Option.some.injEq, Prod.mk.injEq, reduceCtorEq, false_and,
        or_false]
      constructor
      · intro same
        exact ⟨making, area, ⟨rfl, rfl⟩, rfl, same⟩
      · rintro ⟨_, _, ⟨rfl, rfl⟩, -, same⟩
        exact same
    · have elsewhere : making.handle ≠ handle := Ne.symm same
      have spares : Exchange.Spares ⟨module, request, .ok (.area area)⟩ handle := by
        refine ⟨fun other area told => ?_, by simp [notEvicted]⟩
        rw [made] at told
        cases told
        exact elsewhere
      simp only [if_neg same, Option.some.injEq, Prod.mk.injEq, spares, and_true]
      constructor
      · exact .inr
      · rintro (⟨other, told, ⟨rfl, rfl⟩, here, -⟩ | kept)
        · exact absurd here elsewhere
        · exact kept
  | @evicted evictedHandle =>
    have made : Exchange.made? ⟨module, .evict evictedHandle, .ok .done⟩ = none := rfl
    rw [withObjects_objects, ObjectTable.get?_erase, made]
    by_cases same : handle = evictedHandle
    · subst same
      have taken : ¬ Exchange.Spares ⟨module, .evict handle, .ok .done⟩ handle :=
        fun spares => spares.not_evicted rfl
      simp only [if_true, reduceCtorEq, false_and, exists_false, taken, and_false, or_self]
    · have spares : Exchange.Spares ⟨module, .evict evictedHandle, .ok .done⟩ handle := by
        refine ⟨fun _ _ told => (nomatch told), fun told => same ?_⟩
        cases told
        rfl
      simp only [if_neg same, reduceCtorEq, false_and, exists_false, false_or, spares, and_true]
  | occupied target | unmade target =>
    rcases Exchange.none_of_refused target with ⟨made, evicted⟩
    exact Exchange.get?_iff_of_none rfl made evicted
  | unevicted | unread | read | reset => exact Exchange.get?_iff_of_none rfl rfl rfl
  | @sign _ _ _ _ _ answer _ outcome =>
    exact Exchange.get?_iff_of_none outcome.objects_eq (by cases answer <;> rfl) rfl

/-- After a run from the empty module, an object stands at a handle exactly if its making is the
last thing that happened there. -/
theorem get?_after (limit : UInt32) (requests : List Request) (handle : Handle)
    (object : ModuleObject) :
    ((empty limit).after requests).objects.get? handle = some object ↔
      ∃ making area, LastMade ((empty limit).transcript requests) making area ∧
        making.handle = handle ∧ making.object area = object := by
  refine transcript_induction (empty limit) (motive := fun history module =>
    module.objects.get? handle = some object ↔
      ∃ making area, LastMade history making area ∧
        making.handle = handle ∧ making.object area = object) ?_ ?_ requests
  · simp [not_lastMade_nil, empty]
  · intro past module request known
    rw [(responds module request).get?_iff, known]
    change (∃ making area, (module.exchange request).made? = _ ∧ _) ∨
      _ ∧ (module.exchange request).Spares handle ↔ _
    simp only [lastMade_append_singleton]
    constructor
    · rintro (⟨making, area, made, here, same⟩ | ⟨⟨making, area, last, here, same⟩, spares⟩)
      · exact ⟨making, area, .inl made, here, same⟩
      · exact ⟨making, area, .inr ⟨last, here ▸ spares⟩, here, same⟩
    · rintro ⟨making, area, made | ⟨last, spares⟩, here, same⟩
      · exact .inl ⟨making, area, made, here, same⟩
      · exact .inr ⟨⟨making, area, last, here, same⟩, here ▸ spares⟩

/-- What was made was made at a free handle. It carries the attributes that were asked for, and
its public area describes it. -/
theorem Responds.of_made (response : Responds module request reply left) {making : Making}
    {area : PublicArea} (told : Exchange.made? ⟨module, request, reply⟩ = some (making, area)) :
    module.objects.get? making.handle = none ∧
      area.attributes = making.attributes ∧ area.Describes making.material := by
  cases response with
  | made target wanted free attributes describes =>
    simp only [Exchange.made?, wanted, Option.map_some, Option.some.injEq, Prod.mk.injEq] at told
    rcases told with ⟨rfl, rfl⟩
    exact ⟨free, attributes, describes⟩
  | @sign _ _ _ _ _ answer => cases answer <;> cases told
  | _ => cases told

theorem LastMade.describes {module : SoftwareModule} {requests : List Request} {making : Making}
    {area : PublicArea} (last : LastMade (module.transcript requests) making area) :
    area.attributes = making.attributes ∧ area.Describes making.material := by
  rcases last with ⟨older, exchange, newer, split, made, -⟩
  rcases transcript_eq_append split with ⟨earlier, request, rest, -, -, rfl⟩
  exact ((responds _ request).of_made made).2

theorem describes_of_get? {limit : UInt32} {requests : List Request} {handle : Handle}
    {object : ModuleObject}
    (present : ((empty limit).after requests).objects.get? handle = some object) :
    object.area.Describes object.material := by
  rcases (get?_after limit requests handle object).1 present with ⟨making, area, last, -, rfl⟩
  exact last.describes.2

/-- A request leaves an object where it is, unless it takes it out. -/
theorem Responds.get?_of_not_evicted (response : Responds module request reply left)
    {handle : Handle} {object : ModuleObject}
    (present : module.objects.get? handle = some object)
    (kept : Exchange.evicted? ⟨module, request, reply⟩ ≠ some handle) :
    left.objects.get? handle = some object := by
  -- Nothing is made at an occupied handle.
  have not_made : ∀ making area,
      Exchange.made? ⟨module, request, reply⟩ = some (making, area) → making.handle ≠ handle := by
    intro making area told here
    have free := (response.of_made told).1
    rw [here, present] at free
    cases free
  exact (response.get?_iff handle object).2 (.inr ⟨present, not_made, kept⟩)

/-- An object stays where it is until it is taken out. -/
theorem get?_after_of_not_evicted {module : SoftwareModule} {requests : List Request}
    {handle : Handle} {object : ModuleObject}
    (present : module.objects.get? handle = some object)
    (kept : ∀ exchange ∈ module.transcript requests, exchange.evicted? ≠ some handle) :
    (module.after requests).objects.get? handle = some object := by
  induction requests generalizing module with
  | nil => exact present
  | cons request rest ih =>
    rw [transcript_cons] at kept
    rw [after_cons]
    apply ih
    · apply (responds module request).get?_of_not_evicted present
      exact kept _ List.mem_cons_self
    · intro exchange member
      exact kept exchange (List.mem_cons_of_mem _ member)

end SoftwareModule

end SealedKeys

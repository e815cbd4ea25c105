import SealedKeys.Action

/-!
Carrying out an action step by step.

Each lemma says what is left to do after the first action of a sequence. Rewriting with them
runs a command down to its first choice, and the choice is then made by a hypothesis. A failure
told in other terms is still that failure.
-/

namespace SealedKeys

section

variable {Failure Other Item Answer Next : Type} {result : Except Failure Answer}
  {tell : Failure → Other}

theorem mapError_eq_ok_iff {answer : Answer} :
    result.mapError tell = .ok answer ↔ result = .ok answer := by
  cases result with
  | error failure => constructor <;> intro told <;> cases told
  | ok value => constructor <;> intro told <;> cases told <;> rfl

theorem mapError_eq_error_iff {other : Other} :
    result.mapError tell = .error other ↔
      ∃ failure, result = .error failure ∧ tell failure = other := by
  cases result with
  | error failure =>
    constructor
    · intro told
      cases told
      exact ⟨failure, rfl, rfl⟩
    · rintro ⟨_, told, rfl⟩
      cases told
      rfl
  | ok answer =>
    constructor
    · intro told
      cases told
    · rintro ⟨_, told, -⟩
      cases told

theorem toOption_eq_some_iff {answer : Answer} :
    result.toOption = some answer ↔ result = .ok answer := by
  cases result with
  | error failure => constructor <;> intro told <;> cases told
  | ok value => constructor <;> intro told <;> cases told <;> rfl

theorem bind_eq_ok_iff {next : Answer → Except Failure Next} {last : Next} :
    result >>= next = .ok last ↔ ∃ answer, result = .ok answer ∧ next answer = .ok last := by
  cases result with
  | error failure =>
    constructor
    · intro told
      cases told
    · rintro ⟨_, told, -⟩
      cases told
  | ok answer =>
    constructor
    · exact fun told => ⟨answer, rfl, told⟩
    · rintro ⟨_, told, last⟩
      cases told
      exact last

theorem ite_error_eq_ok_iff {condition : Prop} [Decidable condition] {failure : Failure}
    {answer : Answer} :
    (if condition then .error failure else result) = .ok answer ↔
      ¬condition ∧ result = .ok answer := by
  by_cases holds : condition
  · rw [if_pos holds]
    constructor
    · intro told
      cases told
    · exact fun told => absurd holds told.1
  · rw [if_neg holds]
    exact ⟨fun told => ⟨holds, told⟩, And.right⟩

theorem of_mapM_eq_singleton {read : Item → Except Failure Answer} {items : List Item}
    {answer : Answer} (all : items.mapM read = .ok [answer]) :
    ∃ item, items = [item] ∧ read item = .ok answer := by
  cases items with
  | nil => cases all
  | cons item items =>
    rw [List.mapM_cons] at all
    rcases bind_eq_ok_iff.1 all with ⟨first, isFirst, rest⟩
    rcases bind_eq_ok_iff.1 rest with ⟨others, told, last⟩
    cases last
    cases items with
    | nil => exact ⟨item, rfl, isFirst⟩
    | cons next items =>
      rw [List.mapM_cons] at told
      rcases bind_eq_ok_iff.1 told with ⟨_, -, more⟩
      rcases bind_eq_ok_iff.1 more with ⟨_, -, impossible⟩
      cases impossible

end

namespace Action

variable {State Failure Answer Next : Type}

@[simp] theorem run_current_bind (next : State → Action State Failure Next) (state : State) :
    (current >>= next).run state = (next state).run state :=
  rfl

@[simp] theorem run_log_bind (event : Event) (next : Unit → Action State Failure Next)
    (state : State) :
    (log event >>= next).run state =
      ⟨((next ()).run state).answer, event :: ((next ()).run state).events,
        ((next ()).run state).state⟩ :=
  rfl

@[simp] theorem run_ensure_bind (condition : Bool) (failure : Failure)
    (next : Unit → Action State Failure Next) (state : State) :
    (ensure condition failure >>= next).run state =
      if condition then (next ()).run state else ⟨.error failure, [], state⟩ := by
  cases condition <;> rfl

@[simp] theorem run_ofExcept_bind (result : Except Failure Answer)
    (next : Answer → Action State Failure Next) (state : State) :
    (ofExcept result >>= next).run state =
      match result with
      | .error failure => ⟨.error failure, [], state⟩
      | .ok answer => (next answer).run state := by
  cases result <;> rfl

theorem run_mapError_bind {Other : Type} (tell : Failure → Other)
    (action : Action State Failure Answer) (next : Answer → Action State Other Next)
    (state : State) :
    (action.mapError tell >>= next).run state =
      match action.run state with
      | ⟨.error failure, events, left⟩ => ⟨.error (tell failure), events, left⟩
      | ⟨.ok answer, events, left⟩ =>
        ⟨((next answer).run left).answer, events ++ ((next answer).run left).events,
          ((next answer).run left).state⟩ := by
  rw [run_bind, run_mapError]
  rcases action.run state with ⟨failure | answer, events, left⟩ <;> rfl

/-- An answer in other words is all that a closing `pure` changes. -/
theorem run_bind_pure (action : Action State Failure Answer) (say : Answer → Next)
    (state : State) :
    (action >>= fun answer => pure (say answer)).run state =
      ⟨(action.run state).answer.map say, (action.run state).events,
        (action.run state).state⟩ := by
  rw [run_bind]
  rcases action.run state with ⟨failure | answer, events, left⟩
  · rfl
  · simp only [run_pure, List.append_nil, Except.map]

/-- Sequences may be regrouped: what is done, logged and answered stays the same. -/
theorem run_bind_assoc {Middle : Type} (action : Action State Failure Answer)
    (next : Answer → Action State Failure Middle) (last : Middle → Action State Failure Next)
    (state : State) :
    ((action >>= next) >>= last).run state =
      (action >>= fun answer => next answer >>= last).run state := by
  simp only [run_bind]
  rcases action.run state with ⟨failure | answer, events, left⟩
  · rfl
  · simp only
    rcases (next answer).run left with ⟨failure | middle, more, final⟩
    · rfl
    · simp only [List.append_assoc]

end Action

end SealedKeys

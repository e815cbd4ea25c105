import SealedKeys.Event

/-!
Actions: operations on a state that answer or fail, and that log events.

An action that fails keeps what it has done to the state so far, and what it has logged. The
lemmas `run_…` say what each way of building actions does; proofs about actions go through them.
-/

namespace SealedKeys

/-- What is left of an action: its answer, the events it logged, the oldest first, and the state
afterwards. -/
structure Outcome (State Failure Answer : Type) where
  answer : Except Failure Answer
  events : List Event
  state : State

/-- An operation on a state that answers or fails, and that logs events. -/
structure Action (State Failure Answer : Type) where
  /-- Carries the action out from a state. -/
  run : State → Outcome State Failure Answer

namespace Action

variable {State Inner Failure Other Answer Next : Type}

/-- What follows an action: the next one, unless the action failed. -/
def andThen (action : Action State Failure Answer)
    (next : Answer → Action State Failure Next) : Action State Failure Next where
  run state :=
    match action.run state with
    | ⟨.error failure, events, state⟩ => ⟨.error failure, events, state⟩
    | ⟨.ok answer, events, state⟩ =>
      let rest := (next answer).run state
      ⟨rest.answer, events ++ rest.events, rest.state⟩

instance : Monad (Action State Failure) where
  pure answer := ⟨fun state => ⟨.ok answer, [], state⟩⟩
  bind := andThen

/-- Fails, and does nothing else. -/
def fail (failure : Failure) : Action State Failure Answer :=
  ⟨fun state => ⟨.error failure, [], state⟩⟩

/-- Logs an event. -/
def log (event : Event) : Action State Failure Unit :=
  ⟨fun state => ⟨.ok (), [event], state⟩⟩

/-- Answers the state. -/
def current : Action State Failure State :=
  ⟨fun state => ⟨.ok state, [], state⟩⟩

/-- Changes the state. -/
def modify (change : State → State) : Action State Failure Unit :=
  ⟨fun state => ⟨.ok (), [], change state⟩⟩

/-- Answers or fails as a pure computation did. -/
def ofExcept (result : Except Failure Answer) : Action State Failure Answer :=
  ⟨fun state => ⟨result, [], state⟩⟩

/-- Fails unless a condition holds. -/
def ensure (condition : Bool) (failure : Failure) : Action State Failure Unit :=
  if condition then pure () else fail failure

/-- The same action, with each failure told in other terms. -/
def mapError (tell : Failure → Other) (action : Action State Failure Answer) :
    Action State Other Answer where
  run state :=
    let outcome := action.run state
    ⟨outcome.answer.mapError tell, outcome.events, outcome.state⟩

/-- An action on a part of the state. -/
def onPart (part : State → Inner) (replace : State → Inner → State)
    (action : Action Inner Failure Answer) : Action State Failure Answer where
  run state :=
    let outcome := action.run (part state)
    ⟨outcome.answer, outcome.events, replace state outcome.state⟩

@[simp] theorem run_pure (answer : Answer) (state : State) :
    (pure answer : Action State Failure Answer).run state = ⟨.ok answer, [], state⟩ := rfl

theorem run_bind (action : Action State Failure Answer)
    (next : Answer → Action State Failure Next) (state : State) :
    (action >>= next).run state =
      match action.run state with
      | ⟨.error failure, events, state⟩ => ⟨.error failure, events, state⟩
      | ⟨.ok answer, events, state⟩ =>
        ⟨((next answer).run state).answer, events ++ ((next answer).run state).events,
          ((next answer).run state).state⟩ := rfl

@[simp] theorem run_modify (change : State → State) (state : State) :
    (modify change : Action State Failure Unit).run state = ⟨.ok (), [], change state⟩ := rfl

@[simp] theorem run_ofExcept (result : Except Failure Answer) (state : State) :
    (ofExcept result : Action State Failure Answer).run state = ⟨result, [], state⟩ := rfl

@[simp] theorem run_mapError (tell : Failure → Other) (action : Action State Failure Answer)
    (state : State) :
    (action.mapError tell).run state =
      ⟨(action.run state).answer.mapError tell, (action.run state).events,
        (action.run state).state⟩ := rfl

@[simp] theorem run_onPart (part : State → Inner) (replace : State → Inner → State)
    (action : Action Inner Failure Answer) (state : State) :
    (action.onPart part replace).run state =
      ⟨(action.run (part state)).answer, (action.run (part state)).events,
        replace state (action.run (part state)).state⟩ := rfl

end Action

end SealedKeys

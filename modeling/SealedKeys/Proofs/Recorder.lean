import Mathlib.Data.List.Basic
import SealedKeys.Proofs.SoftwareModule.Effects
import SealedKeys.Recorder

/-!
A recorder in front of a software module, call by call.

Sign calls that meet a queued failure are answered with it and get no further; all other commands
reach the module. `transparent` compares a run with that of the bare module on the requests that
reach it: the module cannot tell that there is a recorder, and whoever calls cannot tell either,
but for the failures that were queued. The log and the number of commands are accounts of the same
calls, and they differ by the scripted failures and by the loaded keys.
-/

namespace SealedKeys

namespace Recorder

open SoftwareModule (Request Reply)

/-- A call of a recorded module, or of the module behind it. -/
inductive Call where
  | request (request : Request)
  | failNextSign (failure : ModuleError)

namespace Call

/-- Carries a call out. Loading a key and clearing the lockout bypass the recorder. -/
def perform : Call → Action (Recorder SoftwareModule) ModuleError Reply
  | .request (.loadExternal handle auth key attributes) => do
    return .area (← onInner (SoftwareModule.loadExternal handle auth key attributes))
  | .request (.createPrimary draws handle auth template) => do
    return .area (← KeyProvisioner.createPrimary draws handle auth template)
  | .request (.evict handle) => do
    let _ ← KeyProvisioner.evict handle
    return .done
  | .request (.readPublic handle) => do
    return .area (← SecureModule.readPublic handle)
  | .request (.sign draws handle auth digest scheme) => do
    return .signature (← SecureModule.sign draws handle auth digest scheme)
  | .request .resetLockout => do
    let _ ← onInner SoftwareModule.resetLockout
    return .done
  | .failNextSign failure => do
    let _ ← Recorder.failNextSign failure
    return .done

/-- What is written down of a call. -/
def sent? : Call → Option SentCommand
  | .request (.createPrimary _ handle _ _) => some (.createPrimary handle)
  | .request (.evict handle) => some (.evict handle)
  | .request (.readPublic handle) => some (.readPublic handle)
  | .request (.sign _ handle _ digest scheme) => some (.sign handle digest scheme)
  | .request (.loadExternal _ _ _ _) | .request .resetLockout | .failNextSign _ => none

/-- The failure that a call queues. -/
def queued? : Call → Option ModuleError
  | .failNextSign failure => some failure
  | .request _ => none

/-- Whether a call loads a key. -/
def isLoad : Call → Bool
  | .request (.loadExternal _ _ _ _) => true
  | _ => false

end Call

def next (recorder : Recorder SoftwareModule) (call : Call) : Recorder SoftwareModule :=
  (call.perform.run recorder).state

def after (recorder : Recorder SoftwareModule) (calls : List Call) : Recorder SoftwareModule :=
  calls.foldl next recorder

/-- A call, with the recorder that met it. -/
structure Visit where
  found : Recorder SoftwareModule
  call : Call

/-- The calls of a run, the first one first. -/
def visits (recorder : Recorder SoftwareModule) : List Call → List Visit
  | [] => []
  | call :: rest => ⟨recorder, call⟩ :: (recorder.next call).visits rest

namespace Visit

/-- The answer to the call. -/
def reply (visit : Visit) : Except ModuleError Reply :=
  (visit.call.perform.run visit.found).answer

/-- The queued failure that answers the call: a sign call takes the next one, if there is one. -/
def scripted? (visit : Visit) : Option ModuleError :=
  match visit.call with
  | .request (.sign _ _ _ _ _) => visit.found.signFailures.head?
  | _ => none

/-- The request that reaches the module. -/
def reaching? (visit : Visit) : Option Request :=
  match visit.call, visit.scripted? with
  | .request request, none => some request
  | _, _ => none

/-- What passes between the module and the caller. -/
def exchange? (visit : Visit) : Option SoftwareModule.Exchange :=
  visit.reaching?.map fun request => ⟨visit.found.inner, request, visit.reply⟩

end Visit

/-! ## One call -/

/-- A sign command is written down, and then answered with the next queued failure; if there is
none, it is handed on. -/
theorem run_sign {State : Type} [SecureModule State] (recorder : Recorder State) (draws : Draws)
    (handle : Handle) (auth : AuthValue) (digest : Bytes) (scheme : Scheme) :
    (SecureModule.sign draws handle auth digest scheme).run recorder =
      match recorder.signFailures with
      | [] =>
        let sent := (SecureModule.sign draws handle auth digest scheme).run recorder.inner
        ⟨sent.answer, sent.events,
          ⟨sent.state, recorder.log ++ [.sign handle digest scheme], []⟩⟩
      | failure :: rest =>
        ⟨.error failure, [],
          ⟨recorder.inner, recorder.log ++ [.sign handle digest scheme], rest⟩⟩ := by
  rcases recorder with ⟨inner, log, _ | ⟨failure, rest⟩⟩
  · rfl
  · rfl

/-- A request that is not answered from the queue is the module's to answer. -/
theorem run_perform_of_unscripted {recorder : Recorder SoftwareModule} {request : Request}
    (unscripted : Visit.scripted? ⟨recorder, .request request⟩ = none) :
    (Call.perform (.request request)).run recorder =
      ⟨(request.perform.run recorder.inner).answer, (request.perform.run recorder.inner).events,
        ⟨(request.perform.run recorder.inner).state,
          recorder.log ++ (Call.sent? (.request request)).toList, recorder.signFailures⟩⟩ := by
  cases request with
  | loadExternal | resetLockout =>
    simp only [Call.perform, Request.perform, Action.run_bind_pure, onInner, Action.run_onPart,
      Call.sent?, Option.toList_none, List.append_nil]
  | createPrimary | evict | readPublic =>
    simp only [Call.perform, Request.perform, Action.run_bind_pure]
    rfl
  | sign =>
    have idle : recorder.signFailures = [] := List.head?_eq_none_iff.1 unscripted
    simp only [Call.perform, Request.perform, Action.run_bind_pure, run_sign, idle]
    rfl

/-- A call that is answered from the queue takes one failure from it and leaves the module alone. -/
theorem run_perform_of_scripted {recorder : Recorder SoftwareModule} {call : Call}
    {failure : ModuleError} (scripted : Visit.scripted? ⟨recorder, call⟩ = some failure) :
    ∃ rest, recorder.signFailures = failure :: rest ∧
      call.perform.run recorder =
        ⟨.error failure, [], ⟨recorder.inner, recorder.log ++ call.sent?.toList, rest⟩⟩ := by
  rcases call with ⟨_ | _ | _ | _ | _ | _⟩ | _
  case request.sign =>
    rcases List.head?_eq_some_iff.1 scripted with ⟨rest, waiting⟩
    have waiting : recorder.signFailures = failure :: rest := waiting
    refine ⟨rest, waiting, ?_⟩
    simp only [Call.perform, Action.run_bind_pure, run_sign, waiting]
    rfl
  all_goals cases scripted

/-- A call queues a failure, or it is answered from the queue, or it reaches the module. -/
theorem Visit.cases (recorder : Recorder SoftwareModule) (call : Call) :
    (∃ failure, call = .failNextSign failure) ∨
      (∃ failure, Visit.scripted? ⟨recorder, call⟩ = some failure ∧
        Visit.reaching? ⟨recorder, call⟩ = none ∧ call.queued? = none) ∨
      ∃ request, call = .request request ∧ Visit.scripted? ⟨recorder, call⟩ = none ∧
        Visit.reaching? ⟨recorder, call⟩ = some request := by
  cases call with
  | failNextSign failure => exact .inl ⟨failure, rfl⟩
  | request request =>
    cases scripted : Visit.scripted? ⟨recorder, .request request⟩ with
    | some failure =>
      refine .inr (.inl ⟨failure, rfl, ?_, rfl⟩)
      simp only [Visit.reaching?, scripted]
    | none =>
      refine .inr (.inr ⟨request, rfl, rfl, ?_⟩)
      simp only [Visit.reaching?, scripted]

section

variable (recorder : Recorder SoftwareModule) (call : Call)

theorem log_next : (recorder.next call).log = recorder.log ++ call.sent?.toList := by
  rcases Visit.cases recorder call with
    ⟨failure, rfl⟩ | ⟨failure, scripted, -⟩ | ⟨request, rfl, unscripted, -⟩
  · exact (List.append_nil recorder.log).symm
  · rcases run_perform_of_scripted scripted with ⟨rest, -, run⟩
    rw [next, run]
  · rw [next, run_perform_of_unscripted unscripted]

/-- What is given away, and then what waits, is what waited before with what is added. -/
theorem signFailures_next :
    (Visit.scripted? ⟨recorder, call⟩).toList ++ (recorder.next call).signFailures =
      recorder.signFailures ++ call.queued?.toList := by
  rcases Visit.cases recorder call with
    ⟨failure, rfl⟩ | ⟨failure, scripted, -, unqueued⟩ | ⟨request, rfl, unscripted, -⟩
  · rfl
  · rcases run_perform_of_scripted scripted with ⟨rest, waiting, run⟩
    rw [scripted, next, run, waiting, unqueued]
    exact (List.append_nil (failure :: rest)).symm
  · rw [unscripted, next, run_perform_of_unscripted unscripted]
    exact (List.append_nil recorder.signFailures).symm

/-- The module behind the recorder meets the request that reaches it, and nothing else. -/
theorem inner_next :
    (recorder.next call).inner =
      recorder.inner.after (Visit.reaching? ⟨recorder, call⟩).toList := by
  rcases Visit.cases recorder call with
    ⟨failure, rfl⟩ | ⟨failure, scripted, unreached, -⟩ | ⟨request, rfl, unscripted, reached⟩
  · rfl
  · rcases run_perform_of_scripted scripted with ⟨rest, -, run⟩
    rw [next, run, unreached]
    rfl
  · rw [next, run_perform_of_unscripted unscripted, reached]
    rfl

theorem exchange?_eq_transcript :
    (Visit.exchange? ⟨recorder, call⟩).toList =
      recorder.inner.transcript (Visit.reaching? ⟨recorder, call⟩).toList := by
  rcases Visit.cases recorder call with
    ⟨failure, rfl⟩ | ⟨failure, scripted, unreached, -⟩ | ⟨request, rfl, unscripted, reached⟩
  · rfl
  · rw [Visit.exchange?, unreached]
    rfl
  · rw [Visit.exchange?, reached, Visit.reply, run_perform_of_unscripted unscripted]
    rfl

/-- A call is counted by the module or answered from the queue exactly if it is written down or
loads a key. -/
theorem Visit.balance :
    (Visit.reaching? ⟨recorder, call⟩).toList.countP Request.isCounted +
        (Visit.scripted? ⟨recorder, call⟩).toList.length =
      call.sent?.toList.length + [call].countP Call.isLoad := by
  rcases call with ⟨_ | _ | _ | _ | ⟨draws, handle, auth, digest, scheme⟩ | _⟩ | _
  case request.sign =>
    simp only [Visit.reaching?, Visit.scripted?]
    cases recorder.signFailures <;> rfl
  all_goals rfl

end

/-! ## A run -/

section

variable (recorder : Recorder SoftwareModule) (calls : List Call)

theorem log_after : (recorder.after calls).log = recorder.log ++ calls.filterMap Call.sent? := by
  simp only [List.filterMap_eq_flatMap_toList]
  induction calls generalizing recorder with
  | nil => exact (List.append_nil recorder.log).symm
  | cons call rest ih =>
    have further := ih (recorder.next call)
    rw [log_next, List.append_assoc] at further
    exact further

/-- The queue is first in, first out: the failures that were given away, followed by those that
still wait, are those that waited in the beginning, followed by those that were queued. -/
theorem signFailures_after :
    (recorder.visits calls).filterMap Visit.scripted? ++ (recorder.after calls).signFailures =
      recorder.signFailures ++ calls.filterMap Call.queued? := by
  simp only [List.filterMap_eq_flatMap_toList]
  induction calls generalizing recorder with
  | nil => exact (List.append_nil recorder.signFailures).symm
  | cons call rest ih =>
    have further := ih (recorder.next call)
    have moved := signFailures_next recorder call
    rw [visits, List.flatMap_cons, List.flatMap_cons, ← List.append_assoc recorder.signFailures,
      ← moved, List.append_assoc, List.append_assoc, ← further]
    rfl

theorem inner_after :
    (recorder.after calls).inner =
      recorder.inner.after ((recorder.visits calls).filterMap Visit.reaching?) := by
  simp only [List.filterMap_eq_flatMap_toList]
  induction calls generalizing recorder with
  | nil => rfl
  | cons call rest ih =>
    have further := ih (recorder.next call)
    rw [inner_next] at further
    rw [visits, List.flatMap_cons, SoftwareModule.after, List.foldl_append]
    exact further

theorem exchanges_visits :
    (recorder.visits calls).filterMap Visit.exchange? =
      recorder.inner.transcript ((recorder.visits calls).filterMap Visit.reaching?) := by
  simp only [List.filterMap_eq_flatMap_toList]
  induction calls generalizing recorder with
  | nil => rfl
  | cons call rest ih =>
    rw [visits, List.flatMap_cons, List.flatMap_cons, exchange?_eq_transcript, ih, inner_next,
      SoftwareModule.transcript_append]

theorem balance_visits :
    ((recorder.visits calls).filterMap Visit.reaching?).countP Request.isCounted +
        ((recorder.visits calls).filterMap Visit.scripted?).length =
      (calls.filterMap Call.sent?).length + calls.countP Call.isLoad := by
  simp only [List.filterMap_eq_flatMap_toList]
  induction calls generalizing recorder with
  | nil => rfl
  | cons call rest ih =>
    have further := ih (recorder.next call)
    have balance := Visit.balance recorder call
    rw [visits]
    simp only [List.flatMap_cons, List.countP_append, List.length_append]
    rw [← List.singleton_append, List.countP_append]
    omega

end

/-- A recorder hides nothing and adds nothing but what it was told to.

Take any software module, a new recorder in front of it, and any calls of the two. The log holds
the commands of the calls, in their order, whatever came of them. Sign calls that met a queued
failure were answered with it and left the module as it was, and the failures were given away in the
order in which they were queued, each one once. Between all other calls and the module there passed
exactly what passes if the bare module is given the requests that reached it, and it is left as they
leave it. What the module has counted and what was given away make up the log and the calls to load
a key. -/
theorem transparent (module : SoftwareModule) (calls : List Call) :
    let visits := (ofModule module).visits calls
    let left := (ofModule module).after calls
    let reaching := visits.filterMap Visit.reaching?
    let given := visits.filterMap Visit.scripted?
    left.log = calls.filterMap Call.sent? ∧
    (∀ visit ∈ visits, ∀ failure, visit.scripted? = some failure →
      visit.reply = .error failure ∧ (visit.found.next visit.call).inner = visit.found.inner) ∧
    given ++ left.signFailures = calls.filterMap Call.queued? ∧
    visits.filterMap Visit.exchange? = module.transcript reaching ∧
    left.inner = module.after reaching ∧
    left.inner.commands + given.length =
      module.commands + left.log.length + calls.countP Call.isLoad := by
  intro visits left reaching given
  have log : left.log = calls.filterMap Call.sent? := log_after (ofModule module) calls
  have inner : left.inner = module.after reaching := inner_after (ofModule module) calls
  refine ⟨log, ?_, signFailures_after (ofModule module) calls,
    exchanges_visits (ofModule module) calls, inner, ?_⟩
  · rintro ⟨found, call⟩ - failure scripted
    rcases run_perform_of_scripted scripted with ⟨rest, -, run⟩
    rw [Visit.reply, next, run]
    exact ⟨rfl, rfl⟩
  · have counted := SoftwareModule.after_commands module reaching
    have balance : reaching.countP Request.isCounted + given.length =
        (calls.filterMap Call.sent?).length + calls.countP Call.isLoad :=
      balance_visits (ofModule module) calls
    rw [inner, counted, log]
    omega

end Recorder

end SealedKeys

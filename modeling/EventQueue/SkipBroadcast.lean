import EventQueue.PublishEvent
import EventQueue.AfterCommit

/-! The mark to skip broadcasting, from the calls of `publishEvent` through the statements of the transaction to
the handler after `CREATE`. The handler before the commit has the mark of the call that registered it, and
inserts the events of all calls. -/
namespace EventQueue.SkipBroadcast
open Js (Value)
open Publish AfterCommit
open Broadcast (Event)

section
variable (runtime : Runtime) (config : Publish.Config)

/-- A call that throws leaves the transaction as it was. -/
def attempt (tx : Publish.Tx) (call : Call) : Publish.Tx :=
  match publishEvent runtime config tx call with
  | .ok next => next
  | .error _ => tx

/-- The statements of a transaction with these calls, once it is committed. -/
def statements (calls : List Call) : List (Bool × List Entry) :=
  let tx := calls.foldl (attempt runtime config) Publish.Tx.begun
  (tx.beforeCommit.foldl Publish.Tx.insertBeforeCommit tx).inserts

def accepted (call : Call) : Bool := config.initialized && (call.events.mapM (prepare runtime config call)).isOk

/-- The calls that were deferred are inserted with the mark of the first of them. -/
def firstDeferred (calls : List Call) : Option Call := (calls.filter (accepted runtime config)).find? (deferred config)

end

section
variable (toText : Value → String)

/-- An element within `join`. -/
def joined : Value → String
  | .str text => text
  | .undefined => ""
  | .null => ""
  | value => toText value

def eventOf (row : Dict Value) : Event :=
  ⟨joined toText (property row "type"),joined toText (property row "subType"),joined toText (property row "namespace")⟩

end

section
variable (runtime : Runtime) (config : Publish.Config) (afterCommit : AfterCommit.Config) (toText : Value → String)

/-- The flagged events of a call. -/
def FlaggedEvent (call : Call) (event : Event) : Prop :=
  (∃ given ∈ call.events, event = eventOf toText (stored runtime config call given)) ∧ Flagged afterCommit event

/-- A flagged combination of a call that does not skip broadcasting. -/
def Announced (calls : List Call) (combination : Combination) : Prop :=
  ∃ call ∈ calls, accepted runtime config call = true ∧ call.skipBroadcast = false ∧
    ∃ event, FlaggedEvent runtime config afterCommit toText call event ∧ Event.combination event = combination

/-- With the handler's mark not to skip, what the other calls skip must be announced by a call all the same; with
its mark to skip, what is deferred must be announced by an immediate call. -/
structure Respected (calls : List Call) : Prop where
  separable : ∀ call ∈ calls, accepted runtime config call = true → call.skipBroadcast = false →
    ∀ event, FlaggedEvent runtime config afterCommit toText call event → SeparableEvent event
  skipped : ((firstDeferred runtime config calls).any (fun call => !call.skipBroadcast)) = true →
    ∀ call ∈ calls, accepted runtime config call = true → call.skipBroadcast = true →
      ∀ event, FlaggedEvent runtime config afterCommit toText call event →
        Announced runtime config afterCommit toText calls (combinationOf (eventKey event))
  postponed : ((firstDeferred runtime config calls).any (fun call => !call.skipBroadcast)) = false →
    ∀ call ∈ calls, accepted runtime config call = true → call.skipBroadcast = false → deferred config call = true →
      ∀ event, FlaggedEvent runtime config afterCommit toText call event →
        Announced runtime config afterCommit toText (calls.filter (fun other => !deferred config other))
          (Event.combination event)

end

/-- The rows of a call. -/
def rowsOf (runtime : Runtime) (config : Publish.Config) (call : Call) : List (Dict Value) :=
  call.events.map (stored runtime config call)

/-- The transaction after the accepted ones among its calls. -/
structure Sent (runtime : Runtime) (config : Publish.Config) (calls : List Call) (tx : Publish.Tx) : Prop where
  events : (tx.eventQueue.elim [] EventQueueContext.events).map Entry.fields = calls.flatMap (rowsOf runtime config)
  registered : tx.eventQueue.any EventQueueContext.handlerRegistered = calls.any (deferred config)
  beforeCommit : tx.beforeCommit = ((calls.find? (deferred config)).map Call.skipBroadcast).toList
  inserts : tx.inserts.map (fun statement => (statement.1,statement.2.map Entry.fields)) =
    (calls.filter (fun call => !deferred config call)).map (fun call => (call.skipBroadcast,rowsOf runtime config call))

section
variable {runtime : Runtime} {config : Publish.Config}

theorem mapM_isOk {call : Call} {events : List (Dict Value)} (ok : (events.mapM (prepare runtime config call)).isOk = true) :
    ∀ event ∈ events, Valid runtime config call event := by
  induction events with
  | nil => simp
  | cons event rest ih =>
    rw [List.mapM_cons] at ok
    cases first : prepare runtime config call event with
    | error error =>
      rw [first] at ok
      cases ok
    | ok row =>
      rw [first] at ok
      have valid := (prepare_ok_iff.mp first).1
      cases later : rest.mapM (prepare runtime config call) with
      | error error =>
        rw [later] at ok
        cases ok
      | ok rows =>
        rw [later] at ih
        intro other member
        rcases List.mem_cons.mp member with rfl | inside
        · exact valid
        · exact ih rfl other inside

theorem accepted_iff {call : Call} :
    accepted runtime config call = true ↔
      config.initialized = true ∧ ∀ event ∈ call.events, Valid runtime config call event := by
  rw [accepted,Bool.and_eq_true]
  refine and_congr_right (fun _ => ⟨mapM_isOk,fun valid => ?_⟩)
  rw [mapM_prepare valid]
  rfl

theorem fields_numbered (start : Nat) (events : List (Dict Value)) : (numbered start events).map Entry.fields = events := by
  rw [numbered,List.map_map]
  exact List.zipIdx_map_fst start events

theorem attempt_refused {tx : Publish.Tx} {call : Call} (refused : accepted runtime config call = false) :
    attempt runtime config tx call = tx := by
  rw [accepted,Bool.and_eq_false_iff] at refused
  unfold attempt publishEvent
  rcases refused with uninitialized | failed
  · simp [uninitialized]
  · split
    · rename_i next ok
      split at ok
      · cases ok
      · cases rows : call.events.mapM (prepare runtime config call) with
        | ok rows =>
          rw [rows] at failed
          cases failed
        | error error =>
          rw [rows] at ok
          cases ok
    · rfl

theorem attempt_accepted {tx : Publish.Tx} {call : Call} (taken : accepted runtime config call = true) :
    attempt runtime config tx call =
      let entries := numbered tx.published (rowsOf runtime config call)
      if deferred config call then (tx.addEventsToContext entries).registerHandler call.skipBroadcast
      else (tx.addEventsToContext entries).insert call.skipBroadcast entries := by
  obtain ⟨initialized,valid⟩ := accepted_iff.mp taken
  simp only [attempt,publishEvent,initialized,Bool.not_true,Bool.false_eq_true,if_false,mapM_prepare valid,rowsOf]
  cases deferred config call <;> rfl

namespace Sent

theorem begun : Sent runtime config [] Publish.Tx.begun := ⟨rfl,rfl,rfl,rfl⟩

theorem addEventsToContext {calls : List Call} {tx : Publish.Tx} (sent : Sent runtime config calls tx) (call : Call) :
    ((tx.addEventsToContext (numbered tx.published (rowsOf runtime config call))).eventQueue.elim []
      EventQueueContext.events).map Entry.fields = (calls ++ [call]).flatMap (rowsOf runtime config) := by
  rw [List.flatMap_append,← sent.events,List.flatMap_singleton]
  cases found : tx.eventQueue <;> simp [Publish.Tx.addEventsToContext,found,fields_numbered]

theorem deferredCall {calls : List Call} {tx : Publish.Tx} (sent : Sent runtime config calls tx) {call : Call}
    (later : deferred config call = true) :
    Sent runtime config (calls ++ [call])
      ((tx.addEventsToContext (numbered tx.published (rowsOf runtime config call))).registerHandler call.skipBroadcast) := by
  have events := sent.addEventsToContext call
  have inserts : (calls ++ [call]).filter (fun call => !deferred config call) =
      calls.filter (fun call => !deferred config call) := by simp [later]
  have known := sent.registered
  cases registered : calls.any (deferred config) with
  | true =>
    rw [registered] at known
    obtain ⟨eventQueue,found,own⟩ := (Option.any_eq_true _ _).mp known
    have first : (calls ++ [call]).find? (deferred config) = calls.find? (deferred config) := by
      rw [List.find?_append,Option.or_of_isSome]
      simpa using registered
    have kept : (tx.addEventsToContext (numbered tx.published (rowsOf runtime config call))).registerHandler
        call.skipBroadcast = tx.addEventsToContext (numbered tx.published (rowsOf runtime config call)) := by
      simp [Publish.Tx.addEventsToContext,Publish.Tx.registerHandler,found,own]
    rw [kept]
    refine ⟨events,?_,?_,?_⟩
    · simp [Publish.Tx.addEventsToContext,found,own,later]
    · rw [first]
      exact sent.beforeCommit
    · rw [inserts]
      exact sent.inserts
  | false =>
    have none : calls.find? (deferred config) = none := by simpa using registered
    have before := sent.beforeCommit
    rw [none] at before
    rw [registered] at known
    obtain ⟨eventQueue,present,unregistered⟩ : ∃ eventQueue,
        (tx.addEventsToContext (numbered tx.published (rowsOf runtime config call))).eventQueue = some eventQueue ∧
          eventQueue.handlerRegistered = false := by
      refine ⟨_,rfl,?_⟩
      cases found : tx.eventQueue with
      | none => rfl
      | some own => simpa [found] using known
    rw [present] at events
    simp only [Publish.Tx.registerHandler,present,unregistered,Bool.false_eq_true,if_false]
    refine ⟨events,?_,?_,?_⟩
    · simp [later]
    · rw [List.find?_append,none,List.find?_singleton,if_pos later]
      simpa [Publish.Tx.addEventsToContext] using before
    · rw [inserts]
      exact sent.inserts

theorem immediateCall {calls : List Call} {tx : Publish.Tx} (sent : Sent runtime config calls tx) {call : Call}
    (now : deferred config call = false) :
    Sent runtime config (calls ++ [call])
      ((tx.addEventsToContext (numbered tx.published (rowsOf runtime config call))).insert call.skipBroadcast
        (numbered tx.published (rowsOf runtime config call))) where
  events := sent.addEventsToContext call
  registered := by
    rw [List.any_append,← sent.registered]
    cases found : tx.eventQueue <;> simp [Publish.Tx.addEventsToContext,Publish.Tx.insert,found,now]
  beforeCommit := by
    have same : (calls ++ [call]).find? (deferred config) = calls.find? (deferred config) := by
      rw [List.find?_append,List.find?_singleton,now]
      simp
    rw [same]
    exact sent.beforeCommit
  inserts := by
    simp only [Publish.Tx.insert,Publish.Tx.addEventsToContext,List.map_append,List.filter_append,sent.inserts]
    simp [now,fields_numbered]

theorem attempt {calls : List Call} {tx : Publish.Tx} (sent : Sent runtime config calls tx) (call : Call) :
    Sent runtime config (calls ++ [call].filter (accepted runtime config)) (SkipBroadcast.attempt runtime config tx call) := by
  cases taken : accepted runtime config call with
  | false =>
    rw [attempt_refused taken,List.filter_singleton,taken]
    simpa using sent
  | true =>
    rw [attempt_accepted taken,List.filter_singleton,taken]
    cases later : deferred config call with
    | true => exact sent.deferredCall later
    | false => exact sent.immediateCall later

theorem foldl {before : List Call} {tx : Publish.Tx} (sent : Sent runtime config before tx) (calls : List Call) :
    Sent runtime config (before ++ calls.filter (accepted runtime config))
      (calls.foldl (SkipBroadcast.attempt runtime config) tx) := by
  induction calls generalizing before tx with
  | nil => simpa using sent
  | cons call rest ih =>
    have next := ih (sent.attempt call)
    rw [List.append_assoc,← List.filter_append] at next
    exact next

/-- The commit inserts what the context has, with the mark of the first deferred call. -/
theorem committed {calls : List Call} {tx : Publish.Tx} (sent : Sent runtime config calls tx) :
    ∃ later, (tx.beforeCommit.foldl Publish.Tx.insertBeforeCommit tx).inserts = tx.inserts ++ later ∧
      ∀ row skip, (∃ statement ∈ later, statement.1 = skip ∧ row ∈ statement.2.map Entry.fields) ↔
        (calls.find? (deferred config)).any (fun call => call.skipBroadcast = skip) = true ∧
          ∃ call ∈ calls, row ∈ rowsOf runtime config call := by
  have events := sent.events
  rw [sent.beforeCommit]
  cases first : calls.find? (deferred config) with
  | none => exact ⟨[],by simp,by simp⟩
  | some call =>
    have registered : calls.any (deferred config) = true :=
      List.any_eq_true.mpr ⟨call,List.mem_of_find?_eq_some first,List.find?_some first⟩
    rw [← sent.registered] at registered
    obtain ⟨eventQueue,found,_⟩ := (Option.any_eq_true _ _).mp registered
    rw [found,Option.elim_some] at events
    have member (row : Dict Value) : row ∈ eventQueue.events.map Entry.fields ↔
        ∃ call ∈ calls, row ∈ rowsOf runtime config call := by rw [events,List.mem_flatMap]
    simp only [Option.map_some,Option.toList_some,List.foldl_cons,List.foldl_nil,Publish.Tx.insertBeforeCommit,found]
    by_cases none : eventQueue.events = []
    · refine ⟨[],by simp [none],fun row skip => ?_⟩
      simp [← member,none]
    · refine ⟨[(call.skipBroadcast,eventQueue.events)],by simp [none,Publish.Tx.insert],fun row skip => ?_⟩
      rw [← member]
      simp

end Sent

end

section
variable {runtime : Runtime} {config : Publish.Config} {afterCommit : AfterCommit.Config} {toText : Value → String}

end

def task : Dict Value := ⟨[("type",.str "Notifications"),("subType",.str "Task"),("payload",.str "hello")],by decide⟩

end EventQueue.SkipBroadcast

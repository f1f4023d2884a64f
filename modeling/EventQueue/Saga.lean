import EventQueue.Constants
import EventQueue.Lib.Value
import EventQueue.Lib.Transition
import Mathlib.Logic.Function.Basic

/-! Successor events of an outboxed CAP service: `#publishFollowupEvents` sends them into the
transaction of the cluster, takes them out again and leaves them in `nextSagaEvents`, one field
for all clusters of a chunk, where the next `persistEventStatus` finds them. Steps lie between
two awaits; clusters interleave in any order. -/
namespace EventQueue.Saga
open Js (Value)

def SAGA_SUCCESS : String := "#succeeded"
def SAGA_FAILED : String := "#failed"
def SAGA_DONE : String := "#done"

def endsWith (text tail : String) : Bool := tail.toList.isSuffixOf text.toList

/-- `[event] = event.split("/")`. -/
def beforeSlash (event : String) : String := String.ofList (event.toList.takeWhile (· ≠ '/'))

/-- `#checkHandlerExists` for a saga suffix: the specific handler, else the generic one. -/
def checkHandlerExists (onHandlers : List String) (event saga : String) : Option String :=
  let base := if endsWith event SAGA_SUCCESS || endsWith event SAGA_DONE then beforeSlash event else event
  (onHandlers.find? (· = base ++ "/" ++ saga)).or (onHandlers.find? (· = saga))

/-- The events `#publishFollowupEvents` sends for one result of the status tuple. -/
def followupsOf (succeeded failed done : Option String) (event : String) (status : Value) : List String :=
  (if status.isOneOf [EventProcessingStatus.Done] && !endsWith event SAGA_SUCCESS then succeeded.toList else []) ++
    (if status.isOneOf [EventProcessingStatus.Error] then failed.toList else []) ++
    (if !endsWith event SAGA_SUCCESS then done.toList else [])

/-- None if `#publishFollowupEvents` returns at once and leaves `nextSagaEvents` alone. -/
def followupEvents (onHandlers : List String) (event : String) (statuses : List Value) : Option (List String) :=
  let succeeded := checkHandlerExists onHandlers event SAGA_SUCCESS
  let failed := checkHandlerExists onHandlers event SAGA_FAILED
  let done := checkHandlerExists onHandlers event SAGA_DONE
  if succeeded.isNone && failed.isNone && done.isNone then none
  else if endsWith event SAGA_FAILED || endsWith event SAGA_DONE then none
  else some (statuses.flatMap (followupsOf succeeded failed done event))

/-- An event waiting in a transaction: published by a handler, or a successor of a cluster. -/
inductive QueuedEvent
  | ordinary (event : String)
  | successor (cluster number : Nat) (event : String)
  deriving DecidableEq

def QueuedEvent.cluster : QueuedEvent → Option Nat
  | .ordinary _ => none
  | .successor cluster _ _ => some cluster

inductive Writer
  /-- The one that writes the statuses of the cluster. -/
  | cluster (index : Nat)
  /-- The transaction of `processEventMap`. -/
  | processing
  /-- The last `persistEventStatus` of the chunk. -/
  | chunk
  deriving DecidableEq

inductive Stage
  /-- Before the end of the service's handler. -/
  | handling
  /-- In `#publishFollowupEvents`, with the events taken out of the transaction and those left to send. -/
  | publishing (nextEvents : List QueuedEvent) (followups : List String)
  | reported
  /-- In `persistEventStatus`, the insert is under way. -/
  | inserting
  | settled
  deriving DecidableEq

structure Cluster where
  stage : Stage
  sent : List QueuedEvent

inductive Phase
  | processing
  | ended
  | inserting
  | finished
  deriving DecidableEq

structure State where
  transactionMode : TransactionMode
  clusters : List Cluster
  nextSagaEvents : List QueuedEvent
  /-- `_eventQueue.events` of each transaction. -/
  events : Nat → List QueuedEvent
  inserted : List (QueuedEvent × Writer)
  phase : Phase

inductive Action
  | publishEvent (index : Nat) (event : String)
  /-- The keep-alive has been violated, the cluster is skipped. -/
  | outdated (index : Nat)
  | publishFollowupEvents (index : Nat) (event : String) (statuses : List Value)
  | send (index : Nat)
  | failPublishing (index : Nat)
  | setNextSagaEvents (index : Nat)
  | insert (index : Nat)
  | reset (index : Nat)
  /-- `persistEventStatus` has nothing to write or throws. -/
  | leave (index : Nat)
  | endMap (commit : Bool)
  | insertChunk
  | resetChunk
  | leaveChunk

namespace State

/-- Each cluster has a transaction of its own in isolated mode, otherwise all share one. -/
def tx (state : State) (index : Nat) : Nat :=
  match state.transactionMode with
  | .isolated => index
  | _ => 0

def initial (transactionMode : TransactionMode) (count : Nat) : State :=
  ⟨transactionMode,List.replicate count ⟨.handling,[]⟩,[],fun _ => [],[],.processing⟩

def setCluster (state : State) (index : Nat) (cluster : Cluster) : State :=
  {state with clusters := state.clusters.set index cluster}

def setEvents (state : State) (index : Nat) (events : List QueuedEvent) : State :=
  {state with events := Function.update state.events (state.tx index) events}

def insertAll (state : State) (events : List QueuedEvent) (writer : Writer) : State :=
  {state with inserted := state.inserted ++ events.map (fun event => (event,writer))}

def clusterAt (state : State) (index : Nat) : Option Cluster :=
  if state.phase = .processing then state.clusters[index]? else none

def isDone (state : State) (cluster : Cluster) : Bool :=
  match state.transactionMode with
  | .isolated => decide (cluster.stage = .settled)
  | _ => decide (cluster.stage = .reported)

def send (state : State) (index : Nat) (cluster : Cluster) (nextEvents : List QueuedEvent) (followup : String)
    (followups : List String) : State :=
  let event := QueuedEvent.successor index cluster.sent.length followup
  (state.setEvents index (state.events (state.tx index) ++ [event])).setCluster index
    ⟨.publishing nextEvents followups,cluster.sent ++ [event]⟩

/-- The end of `#publishFollowupEvents`: the transaction gets its own events back. -/
def setNextSagaEvents (state : State) (index : Nat) (cluster : Cluster) (nextEvents : List QueuedEvent) : State :=
  {(state.setEvents index nextEvents).setCluster index {cluster with stage := .reported} with
    nextSagaEvents := state.events (state.tx index)}

def step (onHandlers : List String) (state : State) : Action → Option State
  | .publishEvent index event => (state.clusterAt index).bind (fun cluster =>
    match cluster.stage with
    | .handling => some (state.setEvents index (state.events (state.tx index) ++ [.ordinary event]))
    | _ => none)
  | .outdated index => (state.clusterAt index).bind (fun cluster =>
    match cluster.stage with
    | .handling => some (state.setCluster index {cluster with stage := .reported})
    | _ => none)
  | .publishFollowupEvents index event statuses => (state.clusterAt index).bind (fun cluster =>
    match cluster.stage with
    | .handling =>
      match followupEvents onHandlers event statuses with
      | none => some (state.setCluster index {cluster with stage := .reported})
      | some followups => some ((state.setEvents index []).setCluster index
          {cluster with stage := .publishing (state.events (state.tx index)) followups})
    | _ => none)
  | .send index => (state.clusterAt index).bind (fun cluster =>
    match cluster.stage with
    | .publishing nextEvents (followup::followups) => some (state.send index cluster nextEvents followup followups)
    | _ => none)
  | .failPublishing index => (state.clusterAt index).bind (fun cluster =>
    match cluster.stage with
    | .publishing _ _ => some (state.setCluster index {cluster with stage := .reported})
    | _ => none)
  | .setNextSagaEvents index => (state.clusterAt index).bind (fun cluster =>
    match cluster.stage with
    | .publishing nextEvents [] => some (state.setNextSagaEvents index cluster nextEvents)
    | _ => none)
  | .insert index => (state.clusterAt index).bind (fun cluster =>
    match cluster.stage,state.transactionMode with
    | .reported,.isolated =>
      if state.nextSagaEvents.isEmpty then some (state.setCluster index {cluster with stage := .settled})
      else some ((state.insertAll state.nextSagaEvents (.cluster index)).setCluster index
        {cluster with stage := .inserting})
    | _,_ => none)
  | .reset index => (state.clusterAt index).bind (fun cluster =>
    match cluster.stage with
    | .inserting => some {state.setCluster index {cluster with stage := .settled} with nextSagaEvents := []}
    | _ => none)
  | .leave index => (state.clusterAt index).bind (fun cluster =>
    match cluster.stage,state.transactionMode with
    | .reported,.isolated => some (state.setCluster index {cluster with stage := .settled})
    | _,_ => none)
  | .endMap commit =>
    if state.phase = .processing ∧ state.clusters.all state.isDone = true ∧
        (commit = true → state.transactionMode = .alwaysCommit) then
      some {state.insertAll (if commit then state.events 0 else []) .processing with phase := .ended}
    else none
  | .insertChunk =>
    if state.phase = .ended then
      if state.nextSagaEvents.isEmpty then some {state with phase := .finished}
      else some {state.insertAll state.nextSagaEvents .chunk with phase := .inserting}
    else none
  | .resetChunk =>
    if state.phase = .inserting then some {state with nextSagaEvents := [],phase := .finished} else none
  | .leaveChunk => if state.phase = .ended then some {state with phase := .finished} else none

inductive Taken (onHandlers : List String) (state : State) : Action → State → Prop
  | publishEvent (index : Nat) (event : String) (cluster : Cluster) (phase : state.phase = .processing)
      (found : state.clusters[index]? = some cluster) :
      Taken onHandlers state (.publishEvent index event)
        (state.setEvents index (state.events (state.tx index) ++ [.ordinary event]))
  | unpublished (action : Action) (index : Nat) (cluster : Cluster) (phase : state.phase = .processing)
      (found : state.clusters[index]? = some cluster) (stage : cluster.stage = .handling) :
      Taken onHandlers state action (state.setCluster index {cluster with stage := .reported})
  | publishFollowupEvents (index : Nat) (event : String) (statuses : List Value) (followups : List String)
      (cluster : Cluster) (phase : state.phase = .processing) (found : state.clusters[index]? = some cluster)
      (stage : cluster.stage = .handling) (known : followupEvents onHandlers event statuses = some followups) :
      Taken onHandlers state (.publishFollowupEvents index event statuses) ((state.setEvents index []).setCluster index
        {cluster with stage := .publishing (state.events (state.tx index)) followups})
  | send (index : Nat) (cluster : Cluster) (nextEvents : List QueuedEvent) (followup : String) (followups : List String)
      (phase : state.phase = .processing) (found : state.clusters[index]? = some cluster)
      (stage : cluster.stage = .publishing nextEvents (followup::followups)) :
      Taken onHandlers state (.send index) (state.send index cluster nextEvents followup followups)
  | failPublishing (index : Nat) (cluster : Cluster) (nextEvents : List QueuedEvent) (followups : List String)
      (phase : state.phase = .processing) (found : state.clusters[index]? = some cluster)
      (stage : cluster.stage = .publishing nextEvents followups) :
      Taken onHandlers state (.failPublishing index) (state.setCluster index {cluster with stage := .reported})
  | setNextSagaEvents (index : Nat) (cluster : Cluster) (nextEvents : List QueuedEvent)
      (phase : state.phase = .processing) (found : state.clusters[index]? = some cluster)
      (stage : cluster.stage = .publishing nextEvents []) :
      Taken onHandlers state (.setNextSagaEvents index) (state.setNextSagaEvents index cluster nextEvents)
  | insertNothing (index : Nat) (cluster : Cluster) (phase : state.phase = .processing)
      (found : state.clusters[index]? = some cluster) (stage : cluster.stage = .reported)
      (isolated : state.transactionMode = .isolated) (empty : state.nextSagaEvents = []) :
      Taken onHandlers state (.insert index) (state.setCluster index {cluster with stage := .settled})
  | insert (index : Nat) (cluster : Cluster) (phase : state.phase = .processing)
      (found : state.clusters[index]? = some cluster) (stage : cluster.stage = .reported)
      (isolated : state.transactionMode = .isolated) (more : state.nextSagaEvents ≠ []) :
      Taken onHandlers state (.insert index) ((state.insertAll state.nextSagaEvents (.cluster index)).setCluster index
        {cluster with stage := .inserting})
  | reset (index : Nat) (cluster : Cluster) (phase : state.phase = .processing)
      (found : state.clusters[index]? = some cluster) (stage : cluster.stage = .inserting) :
      Taken onHandlers state (.reset index)
        {state.setCluster index {cluster with stage := .settled} with nextSagaEvents := []}
  | leave (index : Nat) (cluster : Cluster) (phase : state.phase = .processing)
      (found : state.clusters[index]? = some cluster) (stage : cluster.stage = .reported)
      (isolated : state.transactionMode = .isolated) :
      Taken onHandlers state (.leave index) (state.setCluster index {cluster with stage := .settled})
  | endMap (commit : Bool) (phase : state.phase = .processing) (done : ∀ cluster ∈ state.clusters, state.isDone cluster)
      (allowed : commit = true → state.transactionMode = .alwaysCommit) :
      Taken onHandlers state (.endMap commit)
        {state.insertAll (if commit then state.events 0 else []) .processing with phase := .ended}
  | finishChunk (action : Action) (phase : state.phase = .ended)
      (left : action = .leaveChunk ∨ state.nextSagaEvents = []) :
      Taken onHandlers state action {state with phase := .finished}
  | insertChunk (phase : state.phase = .ended) :
      Taken onHandlers state .insertChunk {state.insertAll state.nextSagaEvents .chunk with phase := .inserting}
  | resetChunk (phase : state.phase = .inserting) :
      Taken onHandlers state .resetChunk {state with nextSagaEvents := [],phase := .finished}

theorem clusterAt_some {state : State} {index : Nat} {cluster : Cluster}
    (found : state.clusterAt index = some cluster) :
    state.phase = .processing ∧ state.clusters[index]? = some cluster := by
  unfold clusterAt at found
  split at found
  · rename_i phase
    exact ⟨phase,found⟩
  · cases found

theorem step_taken (onHandlers : List String) (state next : State) (action : Action)
    (taken : state.step onHandlers action = some next) : Taken onHandlers state action next := by
  cases action with
  | endMap commit =>
    simp only [step] at taken
    split at taken
    · rename_i ready
      cases taken
      exact .endMap commit ready.1 (List.all_eq_true.mp ready.2.1) ready.2.2
    · cases taken
  | insertChunk =>
    simp only [step] at taken
    split at taken
    · rename_i phase
      split at taken
      · rename_i empty
        cases taken
        exact .finishChunk _ phase (Or.inr (by simpa using empty))
      · cases taken
        exact .insertChunk phase
    · cases taken
  | resetChunk =>
    simp only [step] at taken
    split at taken
    · rename_i phase
      cases taken
      exact .resetChunk phase
    · cases taken
  | leaveChunk =>
    simp only [step] at taken
    split at taken
    · rename_i phase
      cases taken
      exact .finishChunk _ phase (Or.inl rfl)
    · cases taken
  | publishEvent index event =>
    obtain ⟨cluster,found,taken⟩ := Option.bind_eq_some_iff.mp taken
    obtain ⟨phase,found⟩ := clusterAt_some found
    split at taken
    · cases taken
      exact .publishEvent index event cluster phase found
    · cases taken
  | outdated index =>
    obtain ⟨cluster,found,taken⟩ := Option.bind_eq_some_iff.mp taken
    obtain ⟨phase,found⟩ := clusterAt_some found
    split at taken
    · rename_i stage
      cases taken
      exact .unpublished _ index cluster phase found stage
    · cases taken
  | publishFollowupEvents index event statuses =>
    obtain ⟨cluster,found,taken⟩ := Option.bind_eq_some_iff.mp taken
    obtain ⟨phase,found⟩ := clusterAt_some found
    split at taken
    · rename_i stage
      split at taken
      · cases taken
        exact .unpublished _ index cluster phase found stage
      · rename_i followups known
        cases taken
        exact .publishFollowupEvents index event statuses followups cluster phase found stage known
    · cases taken
  | send index =>
    obtain ⟨cluster,found,taken⟩ := Option.bind_eq_some_iff.mp taken
    obtain ⟨phase,found⟩ := clusterAt_some found
    split at taken
    · rename_i nextEvents followup followups stage
      cases taken
      exact .send index cluster nextEvents followup followups phase found stage
    · cases taken
  | failPublishing index =>
    obtain ⟨cluster,found,taken⟩ := Option.bind_eq_some_iff.mp taken
    obtain ⟨phase,found⟩ := clusterAt_some found
    split at taken
    · rename_i nextEvents followups stage
      cases taken
      exact .failPublishing index cluster nextEvents followups phase found stage
    · cases taken
  | setNextSagaEvents index =>
    obtain ⟨cluster,found,taken⟩ := Option.bind_eq_some_iff.mp taken
    obtain ⟨phase,found⟩ := clusterAt_some found
    split at taken
    · rename_i nextEvents stage
      cases taken
      exact .setNextSagaEvents index cluster nextEvents phase found stage
    · cases taken
  | insert index =>
    obtain ⟨cluster,found,taken⟩ := Option.bind_eq_some_iff.mp taken
    obtain ⟨phase,found⟩ := clusterAt_some found
    split at taken
    · rename_i stage isolated
      split at taken
      · rename_i empty
        cases taken
        exact .insertNothing index cluster phase found stage isolated (by simpa using empty)
      · rename_i more
        cases taken
        exact .insert index cluster phase found stage isolated (by simpa using more)
    · cases taken
  | reset index =>
    obtain ⟨cluster,found,taken⟩ := Option.bind_eq_some_iff.mp taken
    obtain ⟨phase,found⟩ := clusterAt_some found
    split at taken
    · rename_i stage
      cases taken
      exact .reset index cluster phase found stage
    · cases taken
  | leave index =>
    obtain ⟨cluster,found,taken⟩ := Option.bind_eq_some_iff.mp taken
    obtain ⟨phase,found⟩ := clusterAt_some found
    split at taken
    · rename_i stage isolated
      cases taken
      exact .leave index cluster phase found stage isolated
    · cases taken

end State

end EventQueue.Saga

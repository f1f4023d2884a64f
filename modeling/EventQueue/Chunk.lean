import EventQueue.PersistEventStatus
import EventQueue.Lib.Transition

/-! One chunk of an ad-hoc event in `processEventQueue`, from the selected entries to the
final status transaction: pre-processing, exceeded entries, clusters under the limiter,
keep-alive ticks between any two steps, failing writes and commits. -/
namespace EventQueue
open Js (Value)

structure Setting where
  transactionMode : TransactionMode
  parallelEventProcessing : Nat
  retry : RetryConfig

/-- What `checkEventAndGeneratePayload` gives for an entry. -/
inductive Payload
  | null
  | undefined
  | value
  | thrown (error : Value)

inductive Outcome
  | returned (statusTuple : Value)
  | thrown (error : Value)

inductive ClusterState
  | waiting
  | launched
  | running
  /-- `_processEvent` returned this map, isolated mode only. -/
  | reported (statusMap : Dict Value)
  | writing (tx : StatusTx)
  | fulfilled
  | rejected

structure Cluster where
  key : String
  queueEntries : List String
  state : ClusterState

/-- One transaction of `handleExceededEvents`. -/
inductive ExceededJob
  | exceededTriesExceeded (ids : List String)
  | exceededTries (id : String)

def ExceededJob.ids : ExceededJob → List String
  | .exceededTriesExceeded ids => ids
  | .exceededTries id => [id]

inductive Phase
  | preprocessing
  | exceeding (jobs : List ExceededJob)
  | exceededTx (job : ExceededJob) (hookThrew : Bool) (tx : StatusTx) (jobs : List ExceededJob)
  | processing
  | persisting
  | persistTx (tx : StatusTx)
  | finished
  | aborted

/-- The fields of the processor instance and, from `committed` on, the history of the chunk. -/
structure Chunk where
  selectedEventMap : List String
  queueEntries : List String
  eventsWithExceededTries : List String
  exceededTriesExceeded : List String
  queueEntriesWithPayloadMap : List String
  statusMap : Dict Value
  commitedStatusMap : List String
  notCommitedStatusMap : List String
  outdatedEventMap : List String
  keepAliveViolated : Bool
  etagMap : Dict Nat
  clusters : List Cluster
  phase : Phase
  committed : List Update
  /-- Entries of the clusters `processEvent` was called with. -/
  invoked : List String
  obsolete : List String
  /-- Everything reported into `__statusMap`. -/
  reports : List Report

/-- The instance after its selection transaction has committed. -/
def Chunk.selected (openEvents exceededTriesExceeded exceededTries : List String) (timestamp : Nat) : Chunk where
  selectedEventMap := openEvents ++ exceededTriesExceeded ++ exceededTries
  queueEntries := openEvents
  eventsWithExceededTries := exceededTries
  exceededTriesExceeded := exceededTriesExceeded
  queueEntriesWithPayloadMap := []
  statusMap := Dict.empty
  commitedStatusMap := []
  notCommitedStatusMap := openEvents
  outdatedEventMap := []
  keepAliveViolated := false
  etagMap := openEvents.foldl (fun etags id => etags.set id timestamp) Dict.empty
  clusters := []
  phase := .preprocessing
  committed := []
  invoked := []
  obsolete := []
  reports := []

inductive Chunk.Action
  | preprocess (payloads : String → Payload)
  | exceededOpen (hookThrew : Bool)
  | exceededWrite (ok : Bool)
  | exceededCommit (ok : Bool)
  /-- `clusterQueueEntries` and `beforeProcessingEvents`; none if one of them throws. -/
  | cluster (clusters : Option (List (String × List String)))
  | noPayload
  | launch (index : Nat)
  /-- The cluster's turn in `_processEvent`; false if its transaction cannot be opened. -/
  | processEvent (index : Nat) (ok : Bool)
  | report (index : Nat) (outcome : Outcome)
  | settle (index : Nat) (shouldRollback rollbackOk : Bool)
  | write (index : Nat) (ok : Bool)
  | commit (index : Nat) (ok : Bool)
  /-- A keep-alive transaction that found these rows in progress. -/
  | tick (found : List (String × Option Nat)) (ok : Bool)
  | endMap (ok : Bool)
  | persistOpen
  | persistWrite (ok : Bool)
  | persistCommit (ok : Bool)

variable (env : Environment) (setting : Setting)

namespace Chunk

def withAdded (added : Added) (chunk : Chunk) : Chunk :=
  {chunk with statusMap := added.statusMap,reports := chunk.reports ++ added.reports}

def preprocessReport (payloads : String → Payload) (id : String) : Option Report :=
  match payloads id with
  | .null => some ⟨id,.nat EventProcessingStatus.Done,.undefined⟩
  | .undefined => some ⟨id,.nat EventProcessingStatus.Error,.undefined⟩
  | .thrown error => some ⟨id,.nat EventProcessingStatus.Error,error⟩
  | .value => none

def exceededJobs (chunk : Chunk) : List ExceededJob :=
  (if chunk.exceededTriesExceeded.isEmpty then [] else [.exceededTriesExceeded chunk.exceededTriesExceeded]) ++
    chunk.eventsWithExceededTries.map .exceededTries

def preprocess (payloads : String → Payload) (chunk : Chunk) : Chunk :=
  let added := addReports env chunk.statusMap (chunk.queueEntries.filterMap (preprocessReport payloads))
  {chunk.withAdded added with
    queueEntriesWithPayloadMap := chunk.queueEntries.filter (fun id => (preprocessReport payloads id).isNone)
    obsolete := chunk.queueEntries.filter (fun id => match payloads id with | .null => true | _ => false)
    phase := if added.ok then .exceeding chunk.exceededJobs else .aborted}

/-- `setEventStatus` of `#persistEventQueueStatusForExceeded`: one fixed status for all. -/
def exceededStatusMap (ids : List String) (status : Nat) : Dict Value :=
  ids.foldl (fun statusMap id => statusMap.set id (updateDataOf (.nat status) .undefined)) Dict.empty

def hookRuns : ExceededJob → Bool
  | .exceededTriesExceeded _ => false
  | .exceededTries _ => true

def openExceeded (now : Nat) (job : ExceededJob) (hookThrew : Bool) (jobs : List ExceededJob) (chunk : Chunk) :
    Chunk :=
  let status := if hookThrew then EventProcessingStatus.Error else EventProcessingStatus.Exceeded
  match (persistChecked chunk.selectedEventMap (exceededStatusMap job.ids status)).bind (StatusTx.open env now) with
  | none => {chunk with phase := .aborted}
  | some tx => {chunk with phase := .exceededTx job hookThrew tx jobs}

/-- `__commitedStatusMap` and `__notCommitedStatusMap` change before the update is sent. -/
def mark (ids : List String) (chunk : Chunk) : Chunk :=
  {chunk with
    commitedStatusMap := chunk.commitedStatusMap ++ ids
    notCommitedStatusMap := chunk.notCommitedStatusMap.filter (fun id => !ids.contains id)}

/-- The next group of a transaction; none if its update throws or the database refuses it. -/
def advance (now : Nat) (ok : Bool) (tx : StatusTx) : Option StatusTx :=
  if ok then tx.writeNext env setting.retry now else none

/-- A failing write after the hook makes the entry an error in a transaction of its own. -/
def exceededWrite (now : Nat) (job : ExceededJob) (hookThrew : Bool) (tx : StatusTx) (jobs : List ExceededJob)
    (ok : Bool) (chunk : Chunk) : Chunk :=
  match advance env setting now ok tx,job with
  | some next,_ => {chunk.mark tx.nextIds with phase := .exceededTx job hookThrew next jobs}
  | none,.exceededTriesExceeded _ => {chunk.mark tx.nextIds with phase := .aborted}
  | none,.exceededTries _ =>
    if hookThrew then {chunk.mark tx.nextIds with phase := .aborted}
    else (chunk.mark tx.nextIds).openExceeded env now job true jobs

def exceededCommit (tx : StatusTx) (jobs : List ExceededJob) (ok : Bool) (chunk : Chunk) : Chunk :=
  if ok then {chunk with phase := .exceeding jobs,committed := chunk.committed ++ tx.updates}
  else {chunk with phase := .aborted}

def setCluster (index : Nat) (cluster : Cluster) (state : ClusterState) (chunk : Chunk) : Chunk :=
  {chunk with clusters := chunk.clusters.set index {cluster with state := state}}

def inFlight (chunk : Chunk) : Nat :=
  chunk.clusters.countP (fun cluster => match cluster.state with
    | .launched | .running | .reported _ | .writing _ => true
    | _ => false)

def isWaiting (cluster : Cluster) : Bool :=
  match cluster.state with
  | .waiting => true
  | _ => false

def isSettled (cluster : Cluster) : Bool :=
  match cluster.state with
  | .fulfilled | .rejected => true
  | _ => false

def isRejected (cluster : Cluster) : Bool :=
  match cluster.state with
  | .rejected => true
  | _ => false

/-- The start of `_processEvent`: after a keep-alive violation the cluster is skipped. -/
def processEvent (index : Nat) (cluster : Cluster) (ok : Bool) (chunk : Chunk) : Chunk :=
  if !ok then chunk.setCluster index cluster .rejected
  else if chunk.keepAliveViolated then
    chunk.setCluster index cluster
      (if setting.transactionMode = .isolated then .reported Dict.empty else .fulfilled)
  else {chunk.setCluster index cluster .running with invoked := chunk.invoked ++ cluster.queueEntries}

/-- `handleErrorDuringProcessing` for a cluster: all its entries are in error, also in `__statusMap`. -/
def handleErrorDuringProcessing (index : Nat) (cluster : Cluster) (error : Value) (chunk : Chunk) : Chunk :=
  let added := addReports env chunk.statusMap (errorReports cluster.queueEntries error)
  (chunk.withAdded added).setCluster index cluster
    (if added.ok then
      if setting.transactionMode = .isolated then .reported (errorStatusMap cluster.queueEntries error)
      else .fulfilled
    else .rejected)

/-- The end of `_processEvent`: in isolated mode a map of the cluster's own, otherwise `__statusMap`. -/
def report (index : Nat) (cluster : Cluster) (outcome : Outcome) (chunk : Chunk) : Chunk :=
  match outcome with
  | .thrown error => chunk.handleErrorDuringProcessing env setting index cluster error
  | .returned statusTuple =>
    if setting.transactionMode = .isolated then
      let added := setEventStatus env Dict.empty cluster.queueEntries statusTuple
      if added.ok then chunk.setCluster index cluster (.reported added.statusMap)
      else chunk.handleErrorDuringProcessing env setting index cluster env.typeError
    else
      let added := setEventStatus env chunk.statusMap cluster.queueEntries statusTuple
      if added.ok then (chunk.withAdded added).setCluster index cluster .fulfilled
      else (chunk.withAdded added).handleErrorDuringProcessing env setting index cluster env.typeError

/-- What follows `_processEvent` in isolated mode: with an error the cluster's transaction is rolled
back first and the statuses go to a new one. -/
def settle (now index : Nat) (cluster : Cluster) (statusMap : Dict Value) (shouldRollback rollbackOk : Bool)
    (chunk : Chunk) : Chunk :=
  match statusMapContainsError statusMap with
  | none => chunk.setCluster index cluster .rejected
  | some containsError =>
    if (containsError || shouldRollback) && !rollbackOk then chunk.setCluster index cluster .rejected
    else match (persistChecked chunk.selectedEventMap statusMap).bind (StatusTx.open env now) with
      | none => chunk.setCluster index cluster .rejected
      | some tx => chunk.setCluster index cluster (.writing tx)

def write (now index : Nat) (cluster : Cluster) (tx : StatusTx) (ok : Bool) (chunk : Chunk) : Chunk :=
  (chunk.mark tx.nextIds).setCluster index cluster
    (match advance env setting now ok tx with
    | none => .rejected
    | some next => .writing next)

def commit (index : Nat) (cluster : Cluster) (tx : StatusTx) (ok : Bool) (chunk : Chunk) : Chunk :=
  if ok then {chunk.setCluster index cluster .fulfilled with committed := chunk.committed ++ tx.updates}
  else chunk.setCluster index cluster .rejected

/-- `handleErrorTx` and `handleErrorDuringClustering`: every entry of the chunk is reported in error. -/
def handleErrorOfChunk (chunk : Chunk) : Chunk :=
  let added := addReports env chunk.statusMap (errorReports chunk.queueEntries .undefined)
  {chunk.withAdded added with phase := if added.ok then .persisting else .aborted}

/-- The rows of a tick that still carry the timestamp this instance wrote last. -/
def valid (chunk : Chunk) (found : List (String × Option Nat)) : List String :=
  (found.filter (fun row => row.2.isSome && chunk.etagMap.get? row.1 == row.2)).map Prod.fst

def outdated (chunk : Chunk) (found : List (String × Option Nat)) : List String :=
  (found.filter (fun row => !(row.2.isSome && chunk.etagMap.get? row.1 == row.2))).map Prod.fst

/-- `continuesKeepAlive`: the etags change at once, whether or not the transaction commits. -/
def tick (now : Nat) (found : List (String × Option Nat)) (chunk : Chunk) : Chunk :=
  if chunk.keepAliveViolated then chunk
  else {chunk with
    etagMap := (chunk.valid found).foldl (fun etags id => etags.set id now) chunk.etagMap
    outdatedEventMap := chunk.outdatedEventMap ++ chunk.outdated found
    keepAliveViolated := !(chunk.outdated found).isEmpty}

def persistOpen (now : Nat) (chunk : Chunk) : Chunk :=
  match (persistFilled chunk.selectedEventMap chunk.queueEntries chunk.commitedStatusMap
      chunk.outdatedEventMap chunk.statusMap).bind (StatusTx.open env now) with
  | none => {chunk with phase := .aborted}
  | some tx => {chunk with phase := .persistTx tx}

def persistWrite (now : Nat) (tx : StatusTx) (ok : Bool) (chunk : Chunk) : Chunk :=
  match advance env setting now ok tx with
  | none => {chunk.mark tx.nextIds with phase := .aborted}
  | some next => {chunk.mark tx.nextIds with phase := .persistTx next}

def persistCommit (tx : StatusTx) (ok : Bool) (chunk : Chunk) : Chunk :=
  if ok then {chunk with phase := .finished,committed := chunk.committed ++ tx.updates}
  else {chunk with phase := .aborted}

end Chunk

/-- Clusters group entries with payload; no key occurs twice and none is empty. -/
def validClusters (withPayload : List String) (clusters : List (String × List String)) : Bool :=
  decide (clusters.map Prod.fst).Nodup &&
    clusters.all (fun cluster => !cluster.2.isEmpty && cluster.2.all (fun id => withPayload.contains id))

def Chunk.clusterAt (chunk : Chunk) (index : Nat) : Option Cluster :=
  match chunk.phase with
  | .processing => chunk.clusters[index]?
  | _ => none

/-- The limiter starts clusters in order while fewer than the limit are in flight. -/
def Chunk.isNext (chunk : Chunk) (index : Nat) : Bool :=
  (chunk.clusters.take index).all (fun cluster => !Chunk.isWaiting cluster) &&
    decide (chunk.inFlight < max 1 setting.parallelEventProcessing)

def Chunk.step (chunk : Chunk) (now : Nat) : Action → Option Chunk
  | .preprocess payloads =>
    match chunk.phase with
    | .preprocessing => some (chunk.preprocess env payloads)
    | _ => none
  | .exceededOpen hookThrew =>
    match chunk.phase with
    | .exceeding (job::jobs) =>
      if hookThrew && !Chunk.hookRuns job then none else some (chunk.openExceeded env now job hookThrew jobs)
    | _ => none
  | .exceededWrite ok =>
    match chunk.phase with
    | .exceededTx job hookThrew tx jobs =>
      if tx.groups.isEmpty then none else some (chunk.exceededWrite env setting now job hookThrew tx jobs ok)
    | _ => none
  | .exceededCommit ok =>
    match chunk.phase with
    | .exceededTx _ _ tx jobs => if tx.groups.isEmpty then some (chunk.exceededCommit tx jobs ok) else none
    | _ => none
  | .noPayload =>
    match chunk.phase with
    | .exceeding [] =>
      if chunk.queueEntriesWithPayloadMap.isEmpty then some {chunk with phase := .persisting} else none
    | _ => none
  | .cluster clusters =>
    match chunk.phase with
    | .exceeding [] =>
      if chunk.queueEntriesWithPayloadMap.isEmpty then none
      else match clusters with
        | none => some (chunk.handleErrorOfChunk env)
        | some clusters =>
          if validClusters chunk.queueEntriesWithPayloadMap clusters then
            some {chunk with
              clusters := clusters.map (fun cluster => ⟨cluster.1,cluster.2,.waiting⟩)
              phase := .processing}
          else none
    | _ => none
  | .launch index => (chunk.clusterAt index).bind (fun cluster =>
    match cluster.state with
    | .waiting => if chunk.isNext setting index then some (chunk.setCluster index cluster .launched) else none
    | _ => none)
  | .processEvent index ok => (chunk.clusterAt index).bind (fun cluster =>
    match cluster.state with
    | .launched =>
      if ok || setting.transactionMode = .isolated then some (chunk.processEvent setting index cluster ok) else none
    | _ => none)
  | .report index outcome => (chunk.clusterAt index).bind (fun cluster =>
    match cluster.state with
    | .running => some (chunk.report env setting index cluster outcome)
    | _ => none)
  | .settle index shouldRollback rollbackOk => (chunk.clusterAt index).bind (fun cluster =>
    match cluster.state with
    | .reported statusMap => some (chunk.settle env now index cluster statusMap shouldRollback rollbackOk)
    | _ => none)
  | .write index ok => (chunk.clusterAt index).bind (fun cluster =>
    match cluster.state with
    | .writing tx => if tx.groups.isEmpty then none else some (chunk.write env setting now index cluster tx ok)
    | _ => none)
  | .commit index ok => (chunk.clusterAt index).bind (fun cluster =>
    match cluster.state with
    | .writing tx => if tx.groups.isEmpty then some (chunk.commit index cluster tx ok) else none
    | _ => none)
  | .tick found _ =>
    match chunk.phase with
    | .processing =>
      if found.all (fun row => chunk.notCommitedStatusMap.contains row.1) then some (chunk.tick now found) else none
    | _ => none
  | .endMap ok =>
    match chunk.phase with
    | .processing =>
      if chunk.clusters.all Chunk.isSettled then
        if !ok then some {chunk with phase := .aborted}
        else if chunk.clusters.any Chunk.isRejected then some (chunk.handleErrorOfChunk env)
        else some {chunk with phase := .persisting}
      else none
    | _ => none
  | .persistOpen =>
    match chunk.phase with
    | .persisting => some (chunk.persistOpen env now)
    | _ => none
  | .persistWrite ok =>
    match chunk.phase with
    | .persistTx tx => if tx.groups.isEmpty then none else some (chunk.persistWrite env setting now tx ok)
    | _ => none
  | .persistCommit ok =>
    match chunk.phase with
    | .persistTx tx => if tx.groups.isEmpty then some (chunk.persistCommit tx ok) else none
    | _ => none

inductive Chunk.Taken (chunk : Chunk) (now : Nat) : Action → Chunk → Prop
  | preprocess (payloads : String → Payload) (phase : chunk.phase = .preprocessing) :
      Taken chunk now (.preprocess payloads) (chunk.preprocess env payloads)
  | exceededOpen (hookThrew : Bool) (job : ExceededJob) (jobs : List ExceededJob)
      (phase : chunk.phase = .exceeding (job::jobs)) (hooked : Chunk.hookRuns job = false → hookThrew = false) :
      Taken chunk now (.exceededOpen hookThrew) (chunk.openExceeded env now job hookThrew jobs)
  | exceededWrite (ok : Bool) (job : ExceededJob) (hookThrew : Bool) (tx : StatusTx) (jobs : List ExceededJob)
      (phase : chunk.phase = .exceededTx job hookThrew tx jobs) (more : tx.groups ≠ []) :
      Taken chunk now (.exceededWrite ok) (chunk.exceededWrite env setting now job hookThrew tx jobs ok)
  | exceededCommit (ok : Bool) (job : ExceededJob) (hookThrew : Bool) (tx : StatusTx) (jobs : List ExceededJob)
      (phase : chunk.phase = .exceededTx job hookThrew tx jobs) (written : tx.groups = []) :
      Taken chunk now (.exceededCommit ok) (chunk.exceededCommit tx jobs ok)
  | noPayload (phase : chunk.phase = .exceeding []) (none : chunk.queueEntriesWithPayloadMap = []) :
      Taken chunk now .noPayload {chunk with phase := .persisting}
  | clusterError (phase : chunk.phase = .exceeding []) :
      Taken chunk now (.cluster none) (chunk.handleErrorOfChunk env)
  | cluster (clusters : List (String × List String)) (phase : chunk.phase = .exceeding [])
      (valid : validClusters chunk.queueEntriesWithPayloadMap clusters = true) :
      Taken chunk now (.cluster (some clusters))
        {chunk with clusters := clusters.map (fun cluster => ⟨cluster.1,cluster.2,.waiting⟩),phase := .processing}
  | launch (index : Nat) (cluster : Cluster) (phase : chunk.phase = .processing)
      (found : chunk.clusters[index]? = some cluster) (state : cluster.state = .waiting) :
      Taken chunk now (.launch index) (chunk.setCluster index cluster .launched)
  | processEvent (index : Nat) (ok : Bool) (cluster : Cluster) (phase : chunk.phase = .processing)
      (found : chunk.clusters[index]? = some cluster) (state : cluster.state = .launched)
      (isolated : ok = false → setting.transactionMode = .isolated) :
      Taken chunk now (.processEvent index ok) (chunk.processEvent setting index cluster ok)
  | report (index : Nat) (outcome : Outcome) (cluster : Cluster) (phase : chunk.phase = .processing)
      (found : chunk.clusters[index]? = some cluster) (state : cluster.state = .running) :
      Taken chunk now (.report index outcome) (chunk.report env setting index cluster outcome)
  | settle (index : Nat) (shouldRollback rollbackOk : Bool) (cluster : Cluster) (statusMap : Dict Value)
      (phase : chunk.phase = .processing) (found : chunk.clusters[index]? = some cluster)
      (state : cluster.state = .reported statusMap) :
      Taken chunk now (.settle index shouldRollback rollbackOk)
        (chunk.settle env now index cluster statusMap shouldRollback rollbackOk)
  | write (index : Nat) (ok : Bool) (cluster : Cluster) (tx : StatusTx) (phase : chunk.phase = .processing)
      (found : chunk.clusters[index]? = some cluster) (state : cluster.state = .writing tx) (more : tx.groups ≠ []) :
      Taken chunk now (.write index ok) (chunk.write env setting now index cluster tx ok)
  | commit (index : Nat) (ok : Bool) (cluster : Cluster) (tx : StatusTx) (phase : chunk.phase = .processing)
      (found : chunk.clusters[index]? = some cluster) (state : cluster.state = .writing tx)
      (written : tx.groups = []) :
      Taken chunk now (.commit index ok) (chunk.commit index cluster tx ok)
  | tick (found : List (String × Option Nat)) (ok : Bool) (phase : chunk.phase = .processing)
      (own : ∀ row ∈ found, row.1 ∈ chunk.notCommitedStatusMap) :
      Taken chunk now (.tick found ok) (chunk.tick now found)
  | endMapFailed (phase : chunk.phase = .processing) (settled : ∀ cluster ∈ chunk.clusters, Chunk.isSettled cluster) :
      Taken chunk now (.endMap false) {chunk with phase := .aborted}
  | endMapRejected (phase : chunk.phase = .processing) (settled : ∀ cluster ∈ chunk.clusters, Chunk.isSettled cluster)
      (rejected : ∃ cluster ∈ chunk.clusters, Chunk.isRejected cluster) :
      Taken chunk now (.endMap true) (chunk.handleErrorOfChunk env)
  | endMap (phase : chunk.phase = .processing) (settled : ∀ cluster ∈ chunk.clusters, Chunk.isSettled cluster)
      (fulfilled : ∀ cluster ∈ chunk.clusters, Chunk.isRejected cluster = false) :
      Taken chunk now (.endMap true) {chunk with phase := .persisting}
  | persistOpen (phase : chunk.phase = .persisting) : Taken chunk now .persistOpen (chunk.persistOpen env now)
  | persistWrite (ok : Bool) (tx : StatusTx) (phase : chunk.phase = .persistTx tx) (more : tx.groups ≠ []) :
      Taken chunk now (.persistWrite ok) (chunk.persistWrite env setting now tx ok)
  | persistCommit (ok : Bool) (tx : StatusTx) (phase : chunk.phase = .persistTx tx) (written : tx.groups = []) :
      Taken chunk now (.persistCommit ok) (chunk.persistCommit tx ok)

theorem Chunk.clusterAt_some (chunk : Chunk) (index : Nat) (cluster : Cluster)
    (found : chunk.clusterAt index = some cluster) :
    chunk.phase = .processing ∧ chunk.clusters[index]? = some cluster := by
  unfold Chunk.clusterAt at found
  split at found
  · rename_i phase
    exact ⟨phase,found⟩
  · cases found

theorem Chunk.step_taken (chunk next : Chunk) (now : Nat) (action : Action)
    (taken : chunk.step env setting now action = some next) : Taken env setting chunk now action next := by
  cases action with
  | preprocess payloads =>
    simp only [step] at taken
    split at taken
    · rename_i phase
      cases taken
      exact .preprocess payloads phase
    · cases taken
  | exceededOpen hookThrew =>
    simp only [step] at taken
    split at taken
    · rename_i job jobs phase
      split at taken
      · cases taken
      · rename_i hooked
        cases taken
        refine .exceededOpen hookThrew job jobs phase ?_
        intro plain
        simpa [plain] using hooked
    · cases taken
  | exceededWrite ok =>
    simp only [step] at taken
    split at taken
    · rename_i job hookThrew tx jobs phase
      split at taken
      · cases taken
      · rename_i more
        cases taken
        exact .exceededWrite ok job hookThrew tx jobs phase (by simpa using more)
    · cases taken
  | exceededCommit ok =>
    simp only [step] at taken
    split at taken
    · rename_i job hookThrew tx jobs phase
      split at taken
      · rename_i written
        cases taken
        exact .exceededCommit ok job hookThrew tx jobs phase (by simpa using written)
      · cases taken
    · cases taken
  | noPayload =>
    simp only [step] at taken
    split at taken
    · rename_i phase
      split at taken
      · rename_i none
        cases taken
        exact .noPayload phase (by simpa using none)
      · cases taken
    · cases taken
  | cluster clusters =>
    simp only [step] at taken
    split at taken
    · rename_i phase
      split at taken
      · cases taken
      · cases clusters with
        | none =>
          cases taken
          exact .clusterError phase
        | some clusters =>
          simp only at taken
          split at taken
          · rename_i valid
            cases taken
            exact .cluster clusters phase valid
          · cases taken
    · cases taken
  | launch index =>
    obtain ⟨cluster,found,taken⟩ := Option.bind_eq_some_iff.mp taken
    obtain ⟨phase,found⟩ := clusterAt_some chunk index cluster found
    split at taken
    · rename_i state
      split at taken
      · cases taken
        exact .launch index cluster phase found state
      · cases taken
    · cases taken
  | processEvent index ok =>
    obtain ⟨cluster,found,taken⟩ := Option.bind_eq_some_iff.mp taken
    obtain ⟨phase,found⟩ := clusterAt_some chunk index cluster found
    split at taken
    · rename_i state
      split at taken
      · rename_i isolated
        cases taken
        exact .processEvent index ok cluster phase found state (fun failed => by simpa [failed] using isolated)
      · cases taken
    · cases taken
  | report index outcome =>
    obtain ⟨cluster,found,taken⟩ := Option.bind_eq_some_iff.mp taken
    obtain ⟨phase,found⟩ := clusterAt_some chunk index cluster found
    split at taken
    · rename_i state
      cases taken
      exact .report index outcome cluster phase found state
    · cases taken
  | settle index shouldRollback rollbackOk =>
    obtain ⟨cluster,found,taken⟩ := Option.bind_eq_some_iff.mp taken
    obtain ⟨phase,found⟩ := clusterAt_some chunk index cluster found
    split at taken
    · rename_i statusMap state
      cases taken
      exact .settle index shouldRollback rollbackOk cluster statusMap phase found state
    · cases taken
  | write index ok =>
    obtain ⟨cluster,found,taken⟩ := Option.bind_eq_some_iff.mp taken
    obtain ⟨phase,found⟩ := clusterAt_some chunk index cluster found
    split at taken
    · rename_i tx state
      split at taken
      · cases taken
      · rename_i more
        cases taken
        exact .write index ok cluster tx phase found state (by simpa using more)
    · cases taken
  | commit index ok =>
    obtain ⟨cluster,found,taken⟩ := Option.bind_eq_some_iff.mp taken
    obtain ⟨phase,found⟩ := clusterAt_some chunk index cluster found
    split at taken
    · rename_i tx state
      split at taken
      · rename_i written
        cases taken
        exact .commit index ok cluster tx phase found state (by simpa using written)
      · cases taken
    · cases taken
  | tick found ok =>
    simp only [step] at taken
    split at taken
    · rename_i phase
      split at taken
      · rename_i own
        cases taken
        exact .tick found ok phase (by simpa using own)
      · cases taken
    · cases taken
  | endMap ok =>
    simp only [step] at taken
    split at taken
    · rename_i phase
      split at taken
      · rename_i settled
        rw [List.all_eq_true] at settled
        cases ok with
        | false =>
          cases taken
          exact .endMapFailed phase settled
        | true =>
          simp only [Bool.not_true,Bool.false_eq_true,if_false] at taken
          split at taken
          · rename_i rejected
            cases taken
            exact .endMapRejected phase settled (List.any_eq_true.mp rejected)
          · rename_i fulfilled
            cases taken
            exact .endMap phase settled (by simpa using fulfilled)
      · cases taken
    · cases taken
  | persistOpen =>
    simp only [step] at taken
    split at taken
    · rename_i phase
      cases taken
      exact .persistOpen phase
    · cases taken
  | persistWrite ok =>
    simp only [step] at taken
    split at taken
    · rename_i tx phase
      split at taken
      · cases taken
      · rename_i more
        cases taken
        exact .persistWrite ok tx phase (by simpa using more)
    · cases taken
  | persistCommit ok =>
    simp only [step] at taken
    split at taken
    · rename_i tx phase
      split at taken
      · rename_i written
        cases taken
        exact .persistCommit ok tx phase (by simpa using written)
      · cases taken
    · cases taken

structure Chunk.Frame (chunk next : Chunk) : Prop where
  selectedEventMap : next.selectedEventMap = chunk.selectedEventMap
  queueEntries : next.queueEntries = chunk.queueEntries
  eventsWithExceededTries : next.eventsWithExceededTries = chunk.eventsWithExceededTries
  exceededTriesExceeded : next.exceededTriesExceeded = chunk.exceededTriesExceeded
  queueEntriesWithPayloadMap : next.queueEntriesWithPayloadMap = chunk.queueEntriesWithPayloadMap
  notCommitedStatusMap : next.notCommitedStatusMap ⊆ chunk.notCommitedStatusMap
  outdatedEventMap : next.outdatedEventMap = chunk.outdatedEventMap
  keepAliveViolated : next.keepAliveViolated = chunk.keepAliveViolated
  etagMap : next.etagMap = chunk.etagMap

theorem Chunk.Frame.trans {chunk middle next : Chunk} (first : Frame chunk middle) (second : Frame middle next) :
    Frame chunk next where
  selectedEventMap := second.selectedEventMap.trans first.selectedEventMap
  queueEntries := second.queueEntries.trans first.queueEntries
  eventsWithExceededTries := second.eventsWithExceededTries.trans first.eventsWithExceededTries
  exceededTriesExceeded := second.exceededTriesExceeded.trans first.exceededTriesExceeded
  queueEntriesWithPayloadMap := second.queueEntriesWithPayloadMap.trans first.queueEntriesWithPayloadMap
  notCommitedStatusMap := List.Subset.trans second.notCommitedStatusMap first.notCommitedStatusMap
  outdatedEventMap := second.outdatedEventMap.trans first.outdatedEventMap
  keepAliveViolated := second.keepAliveViolated.trans first.keepAliveViolated
  etagMap := second.etagMap.trans first.etagMap

theorem Chunk.frame_with (chunk : Chunk) {statusMap : Dict Value} {commitedStatusMap : List String}
    {clusters : List Cluster} {phase : Phase} {committed : List Update} {invoked obsolete : List String}
    {reports : List Report} :
    Frame chunk {chunk with
      statusMap := statusMap,commitedStatusMap := commitedStatusMap,clusters := clusters,phase := phase
      committed := committed,invoked := invoked,obsolete := obsolete,reports := reports} :=
  ⟨rfl,rfl,rfl,rfl,rfl,List.Subset.refl _,rfl,rfl,rfl⟩

theorem Chunk.frame_mark (chunk : Chunk) (ids : List String) : Frame chunk (chunk.mark ids) :=
  ⟨rfl,rfl,rfl,rfl,rfl,List.filter_sublist.subset,rfl,rfl,rfl⟩

theorem Chunk.frame_openExceeded (chunk : Chunk) (now : Nat) (job : ExceededJob) (hookThrew : Bool)
    (jobs : List ExceededJob) : Frame chunk (chunk.openExceeded env now job hookThrew jobs) := by
  unfold Chunk.openExceeded
  simp only
  split
  · exact chunk.frame_with
  · exact chunk.frame_with

theorem Chunk.frame_exceededWrite (chunk : Chunk) (now : Nat) (job : ExceededJob) (hookThrew : Bool) (tx : StatusTx)
    (jobs : List ExceededJob) (ok : Bool) :
    Frame chunk (chunk.exceededWrite env setting now job hookThrew tx jobs ok) := by
  have marked := chunk.frame_mark tx.nextIds
  unfold Chunk.exceededWrite
  split
  · exact marked.trans (Chunk.frame_with _)
  · exact marked.trans (Chunk.frame_with _)
  · split
    · exact marked.trans (Chunk.frame_with _)
    · exact marked.trans (Chunk.frame_openExceeded env _ now _ true jobs)

theorem Chunk.frame_report (chunk : Chunk) (index : Nat) (cluster : Cluster) (outcome : Outcome) :
    Frame chunk (chunk.report env setting index cluster outcome) := by
  unfold Chunk.report
  split
  · exact chunk.frame_with
  · simp only
    split
    · split
      · exact chunk.frame_with
      · exact chunk.frame_with
    · split
      · exact chunk.frame_with
      · exact chunk.frame_with

theorem Chunk.frame_settle (chunk : Chunk) (now index : Nat) (cluster : Cluster) (statusMap : Dict Value)
    (shouldRollback rollbackOk : Bool) :
    Frame chunk (chunk.settle env now index cluster statusMap shouldRollback rollbackOk) := by
  unfold Chunk.settle
  split
  · exact chunk.frame_with
  · split
    · exact chunk.frame_with
    · split
      · exact chunk.frame_with
      · exact chunk.frame_with

/-- The first step sets the entries with a payload, a tick the etags; all others keep the frame. -/
theorem Chunk.Taken.frame {env : Environment} {setting : Setting} {chunk next : Chunk} {now : Nat}
    {action : Action} (taken : Taken env setting chunk now action next) :
    (∃ payloads, next = chunk.preprocess env payloads) ∨
      (∃ found ok, action = .tick found ok ∧ next = chunk.tick now found) ∨ Frame chunk next := by
  cases taken with
  | preprocess payloads phase => exact Or.inl ⟨payloads,rfl⟩
  | tick found ok phase own => exact Or.inr (Or.inl ⟨found,ok,rfl,rfl⟩)
  | exceededOpen hookThrew job jobs phase =>
    exact Or.inr (Or.inr (chunk.frame_openExceeded env now job hookThrew jobs))
  | exceededWrite ok job hookThrew tx jobs phase more =>
    exact Or.inr (Or.inr (chunk.frame_exceededWrite env setting now job hookThrew tx jobs ok))
  | exceededCommit ok job hookThrew tx jobs phase written =>
    right
    right
    unfold Chunk.exceededCommit
    split <;> exact chunk.frame_with
  | processEvent index ok cluster phase found state isolated =>
    right
    right
    unfold Chunk.processEvent
    split
    · exact chunk.frame_with
    · split <;> exact chunk.frame_with
  | report index outcome cluster phase found state =>
    exact Or.inr (Or.inr (chunk.frame_report env setting index cluster outcome))
  | settle index shouldRollback rollbackOk cluster statusMap phase found state =>
    exact Or.inr (Or.inr (chunk.frame_settle env now index cluster statusMap shouldRollback rollbackOk))
  | write index ok cluster tx phase found state more =>
    exact Or.inr (Or.inr ((chunk.frame_mark tx.nextIds).trans (Chunk.frame_with _)))
  | commit index ok cluster tx phase found state written =>
    right
    right
    unfold Chunk.commit
    split <;> exact chunk.frame_with
  | persistOpen phase =>
    right
    right
    unfold Chunk.persistOpen
    split <;> exact chunk.frame_with
  | persistWrite ok tx phase more =>
    right
    right
    unfold Chunk.persistWrite
    split <;> exact (chunk.frame_mark tx.nextIds).trans (Chunk.frame_with _)
  | persistCommit ok tx phase written =>
    right
    right
    unfold Chunk.persistCommit
    split <;> exact chunk.frame_with
  | _ => exact Or.inr (Or.inr chunk.frame_with)

theorem Chunk.tick_cases (chunk : Chunk) (now : Nat) (found : List (String × Option Nat)) :
    chunk.tick now found = chunk ∨ chunk.tick now found = {chunk with
      etagMap := (chunk.valid found).foldl (fun etags id => etags.set id now) chunk.etagMap
      outdatedEventMap := chunk.outdatedEventMap ++ chunk.outdated found
      keepAliveViolated := !(chunk.outdated found).isEmpty} := by
  unfold Chunk.tick
  split
  · exact Or.inl rfl
  · exact Or.inr rfl

theorem Chunk.Taken.fixed {env : Environment} {setting : Setting} {chunk next : Chunk} {now : Nat}
    {action : Action} (taken : Taken env setting chunk now action next) :
    next.queueEntries = chunk.queueEntries ∧ next.selectedEventMap = chunk.selectedEventMap ∧
      next.eventsWithExceededTries = chunk.eventsWithExceededTries ∧
        next.exceededTriesExceeded = chunk.exceededTriesExceeded := by
  rcases taken.frame with ⟨payloads,rfl⟩ | ⟨found,ok,_,rfl⟩ | frame
  · exact ⟨rfl,rfl,rfl,rfl⟩
  · rcases chunk.tick_cases now found with same | same
    · rw [same]
      exact ⟨rfl,rfl,rfl,rfl⟩
    · rw [same]
      exact ⟨rfl,rfl,rfl,rfl⟩
  · exact ⟨frame.queueEntries,frame.selectedEventMap,frame.eventsWithExceededTries,frame.exceededTriesExceeded⟩

theorem Chunk.Taken.selection {env : Environment} {setting : Setting} {chunk next : Chunk} {now : Nat}
    {action : Action} (taken : Taken env setting chunk now action next) :
    next.queueEntries = chunk.queueEntries ∧ next.selectedEventMap = chunk.selectedEventMap :=
  ⟨taken.fixed.1,taken.fixed.2.1⟩

def Chunk.timed (chunk : Chunk) (entry : Nat × Action) : Option Chunk := chunk.step env setting entry.1 entry.2

end EventQueue

import EventQueue.ChunkTransactions
import EventQueue.ChunkComplete
import EventQueue.Lib.Parties

/-! What a step of a chunk changes and what it leaves alone: the clusters and their states, the
calls of `processEvent`, the entries with a payload and those still kept alive. -/
namespace EventQueue.Chunk
open Js (Value)

variable {env : Environment} {setting : Setting}

/-- How far a cluster has come. -/
def rank : ClusterState → Nat
  | .waiting => 0
  | .launched => 1
  | .running => 2
  | .reported _ => 3
  | .writing _ => 4
  | .fulfilled | .rejected => 5

/-- How often the entry stands in clusters that have come no further than the limit. -/
def load (limit : Nat) (id : String) (clusters : List Cluster) : Nat :=
  (clusters.map (fun cluster => if rank cluster.state ≤ limit then cluster.queueEntries.count id else 0)).sum

theorem load_set (limit : Nat) (id : String) {clusters : List Cluster} {index : Nat} {cluster : Cluster}
    (state : ClusterState) (found : clusters[index]? = some cluster) :
    load limit id (clusters.set index {cluster with state := state}) +
        (if rank cluster.state ≤ limit then cluster.queueEntries.count id else 0) =
      load limit id clusters + (if rank state ≤ limit then cluster.queueEntries.count id else 0) :=
  Parties.sum_moved (fun cluster : Cluster => if rank cluster.state ≤ limit then cluster.queueEntries.count id else 0)
    {cluster with state := state} found

theorem load_later (limit : Nat) (id : String) {clusters : List Cluster} {index : Nat} {cluster : Cluster}
    {state : ClusterState} (found : clusters[index]? = some cluster) (later : rank cluster.state ≤ rank state) :
    load limit id (clusters.set index {cluster with state := state}) ≤ load limit id clusters := by
  have moved := load_set limit id state found
  by_cases before : rank cluster.state ≤ limit
  · simp only [before,if_true] at moved
    split at moved <;> omega
  · have after : ¬rank state ≤ limit := by omega
    simp only [before,after,if_false] at moved
    omega

/-- What a step does to the clusters and to the calls of `processEvent`. -/
inductive Shift (chunk : Chunk) (action : Action) (next : Chunk) : Prop
  | still (early : Early next.phase → Early chunk.phase) (clusters : next.clusters = chunk.clusters)
      (invoked : next.invoked = chunk.invoked)
  | clustered (clusters : List (String × List String)) (given : action = .cluster (some clusters))
      (early : Early chunk.phase) (phase : next.phase = .processing)
      (set : next.clusters = clusters.map (fun cluster => ⟨cluster.1,cluster.2,.waiting⟩))
      (invoked : next.invoked = chunk.invoked)
  | moved (index : Nat) (cluster : Cluster) (state : ClusterState) (found : chunk.clusters[index]? = some cluster)
      (phase : next.phase = .processing) (set : next.clusters = chunk.clusters.set index {cluster with state := state})
      (later : rank cluster.state ≤ rank state) (invoked : next.invoked = chunk.invoked)
  | started (index : Nat) (cluster : Cluster) (found : chunk.clusters[index]? = some cluster)
      (launched : cluster.state = .launched) (phase : next.phase = .processing)
      (set : next.clusters = chunk.clusters.set index {cluster with state := .running})
      (invoked : next.invoked = chunk.invoked ++ cluster.queueEntries)

theorem shift_openExceeded {chunk next : Chunk} {action : Action} (now : Nat) (job : ExceededJob) (hookThrew : Bool)
    (jobs : List ExceededJob) (early : Early chunk.phase) (clusters : next.clusters = chunk.clusters)
    (invoked : next.invoked = chunk.invoked) :
    Shift chunk action (next.openExceeded env now job hookThrew jobs) := by
  unfold Chunk.openExceeded
  simp only
  split
  · exact .still (fun _ => early) clusters invoked
  · exact .still (fun _ => early) clusters invoked

theorem shift_handleErrorDuringProcessing {chunk next : Chunk} {action : Action} {index : Nat} {cluster : Cluster}
    {error : Value} (found : chunk.clusters[index]? = some cluster) (state : cluster.state = .running)
    (phase : next.phase = .processing) (clusters : next.clusters = chunk.clusters)
    (invoked : next.invoked = chunk.invoked) :
    Shift chunk action (next.handleErrorDuringProcessing env setting index cluster error) := by
  refine .moved index cluster _ found phase (by rw [← clusters]; rfl) ?_ invoked
  rw [state]
  split
  · split <;> simp [rank]
  · simp [rank]

theorem Taken.shift {chunk next : Chunk} {now : Nat} {action : Action}
    (taken : Taken env setting chunk now action next) : Shift chunk action next := by
  cases taken with
  | preprocess payloads phase =>
    refine .still (fun _ => by simp [phase,Early]) rfl rfl
  | exceededOpen hookThrew job jobs phase =>
    exact shift_openExceeded now job hookThrew jobs (by simp [phase,Early]) rfl rfl
  | exceededWrite ok job hookThrew tx jobs phase more =>
    have early : Early chunk.phase := by simp [phase,Early]
    unfold Chunk.exceededWrite
    split
    · exact .still (fun _ => early) rfl rfl
    · exact .still (fun _ => early) rfl rfl
    · split
      · exact .still (fun _ => early) rfl rfl
      · exact shift_openExceeded now _ _ _ early rfl rfl
  | exceededCommit ok job hookThrew tx jobs phase written =>
    have early : Early chunk.phase := by simp [phase,Early]
    unfold Chunk.exceededCommit
    split
    · exact .still (fun _ => early) rfl rfl
    · exact .still (fun _ => early) rfl rfl
  | noPayload phase none => exact .still (fun _ => by simp [phase,Early]) rfl rfl
  | clusterError phase => exact .still (fun _ => by simp [phase,Early]) rfl rfl
  | cluster clusters phase valid => exact .clustered clusters rfl (by simp [phase,Early]) rfl rfl rfl
  | launch index cluster phase found state =>
    exact .moved index cluster .launched found phase rfl (by simp [state,rank]) rfl
  | processEvent index ok cluster phase found state isolated =>
    unfold Chunk.processEvent
    split
    · exact .moved index cluster .rejected found phase rfl (by simp [state,rank]) rfl
    · split
      · refine .moved index cluster _ found phase rfl ?_ rfl
        rw [state]
        split <;> simp [rank]
      · exact .started index cluster found state phase rfl rfl
  | report index outcome cluster phase found state =>
    unfold Chunk.report
    split
    · exact shift_handleErrorDuringProcessing found state phase rfl rfl
    · simp only
      split
      · split
        · exact .moved index cluster _ found phase rfl (by simp [state,rank]) rfl
        · exact shift_handleErrorDuringProcessing found state phase rfl rfl
      · split
        · exact .moved index cluster .fulfilled found phase rfl (by simp [state,rank]) rfl
        · exact shift_handleErrorDuringProcessing found state phase rfl rfl
  | settle index shouldRollback rollbackOk cluster statusMap phase found state =>
    unfold Chunk.settle
    split
    · exact .moved index cluster .rejected found phase rfl (by simp [state,rank]) rfl
    · split
      · exact .moved index cluster .rejected found phase rfl (by simp [state,rank]) rfl
      · split
        · exact .moved index cluster .rejected found phase rfl (by simp [state,rank]) rfl
        · exact .moved index cluster _ found phase rfl (by simp [state,rank]) rfl
  | write index ok cluster tx phase found state more =>
    refine .moved index cluster _ found phase rfl ?_ rfl
    rw [state]
    split <;> simp [rank]
  | commit index ok cluster tx phase found state written =>
    unfold Chunk.commit
    split
    · exact .moved index cluster .fulfilled found phase rfl (by simp [state,rank]) rfl
    · exact .moved index cluster .rejected found phase rfl (by simp [state,rank]) rfl
  | tick found ok phase own =>
    unfold Chunk.tick
    split
    · exact .still id rfl rfl
    · exact .still id rfl rfl
  | endMapFailed phase settled => exact .still (by simp [Early]) rfl rfl
  | endMapRejected phase settled rejected =>
    refine .still ?_ rfl rfl
    simp only [Chunk.handleErrorOfChunk]
    split <;> simp [Early]
  | endMap phase settled fulfilled => exact .still (by simp [Early]) rfl rfl
  | persistOpen phase =>
    unfold Chunk.persistOpen
    split <;> exact .still (by simp [Early]) rfl rfl
  | persistWrite ok tx phase more =>
    unfold Chunk.persistWrite
    split <;> exact .still (by simp [Early]) rfl rfl
  | persistCommit ok tx phase written =>
    unfold Chunk.persistCommit
    split <;> exact .still (by simp [Early]) rfl rfl

/-- Neither a status map nor an open transaction. -/
def Idle : ClusterState → Prop
  | .reported _ | .writing _ => False
  | .waiting | .launched | .running | .fulfilled | .rejected => True

/-- How a cluster of the next state has come to its state. -/
inductive StateOrigin (env : Environment) (setting : Setting) (chunk : Chunk) (now : Nat) (action : Action)
    (cluster : Cluster) : Prop
  | kept (member : cluster ∈ chunk.clusters)
  | idle (state : Idle cluster.state)
  | skipped (isolated : setting.transactionMode = .isolated) (state : cluster.state = .reported Dict.empty)
  | failed (isolated : setting.transactionMode = .isolated) (error : Value)
      (state : cluster.state = .reported (errorStatusMap cluster.queueEntries error))
  | returned (isolated : setting.transactionMode = .isolated) (index : Nat) (statusTuple : Value) (old : Cluster)
      (given : action = .report index (.returned statusTuple)) (found : chunk.clusters[index]? = some old)
      (same : old.queueEntries = cluster.queueEntries)
      (state : cluster.state = .reported (setEventStatus env Dict.empty cluster.queueEntries statusTuple).statusMap)
  | opened (old : Cluster) (statusMap : Dict Value) (tx : StatusTx) (member : old ∈ chunk.clusters)
      (before : old.state = .reported statusMap) (same : cluster = {old with state := .writing tx})
      (opened : (persistChecked chunk.selectedEventMap statusMap).bind (StatusTx.open env now) = some tx)
  | advanced (old : Cluster) (tx next : StatusTx) (member : old ∈ chunk.clusters) (before : old.state = .writing tx)
      (same : cluster = {old with state := .writing next}) (writes : next.writes = tx.writes)

theorem states_handleErrorDuringProcessing {chunk middle : Chunk} {now : Nat} {action : Action} {index : Nat}
    {cluster : Cluster} {error : Value} (clusters : middle.clusters = chunk.clusters) (other : Cluster)
    (member : other ∈ (middle.handleErrorDuringProcessing env setting index cluster error).clusters) :
    StateOrigin env setting chunk now action other := by
  rcases mem_setCluster member with rfl | old
  · split
    · split
      · rename_i isolated
        exact .failed isolated error rfl
      · exact .idle trivial
    · exact .idle trivial
  · exact .kept (clusters ▸ old)

theorem Taken.states {chunk next : Chunk} {now : Nat} {action : Action}
    (taken : Taken env setting chunk now action next) :
    ∀ cluster ∈ next.clusters, StateOrigin env setting chunk now action cluster := by
  have kept : ∀ cluster ∈ chunk.clusters, StateOrigin env setting chunk now action cluster := fun _ => .kept
  have idle : ∀ {index : Nat} {cluster : Cluster} {state : ClusterState}, Idle state →
      ∀ other ∈ (chunk.setCluster index cluster state).clusters, StateOrigin env setting chunk now action other := by
    intro index cluster state quiet
    exact Parties.forall_mem_moved (fun _ old => .kept old) (.idle quiet)
  cases taken with
  | exceededOpen hookThrew job jobs phase =>
    unfold Chunk.openExceeded
    simp only
    split <;> exact kept
  | exceededWrite ok job hookThrew tx jobs phase more =>
    unfold Chunk.exceededWrite
    split
    · exact kept
    · exact kept
    · split
      · exact kept
      · unfold Chunk.openExceeded
        simp only
        split <;> exact kept
  | exceededCommit ok job hookThrew tx jobs phase written =>
    unfold Chunk.exceededCommit
    split <;> exact kept
  | cluster clusters phase valid =>
    intro cluster member
    obtain ⟨given,_,rfl⟩ := List.mem_map.mp member
    exact .idle trivial
  | launch index cluster phase found state => exact idle trivial
  | processEvent index ok cluster phase found state isolated =>
    unfold Chunk.processEvent
    split
    · exact idle trivial
    · split
      · intro other member
        rcases mem_setCluster member with rfl | old
        · split
          · rename_i mode
            exact .skipped mode rfl
          · exact .idle trivial
        · exact .kept old
      · exact idle trivial
  | report index outcome cluster phase found state =>
    unfold Chunk.report
    split
    · exact states_handleErrorDuringProcessing rfl
    · rename_i statusTuple
      simp only
      split
      · rename_i isolated
        split
        · intro other member
          rcases mem_setCluster member with rfl | old
          · exact .returned isolated index statusTuple cluster rfl found rfl rfl
          · exact .kept old
        · exact states_handleErrorDuringProcessing rfl
      · split
        · exact idle trivial
        · exact states_handleErrorDuringProcessing rfl
  | settle index shouldRollback rollbackOk cluster statusMap phase found state =>
    unfold Chunk.settle
    split
    · exact idle trivial
    · split
      · exact idle trivial
      · split
        · exact idle trivial
        · rename_i tx opened
          intro other member
          rcases mem_setCluster member with rfl | old
          · exact .opened cluster statusMap tx (List.mem_of_getElem? found) state rfl opened
          · exact .kept old
  | write index ok cluster tx phase found state more =>
    intro other member
    rcases List.mem_or_eq_of_mem_set member with old | rfl
    · exact .kept old
    · split
      · exact .idle trivial
      · rename_i written moved
        exact .advanced cluster tx written (List.mem_of_getElem? found) state rfl (advance_writes moved)
  | commit index ok cluster tx phase found state written =>
    unfold Chunk.commit
    split
    · exact idle trivial
    · exact idle trivial
  | tick found ok phase calm =>
    unfold Chunk.tick
    split <;> exact kept
  | persistOpen phase =>
    unfold Chunk.persistOpen
    split <;> exact kept
  | persistWrite ok tx phase more =>
    unfold Chunk.persistWrite
    split <;> exact kept
  | persistCommit ok tx phase written =>
    unfold Chunk.persistCommit
    split <;> exact kept
  | _ => exact kept

/-- How a value of `__statusMap` in the next state has come there. -/
inductive ValueOrigin (env : Environment) (chunk : Chunk) (action : Action) (id : String) (value : Value) : Prop
  | kept (found : chunk.statusMap.get? id = some value)
  | own (stands : Stands EventProcessingStatus.Error value ∨ Stands EventProcessingStatus.Done value)
  | returned (index : Nat) (statusTuple : Value) (report : Report)
      (given : action = .report index (.returned statusTuple)) (member : report ∈ (reportsOf env statusTuple).1)
      (same : report.id = id) (value : value = updateDataOf report.statusOrUpdateData report.error)

theorem values_addErrors {chunk middle : Chunk} {action : Action} {ids : List String} {error value : Value} {id : String}
    (found : (addReports env middle.statusMap (errorReports ids error)).statusMap.get? id = some value)
    (before : middle.statusMap.get? id = some value → ValueOrigin env chunk action id value) :
    ValueOrigin env chunk action id value := by
  rcases addReports_get env _ _ _ _ found with old | ⟨report,member,same,given⟩
  · exact before old
  · exact .own (Or.inl (errorReports_value member same given).2)

theorem values_preprocess {chunk : Chunk} {action : Action} {payloads : String → Payload} {id : String} {value : Value}
    (found : (chunk.preprocess env payloads).statusMap.get? id = some value) : ValueOrigin env chunk action id value := by
  rcases addReports_get env _ _ _ _ found with old | ⟨report,member,same,given⟩
  · exact .kept old
  · obtain ⟨entry,_,reported⟩ := List.mem_filterMap.mp member
    unfold preprocessReport at reported
    subst given
    refine .own ?_
    split at reported
    · cases reported
      exact Or.inr (stands_updateDataOf _ _)
    · cases reported
      exact Or.inl (stands_updateDataOf _ _)
    · cases reported
      exact Or.inl (stands_updateDataOf _ _)
    · cases reported

theorem Taken.values {chunk next : Chunk} {now : Nat} {action : Action}
    (taken : Taken env setting chunk now action next) (id : String) (value : Value)
    (found : next.statusMap.get? id = some value) : ValueOrigin env chunk action id value := by
  cases taken with
  | preprocess payloads phase => exact values_preprocess found
  | exceededOpen hookThrew job jobs phase =>
    unfold Chunk.openExceeded at found
    simp only at found
    split at found <;> exact .kept found
  | exceededWrite ok job hookThrew tx jobs phase more =>
    unfold Chunk.exceededWrite at found
    split at found
    · exact .kept found
    · exact .kept found
    · split at found
      · exact .kept found
      · unfold Chunk.openExceeded at found
        simp only at found
        split at found <;> exact .kept found
  | exceededCommit ok job hookThrew tx jobs phase written =>
    unfold Chunk.exceededCommit at found
    split at found <;> exact .kept found
  | clusterError phase => exact values_addErrors found .kept
  | endMapRejected phase settled rejected => exact values_addErrors found .kept
  | processEvent index ok cluster phase there state isolated =>
    unfold Chunk.processEvent at found
    split at found
    · exact .kept found
    · split at found <;> exact .kept found
  | report index outcome cluster phase there state =>
    unfold Chunk.report at found
    split at found
    · exact values_addErrors found .kept
    · rename_i statusTuple
      have reported : (setEventStatus env chunk.statusMap cluster.queueEntries statusTuple).statusMap.get? id = some value →
          ValueOrigin env chunk (.report index (.returned statusTuple)) id value := by
        intro present
        rcases setEventStatus_value env _ _ _ _ _ present with old | own | ⟨report,member,same,given⟩
        · exact .kept old
        · exact .own (Or.inl own.2)
        · exact .returned index statusTuple report rfl member same given
      simp only at found
      split at found
      · split at found
        · exact .kept found
        · exact values_addErrors found .kept
      · split at found
        · exact reported found
        · exact values_addErrors found reported
  | settle index shouldRollback rollbackOk cluster statusMap phase there state =>
    unfold Chunk.settle at found
    split at found
    · exact .kept found
    · split at found
      · exact .kept found
      · split at found <;> exact .kept found
  | commit index ok cluster tx phase there state written =>
    unfold Chunk.commit at found
    split at found <;> exact .kept found
  | tick rows ok phase calm =>
    unfold Chunk.tick at found
    split at found <;> exact .kept found
  | persistOpen phase =>
    unfold Chunk.persistOpen at found
    split at found <;> exact .kept found
  | persistWrite ok tx phase more =>
    unfold Chunk.persistWrite at found
    split at found <;> exact .kept found
  | persistCommit ok tx phase written =>
    unfold Chunk.persistCommit at found
    split at found <;> exact .kept found
  | _ => exact .kept found

theorem Taken.late {chunk next : Chunk} {now : Nat} {action : Action}
    (taken : Taken env setting chunk now action next) (late : ¬Early chunk.phase) : ¬Early next.phase := by
  cases taken.shift with
  | still early clusters invoked => exact fun after => late (early after)
  | clustered clusters given early phase set invoked => exact absurd early late
  | moved index cluster state found phase set later invoked => simp [phase,Early]
  | started index cluster found launched phase set invoked => simp [phase,Early]

theorem Taken.payload {chunk next : Chunk} {now : Nat} {action : Action}
    (taken : Taken env setting chunk now action next) :
    (∃ payloads, next = chunk.preprocess env payloads) ∨
      next.queueEntriesWithPayloadMap = chunk.queueEntriesWithPayloadMap := by
  rcases taken.frame with first | ⟨found,ok,_,rfl⟩ | frame
  · exact Or.inl first
  · right
    rcases chunk.tick_cases now found with same | same
    · rw [same]
    · rw [same]
  · exact Or.inr frame.queueEntriesWithPayloadMap

theorem Taken.notCommited {chunk next : Chunk} {now : Nat} {action : Action}
    (taken : Taken env setting chunk now action next) :
    next.notCommitedStatusMap ⊆ chunk.notCommitedStatusMap := by
  rcases taken.frame with ⟨payloads,rfl⟩ | ⟨found,ok,_,rfl⟩ | frame
  · exact List.Subset.refl _
  · rcases chunk.tick_cases now found with same | same
    · rw [same]
      exact List.Subset.refl _
    · rw [same]
      exact List.Subset.refl _
  · exact frame.notCommitedStatusMap

theorem advance_updates {built : Update → Prop} {now : Nat} {ok : Bool} {tx next : StatusTx}
    (moved : advance env setting now ok tx = some next)
    (new : ∀ (group : Group) status update, group.data.statusNumber = some status →
      group.update env setting.retry now tx.timestamp status = some update → built update)
    (known : ∀ update ∈ tx.updates, built update) : ∀ update ∈ next.updates, built update := by
  unfold advance at moved
  split at moved
  · obtain ⟨timestamp,groups,updates⟩ := tx
    cases groups with
    | nil => cases moved
    | cons group rest =>
      simp only [StatusTx.writeNext] at moved
      split at moved
      · cases moved
        exact known
      · rename_i status numbered
        obtain ⟨update,sent,rfl⟩ := Option.map_eq_some_iff.mp moved
        intro other member
        rcases List.mem_append.mp member with old | single
        · exact known other old
        · rw [List.mem_singleton] at single
          subst single
          exact new group status other numbered sent
  · cases moved

/-- What holds of every update when it is built holds of all updates of the open transactions. -/
theorem Taken.updates {built : Update → Prop} {chunk next : Chunk} {now : Nat} {action : Action}
    (taken : Taken env setting chunk now action next)
    (new : ∀ timestamp (group : Group) status update, group.data.statusNumber = some status →
      group.update env setting.retry now timestamp status = some update → built update)
    (known : ∀ tx ∈ chunk.openTxs, ∀ update ∈ tx.updates, built update) :
    ∀ tx ∈ next.openTxs, ∀ update ∈ tx.updates, built update := by
  intro tx member
  rcases taken.source member with kept | ⟨old,ok,kept,moved⟩ | ⟨statusMap,opened⟩ | ⟨_,opened⟩
  · exact known tx kept
  · exact advance_updates moved (new old.timestamp) (known old kept)
  · obtain ⟨checked,_,opened⟩ := Option.bind_eq_some_iff.mp opened
    simp [open_updates env opened]
  · obtain ⟨filled,_,opened⟩ := Option.bind_eq_some_iff.mp opened
    simp [open_updates env opened]

end EventQueue.Chunk

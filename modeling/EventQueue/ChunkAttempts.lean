import EventQueue.ChunkExceeded

/-! How often one chunk calls `processEvent` for an entry and how often it gives back an attempt:
with one cluster per entry and handlers that report on their own entry, at most once each. -/
namespace EventQueue.Chunk
open Js (Value)

variable {env : Environment} {setting : Setting}

/-- `clusterQueueEntries` of the base class: every entry is a cluster of its own. -/
def clusterQueueEntries (queueEntriesWithPayloadMap : List String) : List (String × List String) :=
  queueEntriesWithPayloadMap.map (fun id => (id,[id]))

def BaseClusters (chunk : Chunk) : Action → Prop
  | .cluster (some clusters) => clusters = clusterQueueEntries chunk.queueEntriesWithPayloadMap
  | _ => True

instance (chunk : Chunk) : (action : Action) → Decidable (BaseClusters chunk action)
  | .cluster (some clusters) =>
    inferInstanceAs (Decidable (clusters = clusterQueueEntries chunk.queueEntriesWithPayloadMap))
  | .cluster none | .preprocess _ | .exceededOpen _ | .exceededWrite _ | .exceededCommit _ | .noPayload | .launch _
  | .processEvent _ _ | .report _ _ | .settle _ _ _ | .write _ _ | .commit _ _ | .tick _ _ | .endMap _ | .persistOpen
  | .persistWrite _ | .persistCommit _ => .isTrue trivial

theorem load_waiting (limit : Nat) (id : String) (withPayload : List String) :
    load limit id ((clusterQueueEntries withPayload).map (fun cluster => ⟨cluster.1,cluster.2,.waiting⟩)) =
      withPayload.count id := by
  induction withPayload with
  | nil => rfl
  | cons first rest ih =>
    simp only [load,clusterQueueEntries,List.map_cons,List.sum_cons,List.map_map] at ih ⊢
    rw [ih]
    simp [rank,List.count_cons]
    omega

/-- Calls of `processEvent` for the entry, made or still to come, are no more than its places in the chunk. -/
structure Invoked (id : String) (chunk : Chunk) : Prop where
  early : Early chunk.phase → chunk.clusters = [] ∧ chunk.invoked = []
  payload : chunk.queueEntriesWithPayloadMap.Sublist chunk.queueEntries
  bound : chunk.invoked.count id + load 1 id chunk.clusters ≤ chunk.queueEntries.count id

theorem Invoked.step {id : String} {chunk next : Chunk} (counted : Invoked id chunk) {now : Nat} {action : Action}
    (base : BaseClusters chunk action) (taken : Taken env setting chunk now action next) : Invoked id next := by
  have entries := taken.selection.1
  have payload : next.queueEntriesWithPayloadMap.Sublist next.queueEntries := by
    rw [entries]
    rcases taken.payload with ⟨payloads,rfl⟩ | same
    · exact List.filter_sublist
    · exact same ▸ counted.payload
  have bound := counted.bound
  cases taken.shift with
  | still early clusters invoked =>
    refine ⟨?_,payload,by rw [clusters,invoked,entries]; exact bound⟩
    intro phase
    rw [clusters,invoked]
    exact counted.early (early phase)
  | clustered clusters given early phase set invoked =>
    refine ⟨by simp [phase,Early],payload,?_⟩
    subst given
    have same : clusters = clusterQueueEntries chunk.queueEntriesWithPayloadMap := base
    rw [set,invoked,entries,same,load_waiting,(counted.early early).2,List.count_nil,Nat.zero_add]
    exact counted.payload.count_le id
  | moved index cluster state found phase set later invoked =>
    refine ⟨by simp [phase,Early],payload,?_⟩
    have less := load_later 1 id found later
    rw [set,invoked,entries]
    omega
  | started index cluster found launched phase set invoked =>
    refine ⟨by simp [phase,Early],payload,?_⟩
    have exchanged := load_set 1 id .running found
    simp only [launched,rank] at exchanged
    rw [set,invoked,entries,List.count_append]
    simp at exchanged
    omega

/-- The open transactions write every entry once, and give back an attempt exactly when they write Open. -/
structure Once (chunk : Chunk) : Prop where
  entries : ∀ tx ∈ chunk.openTxs, (tx.writes.map Prod.fst).Nodup
  takenBack : ∀ tx ∈ chunk.openTxs, ∀ update ∈ tx.updates,
    update.attemptTakenBack = decide (update.status = EventProcessingStatus.Open)

theorem Once.step {chunk next : Chunk} (once : Once chunk) {now : Nat} {action : Action}
    (taken : Taken env setting chunk now action next) : Once next := by
  constructor
  · intro tx member
    rcases taken.source member with kept | ⟨old,ok,kept,moved⟩ | ⟨statusMap,opened⟩ | ⟨_,opened⟩
    · exact once.entries tx kept
    · exact advance_writes moved ▸ once.entries old kept
    · obtain ⟨checked,_,opened⟩ := Option.bind_eq_some_iff.mp opened
      exact open_once env opened
    · obtain ⟨filled,_,opened⟩ := Option.bind_eq_some_iff.mp opened
      exact open_once env opened
  · refine taken.updates ?_ once.takenBack
    intro timestamp group status update _ sent
    exact update_attemptTakenBack env _ _ _ _ group update sent

def openings (id : String) (updates : List Update) : Nat :=
  updates.countP (fun update => decide (update.status = EventProcessingStatus.Open ∧ id ∈ update.ids))

theorem openings_append (id : String) (first second : List Update) :
    openings id (first ++ second) = openings id first + openings id second :=
  List.countP_append

theorem openings_le_count (id : String) (updates : List Update) :
    openings id updates ≤ ((updates.flatMap Update.writes).map Prod.fst).count id := by
  induction updates with
  | nil => exact Nat.le_refl _
  | cons update rest ih =>
    have own : (update.writes.map Prod.fst).count id = update.ids.count id := by
      simp [Update.writes,Function.comp_def]
    simp only [openings,List.countP_cons,List.flatMap_cons,List.map_append,List.count_append,own] at ih ⊢
    split
    · rename_i opens
      have positive := List.count_pos_iff.mpr (of_decide_eq_true opens).2
      omega
    · omega

theorem openings_zero {id : String} {updates : List Update}
    (none : (id,EventProcessingStatus.Open) ∉ updates.flatMap Update.writes) : openings id updates = 0 := by
  refine List.countP_eq_zero.mpr ?_
  intro update member opens
  obtain ⟨status,listed⟩ := of_decide_eq_true opens
  exact none (List.mem_flatMap.mpr ⟨update,member,status ▸ List.mem_map_of_mem listed⟩)

theorem written_out {tx : StatusTx} (written : tx.groups = []) : tx.updates.flatMap Update.writes = tx.writes := by
  simp [StatusTx.writes,written]

/-- A transaction gives back at most one attempt of an entry, and only of one it writes. -/
theorem openings_tx {id : String} {tx : StatusTx} (written : tx.groups = []) (once : (tx.writes.map Prod.fst).Nodup)
    (entries : List String) (own : ∀ name status, (name,status) ∈ tx.writes → name ∈ entries) :
    openings id tx.updates ≤ entries.count id := by
  by_cases present : (id,EventProcessingStatus.Open) ∈ tx.writes
  · have single := openings_le_count id tx.updates
    rw [written_out written] at single
    have place := List.count_pos_iff.mpr (own _ _ present)
    have bound := List.nodup_iff_count_le_one.mp once id
    omega
  · rw [openings_zero (written_out written ▸ present)]
    exact Nat.zero_le _

/-- The map or the transaction of a cluster is about its own entries; isolated mode only has them. -/
def OwnState (setting : Setting) (cluster : Cluster) : Prop :=
  match cluster.state with
  | .reported statusMap => setting.transactionMode = .isolated ∧
      ∀ id value, statusMap.get? id = some value → id ∈ cluster.queueEntries
  | .writing tx => setting.transactionMode = .isolated ∧
      ∀ id status, (id,status) ∈ tx.writes → id ∈ cluster.queueEntries
  | .waiting | .launched | .running | .fulfilled | .rejected => True

theorem Taken.ownStates {chunk next : Chunk} {now : Nat} {action : Action}
    (taken : Taken env setting chunk now action next) (named : Own env chunk action)
    (own : ∀ cluster ∈ chunk.clusters, OwnState setting cluster) :
    ∀ cluster ∈ next.clusters, OwnState setting cluster := by
  intro cluster member
  cases taken.states cluster member with
  | kept old => exact own cluster old
  | idle state =>
    unfold OwnState
    cases current : cluster.state <;> simp_all [Idle]
  | skipped isolated state =>
    simp only [OwnState,state]
    exact ⟨isolated,by simp [Dict.empty,Dict.get?]⟩
  | failed isolated error state =>
    simp only [OwnState,state]
    exact ⟨isolated,fun id value found => (errorStatusMap_get _ _ _ _ found).1⟩
  | returned isolated index statusTuple old given found same state =>
    subst given
    simp only [OwnState,state]
    refine ⟨isolated,?_⟩
    intro id value present
    rcases setEventStatus_get env _ _ _ _ _ present with before | listed | ⟨report,reported,rfl⟩
    · cases before
    · exact listed
    · exact same ▸ named old found report reported
  | opened old statusMap tx inside before same opened =>
    have mine := own old inside
    simp only [OwnState,before] at mine
    subst same
    refine ⟨mine.1,?_⟩
    intro id status planned
    obtain ⟨_,_,value,present,_⟩ := opened_writes opened planned
    exact mine.2 id value present
  | advanced old tx moved inside before same writes =>
    have mine := own old inside
    simp only [OwnState,before] at mine
    subst same
    exact ⟨mine.1,fun id status planned => mine.2 id status (writes ▸ planned)⟩

/-- What a step commits, and which transaction it ends. -/
inductive Commit (chunk : Chunk) (action : Action) (next : Chunk) : Prop
  | quiet (none : chunk.commits action = [])
  | exceeded (job : ExceededJob) (hookThrew : Bool) (tx : StatusTx) (jobs : List ExceededJob)
      (phase : chunk.phase = .exceededTx job hookThrew tx jobs) (written : tx.groups = [])
      (committed : chunk.commits action = tx.updates) (clusters : next.clusters = chunk.clusters)
  | cluster (index : Nat) (cluster : Cluster) (tx : StatusTx) (found : chunk.clusters[index]? = some cluster)
      (state : cluster.state = .writing tx) (written : tx.groups = [])
      (committed : chunk.commits action = tx.updates)
      (clusters : next.clusters = chunk.clusters.set index {cluster with state := .fulfilled})
  | persisted (tx : StatusTx) (phase : chunk.phase = .persistTx tx) (written : tx.groups = [])
      (committed : chunk.commits action = tx.updates) (clusters : next.clusters = chunk.clusters)
      (finished : next.phase = .finished)

theorem Taken.ends {chunk next : Chunk} {now : Nat} {action : Action}
    (taken : Taken env setting chunk now action next) : Commit chunk action next := by
  cases taken with
  | exceededCommit ok job hookThrew tx jobs phase written =>
    cases ok with
    | false => exact .quiet rfl
    | true => exact .exceeded job hookThrew tx jobs phase written (by simp [commits,phase]) rfl
  | commit index ok cluster tx phase found state written =>
    cases ok with
    | false => exact .quiet rfl
    | true => exact .cluster index cluster tx found state written (by simp [commits,found,state]) rfl
  | persistCommit ok tx phase written =>
    cases ok with
    | false => exact .quiet rfl
    | true => exact .persisted tx phase written (by simp [commits,phase]) rfl rfl
  | _ => exact .quiet rfl

theorem Taken.persisting {chunk next : Chunk} {now : Nat} {action : Action}
    (taken : Taken env setting chunk now action next) {tx : StatusTx} (phase : next.phase = .persistTx tx) :
    (∃ old, chunk.phase = .persistTx old ∧ tx.writes = old.writes) ∨
      (persistFilled chunk.selectedEventMap chunk.queueEntries chunk.commitedStatusMap
        chunk.outdatedEventMap chunk.statusMap).bind (StatusTx.open env now) = some tx := by
  cases taken with
  | preprocess payloads before =>
    simp only [Chunk.preprocess] at phase
    split at phase <;> cases phase
  | exceededOpen hookThrew job jobs before =>
    simp only [Chunk.openExceeded] at phase
    split at phase <;> cases phase
  | exceededWrite ok job hookThrew current jobs before more =>
    unfold Chunk.exceededWrite at phase
    split at phase
    · cases phase
    · cases phase
    · split at phase
      · cases phase
      · simp only [Chunk.openExceeded] at phase
        split at phase <;> cases phase
  | exceededCommit ok job hookThrew current jobs before written =>
    unfold Chunk.exceededCommit at phase
    split at phase <;> cases phase
  | clusterError before =>
    simp only [Chunk.handleErrorOfChunk] at phase
    split at phase <;> cases phase
  | launch index cluster before found state => cases before.symm.trans phase
  | processEvent index ok cluster before found state isolated =>
    unfold Chunk.processEvent at phase
    split at phase
    · cases before.symm.trans phase
    · split at phase <;> cases before.symm.trans phase
  | report index outcome cluster before found state =>
    unfold Chunk.report at phase
    split at phase
    · cases before.symm.trans phase
    · simp only at phase
      split at phase <;> split at phase <;> cases before.symm.trans phase
  | settle index shouldRollback rollbackOk cluster statusMap before found state =>
    unfold Chunk.settle at phase
    split at phase
    · cases before.symm.trans phase
    · split at phase
      · cases before.symm.trans phase
      · split at phase <;> cases before.symm.trans phase
  | write index ok cluster current before found state more => cases before.symm.trans phase
  | commit index ok cluster current before found state written =>
    unfold Chunk.commit at phase
    split at phase <;> cases before.symm.trans phase
  | tick found ok before own =>
    unfold Chunk.tick at phase
    split at phase <;> cases before.symm.trans phase
  | endMapRejected before settled rejected =>
    simp only [Chunk.handleErrorOfChunk] at phase
    split at phase <;> cases phase
  | persistOpen before =>
    unfold Chunk.persistOpen at phase
    split at phase
    · cases phase
    · rename_i current opened
      cases phase
      exact Or.inr opened
  | persistWrite ok current before more =>
    unfold Chunk.persistWrite at phase
    split at phase
    · cases phase
    · rename_i result moved
      cases phase
      exact Or.inl ⟨current,before,advance_writes moved⟩
  | persistCommit ok current before written =>
    unfold Chunk.persistCommit at phase
    split at phase <;> cases phase
  | _ => cases phase

/-- An attempt of the entry is given back at most once: in isolated mode by its cluster, in the other
modes by the final transaction. -/
structure Opened (setting : Setting) (id : String) (chunk : Chunk) : Prop where
  entries : chunk.queueEntries.Sublist chunk.selectedEventMap
  clusters : ∀ cluster ∈ chunk.clusters, OwnState setting cluster
  early : Early chunk.phase → chunk.clusters = [] ∧ openings id chunk.committed = 0
  isolated : setting.transactionMode = .isolated →
    openings id chunk.committed + load 4 id chunk.clusters ≤ chunk.queueEntries.count id
  persistTx : setting.transactionMode = .isolated → ∀ tx, chunk.phase = .persistTx tx →
    (id,EventProcessingStatus.Open) ∉ tx.writes
  shared : setting.transactionMode ≠ .isolated → chunk.phase ≠ .finished → openings id chunk.committed = 0
  bound : openings id chunk.committed ≤ chunk.selectedEventMap.count id

structure Accounted (setting : Setting) (id : String) (chunk : Chunk) : Prop where
  base : setting.transactionMode = .isolated → Base chunk
  selected : WritesSelected chunk
  exceeding : Exceeding chunk
  once : Once chunk
  invoked : Invoked id chunk
  opened : Opened setting id chunk

theorem Exceeding.openings_zero {chunk : Chunk} (exceeding : Exceeding chunk) {job : ExceededJob} {hookThrew : Bool}
    {tx : StatusTx} {jobs : List ExceededJob} (phase : chunk.phase = .exceededTx job hookThrew tx jobs)
    (written : tx.groups = []) (id : String) : openings id tx.updates = 0 := by
  refine Chunk.openings_zero ?_
  rw [written_out written]
  intro planned
  have status := ((exceeding.writes _ _ _ _ phase _ _).mp planned).2
  unfold exceededStatus at status
  split at status <;> cases status

theorem Opened.persistTx_step {id : String} {chunk next : Chunk} (opened : Opened setting id chunk) (base : Base chunk)
    {now : Nat} {action : Action} (taken : Taken env setting chunk now action next)
    (isolated : setting.transactionMode = .isolated) {tx : StatusTx} (phase : next.phase = .persistTx tx) :
    (id,EventProcessingStatus.Open) ∉ tx.writes := by
  intro planned
  rcases taken.persisting phase with ⟨old,before,same⟩ | started
  · exact opened.persistTx isolated old before (same ▸ planned)
  · rcases filled_writes base.selected started planned with ⟨value,found,stands⟩ | ⟨status,_⟩
    · rcases (base.statusMap id value found).2 with error | ⟨done,_⟩
      · cases stands_unique stands error
      · cases stands_unique stands done
    · cases status

theorem Taken.notFinished {chunk next : Chunk} {now : Nat} {action : Action}
    (taken : Taken env setting chunk now action next) : chunk.phase ≠ .finished := by
  cases taken <;> simp_all

/-- The entry stays in no more unsettled clusters than it has places, less what has been given back. -/
theorem Accounted.isolated_step {id : String} {chunk next : Chunk} (accounted : Accounted setting id chunk) {now : Nat}
    {action : Action} (base : BaseClusters chunk action) (taken : Taken env setting chunk now action next)
    (isolated : setting.transactionMode = .isolated) :
    openings id next.committed + load 4 id next.clusters ≤ next.queueEntries.count id := by
  have bound := accounted.opened.isolated isolated
  rw [taken.selection.1,taken.committed,openings_append]
  cases taken.ends with
  | quiet none =>
    have quiet : openings id (chunk.commits action) = 0 := by rw [none]; rfl
    cases taken.shift with
    | still early clusters invoked =>
      rw [clusters]
      omega
    | clustered clusters given early phase set invoked =>
      rw [given] at base
      have same : clusters = clusterQueueEntries chunk.queueEntriesWithPayloadMap := base
      have fits := accounted.invoked.payload.count_le id
      have untouched := (accounted.opened.early early).2
      rw [set,same,load_waiting]
      omega
    | moved index cluster state found phase set later invoked =>
      have less := load_later 4 id found later
      rw [set]
      omega
    | started index cluster found launched phase set invoked =>
      have less : load 4 id (chunk.clusters.set index {cluster with state := .running}) ≤ load 4 id chunk.clusters :=
        load_later 4 id found (by simp [launched,rank])
      rw [set]
      omega
  | exceeded job hookThrew tx jobs phase written committed clusters =>
    rw [committed,accounted.exceeding.openings_zero phase written,clusters]
    omega
  | cluster index cluster tx found state written committed clusters =>
    have mine := accounted.opened.clusters cluster (List.mem_of_getElem? found)
    simp only [OwnState,state] at mine
    have own : tx ∈ chunk.openTxs := (mem_openTxs _ _).mpr (Or.inl ⟨cluster,List.mem_of_getElem? found,state⟩)
    have given : openings id tx.updates ≤ cluster.queueEntries.count id :=
      openings_tx written (accounted.once.entries tx own) cluster.queueEntries mine.2
    have freed := load_set 4 id .fulfilled found
    simp only [state,rank] at freed
    simp at freed
    rw [committed,clusters]
    omega
  | persisted tx phase written committed clusters finished =>
    have none := accounted.opened.persistTx isolated tx phase
    have zero : openings id tx.updates = 0 := openings_zero (written_out written ▸ none)
    rw [committed,clusters]
    omega

theorem Accounted.shared_step {id : String} {chunk next : Chunk} (accounted : Accounted setting id chunk) {now : Nat}
    {action : Action} (taken : Taken env setting chunk now action next)
    (shared : setting.transactionMode ≠ .isolated) (unfinished : next.phase ≠ .finished) :
    openings id next.committed = 0 := by
  have before := accounted.opened.shared shared taken.notFinished
  rw [taken.committed,openings_append,before,Nat.zero_add]
  cases taken.ends with
  | quiet none =>
    rw [none]
    rfl
  | exceeded job hookThrew tx jobs phase written committed clusters =>
    rw [committed]
    exact accounted.exceeding.openings_zero phase written id
  | cluster index cluster tx found state written committed clusters =>
    have mine := accounted.opened.clusters cluster (List.mem_of_getElem? found)
    simp only [OwnState,state] at mine
    exact absurd mine.1 shared
  | persisted tx phase written committed clusters finished => exact absurd finished unfinished

theorem Accounted.bound_step {id : String} {chunk next : Chunk} (accounted : Accounted setting id chunk) {now : Nat}
    {action : Action} (base : BaseClusters chunk action) (taken : Taken env setting chunk now action next) :
    openings id next.committed ≤ next.selectedEventMap.count id := by
  by_cases isolated : setting.transactionMode = .isolated
  · have small := accounted.isolated_step base taken isolated
    have places := accounted.opened.entries.count_le id
    rw [taken.selection.1] at small
    rw [taken.selection.2]
    omega
  · by_cases finished : next.phase = .finished
    · rw [taken.selection.2,taken.committed,openings_append,accounted.opened.shared isolated taken.notFinished,
        Nat.zero_add]
      cases taken.ends with
      | quiet none =>
        rw [none]
        exact Nat.zero_le _
      | exceeded job hookThrew tx jobs phase written committed clusters =>
        rw [committed,accounted.exceeding.openings_zero phase written]
        exact Nat.zero_le _
      | cluster index cluster tx found state written committed clusters =>
        have mine := accounted.opened.clusters cluster (List.mem_of_getElem? found)
        simp only [OwnState,state] at mine
        exact absurd mine.1 isolated
      | persisted tx phase written committed clusters _ =>
        have own : tx ∈ chunk.openTxs := (mem_openTxs _ _).mpr (Or.inr (Or.inr phase))
        rw [committed]
        exact openings_tx written (accounted.once.entries tx own) _ (accounted.selected.writes tx own)
    · rw [accounted.shared_step taken isolated finished]
      exact Nat.zero_le _

theorem Accounted.early_step {id : String} {chunk next : Chunk} (accounted : Accounted setting id chunk) {now : Nat}
    {action : Action} (taken : Taken env setting chunk now action next) (early : Early next.phase) :
    next.clusters = [] ∧ openings id next.committed = 0 := by
  cases taken.shift with
  | still before clusters invoked =>
    obtain ⟨empty,untouched⟩ := accounted.opened.early (before early)
    refine ⟨clusters.trans empty,?_⟩
    rw [taken.committed,openings_append,untouched,Nat.zero_add]
    cases taken.ends with
    | quiet none =>
      rw [none]
      rfl
    | exceeded job hookThrew tx jobs phase written committed clusters =>
      rw [committed]
      exact accounted.exceeding.openings_zero phase written id
    | cluster index cluster tx found state written committed clusters => simp [empty] at found
    | persisted tx phase written committed clusters finished => simp [finished,Early] at early
  | clustered clusters given before phase set invoked => simp [phase,Early] at early
  | moved index cluster state found phase set later invoked => simp [phase,Early] at early
  | started index cluster found launched phase set invoked => simp [phase,Early] at early

theorem Accounted.step {id : String} {chunk next : Chunk} (accounted : Accounted setting id chunk) {now : Nat}
    {action : Action} (named : Own env chunk action) (base : BaseClusters chunk action)
    (taken : Taken env setting chunk now action next) : Accounted setting id next where
  base isolated := (accounted.base isolated).step now action isolated taken
  selected := accounted.selected.step taken
  exceeding := accounted.exceeding.step taken
  once := accounted.once.step taken
  invoked := accounted.invoked.step base taken
  opened :=
    { entries := by
        rw [taken.selection.1,taken.selection.2]
        exact accounted.opened.entries
      clusters := taken.ownStates named accounted.opened.clusters
      early := accounted.early_step taken
      isolated := accounted.isolated_step base taken
      persistTx := fun isolated _ phase => accounted.opened.persistTx_step (accounted.base isolated) taken isolated phase
      shared := accounted.shared_step taken
      bound := accounted.bound_step base taken }

theorem accounted_selected (setting : Setting) (id : String) (openEvents exceededTriesExceeded exceededTries : List String)
    (timestamp : Nat) :
    Accounted setting id (Chunk.selected openEvents exceededTriesExceeded exceededTries timestamp) where
  base _ := base_selected _ _ _ _
  selected := writesSelected_selected _ _ _ _
  exceeding := exceeding_selected _ _ _ _
  once := ⟨by simp [openTxs,Chunk.selected],by simp [openTxs,Chunk.selected]⟩
  invoked := ⟨by simp [Chunk.selected],List.nil_sublist _,by simp [Chunk.selected,load]⟩
  opened :=
    { entries := by
        simp only [Chunk.selected,List.append_assoc]
        exact List.sublist_append_left _ _
      clusters := by simp [Chunk.selected]
      early := by simp [Chunk.selected,openings]
      isolated := by simp [Chunk.selected,openings,load]
      persistTx := by simp [Chunk.selected]
      shared := by simp [Chunk.selected,openings]
      bound := by simp [Chunk.selected,openings] }

end EventQueue.Chunk

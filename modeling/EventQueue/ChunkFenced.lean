import EventQueue.ChunkFrame
import EventQueue.ChunkAttempts

/-! A chunk after a keep-alive tick has found one of its rows modified: no cluster is started any
more, and an entry nobody had started or reported on stays without a status of this chunk. -/
namespace EventQueue.Chunk
open Js (Value)

variable {env : Environment} {setting : Setting}

/-- `handleErrorTx` is not entered. -/
def NoErrorTx (chunk : Chunk) : Action → Prop
  | .endMap _ => ∀ cluster ∈ chunk.clusters, isRejected cluster = false
  | _ => True

instance (chunk : Chunk) : (action : Action) → Decidable (NoErrorTx chunk action)
  | .endMap _ => inferInstanceAs (Decidable (∀ cluster ∈ chunk.clusters, isRejected cluster = false))
  | .preprocess _ | .exceededOpen _ | .exceededWrite _ | .exceededCommit _ | .cluster _ | .noPayload | .launch _
  | .processEvent _ _ | .report _ _ | .settle _ _ _ | .write _ _ | .commit _ _ | .tick _ _ | .persistOpen
  | .persistWrite _ | .persistCommit _ => .isTrue trivial

/-- The cluster will not write a status for the entry. -/
def Spared (id : String) (cluster : Cluster) : Prop :=
  match cluster.state with
  | .running => id ∉ cluster.queueEntries
  | .reported statusMap => statusMap.get? id = none
  | .writing tx => ∀ status, (id,status) ∉ tx.writes
  | .waiting | .launched | .fulfilled | .rejected => True

structure Fenced (id : String) (chunk : Chunk) : Prop where
  late : ¬Early chunk.phase
  entries : chunk.queueEntries ⊆ chunk.selectedEventMap
  violated : chunk.keepAliveViolated = true
  outdated : id ∈ chunk.outdatedEventMap
  unreported : chunk.statusMap.get? id = none
  clusters : ∀ cluster ∈ chunk.clusters, Spared id cluster
  persistTx : ∀ tx, chunk.phase = .persistTx tx → ∀ status, (id,status) ∉ tx.writes

theorem Fenced.setCluster {id : String} {chunk : Chunk} (fenced : Fenced id chunk) {index : Nat} {cluster : Cluster}
    {state : ClusterState} (spared : Spared id {cluster with state := state}) :
    Fenced id (chunk.setCluster index cluster state) where
  late := fenced.late
  entries := fenced.entries
  violated := fenced.violated
  outdated := fenced.outdated
  unreported := fenced.unreported
  clusters := Parties.forall_mem_moved fenced.clusters spared
  persistTx := fenced.persistTx

theorem Fenced.withPhase {id : String} {chunk : Chunk} (fenced : Fenced id chunk) (phase : Phase)
    (late : ¬Early phase) (spared : ∀ tx, phase = .persistTx tx → ∀ status, (id,status) ∉ tx.writes) :
    Fenced id {chunk with phase := phase} :=
  {fenced with late := late,persistTx := spared}

theorem Fenced.mark {id : String} {chunk : Chunk} (fenced : Fenced id chunk) (ids : List String) :
    Fenced id (chunk.mark ids) :=
  {fenced with}

theorem Fenced.withCommitted {id : String} {chunk : Chunk} (fenced : Fenced id chunk) (committed : List Update) :
    Fenced id {chunk with committed := committed} :=
  {fenced with}

theorem Fenced.withAdded {id : String} {chunk : Chunk} (fenced : Fenced id chunk) (added : Added)
    (unreported : added.statusMap.get? id = none) : Fenced id (chunk.withAdded added) :=
  {fenced with unreported := unreported}

theorem errorReports_other {queueEntries : List String} {error : Value} {id : String} (absent : id ∉ queueEntries) :
    ∀ report ∈ errorReports queueEntries error, report.id ≠ id := by
  intro report member same
  obtain ⟨entry,listed,rfl⟩ := List.mem_map.mp member
  exact absent (same ▸ listed)

theorem Fenced.handleErrorDuringProcessing {id : String} {chunk : Chunk} (fenced : Fenced id chunk) {index : Nat}
    {cluster : Cluster} {error : Value} (absent : id ∉ cluster.queueEntries) :
    Fenced id (chunk.handleErrorDuringProcessing env setting index cluster error) := by
  have unreported : (addReports env chunk.statusMap (errorReports cluster.queueEntries error)).statusMap.get? id = none :=
    (addReports_other env _ _ _ (errorReports_other absent)).trans fenced.unreported
  refine (fenced.withAdded _ unreported).setCluster ?_
  split
  · split
    · by_contra some
      obtain ⟨value,found⟩ := Option.ne_none_iff_exists'.mp some
      exact absent (errorStatusMap_get _ _ _ _ found).1
    · trivial
  · trivial

theorem setEventStatus_other {statusMap : Dict Value} {queueEntries : List String} {statusTuple : Value} {id : String}
    (absent : id ∉ queueEntries) (unreported : statusMap.get? id = none)
    (own : ∀ report ∈ (reportsOf env statusTuple).1, report.id ∈ queueEntries) :
    (setEventStatus env statusMap queueEntries statusTuple).statusMap.get? id = none := by
  by_contra some
  obtain ⟨value,found⟩ := Option.ne_none_iff_exists'.mp some
  rcases setEventStatus_get env _ _ _ _ _ found with old | listed | ⟨report,member,rfl⟩
  · simp [unreported] at old
  · exact absent listed
  · exact absent (own report member)

theorem Fenced.report {id : String} {chunk : Chunk} (fenced : Fenced id chunk) {index : Nat} {cluster : Cluster}
    {outcome : Outcome} (found : chunk.clusters[index]? = some cluster) (state : cluster.state = .running)
    (named : Own env chunk (.report index outcome)) :
    Fenced id (chunk.report env setting index cluster outcome) := by
  have absent : id ∉ cluster.queueEntries := by
    have spared := fenced.clusters cluster (List.mem_of_getElem? found)
    simpa only [Spared,state] using spared
  cases outcome with
  | thrown error => exact fenced.handleErrorDuringProcessing absent
  | returned statusTuple =>
    have own := named cluster found
    simp only [Chunk.report]
    split
    · split
      · exact fenced.setCluster (setEventStatus_other absent rfl own)
      · exact fenced.handleErrorDuringProcessing absent
    · have unreported := setEventStatus_other absent fenced.unreported own
      split
      · exact (fenced.withAdded _ unreported).setCluster trivial
      · exact (fenced.withAdded _ unreported).handleErrorDuringProcessing absent

theorem Fenced.settle {id : String} {chunk : Chunk} (fenced : Fenced id chunk) {now index : Nat} {cluster : Cluster}
    {statusMap : Dict Value} {shouldRollback rollbackOk : Bool} (found : chunk.clusters[index]? = some cluster)
    (state : cluster.state = .reported statusMap) :
    Fenced id (chunk.settle env now index cluster statusMap shouldRollback rollbackOk) := by
  have spared := fenced.clusters cluster (List.mem_of_getElem? found)
  simp only [Spared,state] at spared
  unfold Chunk.settle
  split
  · exact fenced.setCluster trivial
  · split
    · exact fenced.setCluster trivial
    · split
      · exact fenced.setCluster trivial
      · rename_i tx opened
        refine fenced.setCluster (fun status planned => ?_)
        obtain ⟨_,_,value,present,_⟩ := opened_writes opened planned
        simp [spared] at present

theorem Fenced.write {id : String} {chunk : Chunk} (fenced : Fenced id chunk) {now index : Nat} {cluster : Cluster}
    {tx : StatusTx} {ok : Bool} (found : chunk.clusters[index]? = some cluster) (state : cluster.state = .writing tx) :
    Fenced id (chunk.write env setting now index cluster tx ok) := by
  have spared := fenced.clusters cluster (List.mem_of_getElem? found)
  simp only [Spared,state] at spared
  refine (fenced.mark tx.nextIds).setCluster ?_
  split
  · trivial
  · rename_i next moved
    intro status planned
    exact spared status (advance_writes moved ▸ planned)

theorem Fenced.persistOpen {id : String} {chunk : Chunk} (fenced : Fenced id chunk) (now : Nat) :
    Fenced id (chunk.persistOpen env now) := by
  unfold Chunk.persistOpen
  split
  · exact fenced.withPhase _ (by simp [Early]) (by simp)
  · rename_i tx opened
    refine fenced.withPhase _ (by simp [Early]) ?_
    intro current same status planned
    cases same
    rcases filled_writes fenced.entries opened planned with ⟨value,found,_⟩ | ⟨_,_,_,_,valid⟩
    · simp [fenced.unreported] at found
    · exact valid fenced.outdated

theorem Fenced.step {id : String} {chunk next : Chunk} (fenced : Fenced id chunk) {now : Nat} {action : Action}
    (named : Own env chunk action) (noErrorTx : NoErrorTx chunk action)
    (taken : Taken env setting chunk now action next) : Fenced id next := by
  have late := fenced.late
  cases taken with
  | launch index cluster phase found state => exact fenced.setCluster trivial
  | processEvent index ok cluster phase found state isolated =>
    unfold Chunk.processEvent
    split
    · exact fenced.setCluster trivial
    · rw [if_pos fenced.violated]
      refine fenced.setCluster ?_
      split
      · exact rfl
      · trivial
  | report index outcome cluster phase found state => exact fenced.report found state named
  | settle index shouldRollback rollbackOk cluster statusMap phase found state => exact fenced.settle found state
  | write index ok cluster tx phase found state more => exact fenced.write found state
  | commit index ok cluster tx phase found state written =>
    unfold Chunk.commit
    split
    · have settled : Fenced id (chunk.setCluster index cluster .fulfilled) := fenced.setCluster trivial
      exact settled.withCommitted _
    · exact fenced.setCluster trivial
  | tick found ok phase own =>
    unfold Chunk.tick
    rw [if_pos fenced.violated]
    exact fenced
  | endMapFailed phase settled => exact fenced.withPhase _ (by simp [Early]) (by simp)
  | endMapRejected phase settled rejected =>
    obtain ⟨cluster,member,failed⟩ := rejected
    simp [noErrorTx cluster member] at failed
  | endMap phase settled fulfilled => exact fenced.withPhase _ (by simp [Early]) (by simp)
  | persistOpen phase => exact fenced.persistOpen now
  | persistWrite ok tx phase more =>
    have spared := fenced.persistTx tx phase
    unfold Chunk.persistWrite
    split
    · exact (fenced.mark _).withPhase _ (by simp [Early]) (by simp)
    · rename_i result moved
      refine (fenced.mark _).withPhase _ (by simp [Early]) ?_
      intro current same status planned
      cases same
      exact spared status (advance_writes moved ▸ planned)
  | persistCommit ok tx phase written =>
    unfold Chunk.persistCommit
    split
    · exact (fenced.withPhase .finished (by simp [Early]) (by simp)).withCommitted _
    · exact fenced.withPhase _ (by simp [Early]) (by simp)
  | _ => simp_all [Early]

/-- The first tick that finds a modified row. -/
theorem tick_noticed {chunk : Chunk} (now : Nat) {found : List (String × Option Nat)} {id : String}
    (first : chunk.keepAliveViolated = false) (outdated : id ∈ chunk.outdated found) :
    chunk.tick now found = {chunk with
      etagMap := (chunk.valid found).foldl (fun etags id => etags.set id now) chunk.etagMap
      outdatedEventMap := chunk.outdatedEventMap ++ chunk.outdated found
      keepAliveViolated := true} := by
  have some : (chunk.outdated found).isEmpty = false := by simpa using List.ne_nil_of_mem outdated
  simp [Chunk.tick,first,some]

theorem fenced_tick {chunk : Chunk} (now : Nat) {found : List (String × Option Nat)} {id : String}
    (first : chunk.keepAliveViolated = false) (outdated : id ∈ chunk.outdated found)
    (phase : chunk.phase = .processing) (entries : chunk.queueEntries ⊆ chunk.selectedEventMap)
    (spared : ∀ cluster ∈ chunk.clusters, Spared id cluster) (unreported : chunk.statusMap.get? id = none) :
    Fenced id (chunk.tick now found) := by
  rw [tick_noticed now first outdated]
  exact
    { late := by simp [phase,Early]
      entries := entries
      violated := rfl
      outdated := List.mem_append_right _ outdated
      unreported := unreported
      clusters := spared
      persistTx := by simp [phase] }

theorem spared_waiting {id : String} {cluster : Cluster} (waiting : isWaiting cluster = true) : Spared id cluster := by
  unfold isWaiting at waiting
  split at waiting
  · rename_i state
    simp only [Spared,state]
  · cases waiting

/-- A fenced chunk commits no status for the entry. -/
theorem Fenced.commits {id : String} {chunk next : Chunk} (fenced : Fenced id chunk) {now : Nat} {action : Action}
    (taken : Taken env setting chunk now action next) : id ∉ written (chunk.commits action) := by
  have spared : ∀ tx : StatusTx, (∀ status, (id,status) ∉ tx.writes) → id ∉ written tx.updates := by
    intro tx none listed
    obtain ⟨status,planned⟩ := written_writes tx id listed
    exact none status planned
  cases taken.ends with
  | quiet none => simp [none,written]
  | exceeded job hookThrew tx jobs phase written committed clusters =>
    exact absurd (by simp [phase,Early]) fenced.late
  | cluster index cluster tx found state written committed clusters =>
    have own := fenced.clusters cluster (List.mem_of_getElem? found)
    simp only [Spared,state] at own
    exact committed ▸ spared tx own
  | persisted tx phase written committed clusters finished => exact committed ▸ spared tx (fenced.persistTx tx phase)

/-- After a violation no step calls `processEvent`. -/
theorem violated_step {chunk next : Chunk} {now : Nat} {action : Action} (violated : chunk.keepAliveViolated = true)
    (late : ¬Early chunk.phase) (taken : Taken env setting chunk now action next) :
    next.keepAliveViolated = true ∧ next.invoked = chunk.invoked := by
  cases taken with
  | processEvent index ok cluster phase found state isolated =>
    unfold Chunk.processEvent
    split
    · exact ⟨violated,rfl⟩
    · exact ⟨violated,rfl⟩
  | report index outcome cluster phase found state =>
    unfold Chunk.report
    split
    · exact ⟨violated,rfl⟩
    · simp only
      split <;> split <;> exact ⟨violated,rfl⟩
  | settle index shouldRollback rollbackOk cluster statusMap phase found state =>
    unfold Chunk.settle
    split
    · exact ⟨violated,rfl⟩
    · split
      · exact ⟨violated,rfl⟩
      · split <;> exact ⟨violated,rfl⟩
  | commit index ok cluster tx phase found state written =>
    unfold Chunk.commit
    split <;> exact ⟨violated,rfl⟩
  | tick found ok phase own =>
    unfold Chunk.tick
    rw [if_pos violated]
    exact ⟨violated,rfl⟩
  | persistOpen phase =>
    unfold Chunk.persistOpen
    split <;> exact ⟨violated,rfl⟩
  | persistWrite ok tx phase more =>
    unfold Chunk.persistWrite
    split <;> exact ⟨violated,rfl⟩
  | persistCommit ok tx phase written =>
    unfold Chunk.persistCommit
    split <;> exact ⟨violated,rfl⟩
  | launch index cluster phase found state => exact ⟨violated,rfl⟩
  | write index ok cluster tx phase found state more => exact ⟨violated,rfl⟩
  | endMapFailed phase settled => exact ⟨violated,rfl⟩
  | endMapRejected phase settled rejected => exact ⟨violated,rfl⟩
  | endMap phase settled fulfilled => exact ⟨violated,rfl⟩
  | _ => simp_all [Early]

end EventQueue.Chunk

import EventQueue.ChunkIsolated

/-! No entry of a chunk becomes Done unhandled, as long as the clustering keeps every entry
and a cluster is skipped only when all its entries are outdated. The fill-in of the final
status transaction does not know about skipped clusters. -/
namespace EventQueue.Chunk
open Js (Value)

variable {env : Environment} {setting : Setting}

/-- The clustering leaves no entry with payload out, and a cluster that is skipped after a
keep-alive violation has only outdated entries. -/
def NothingSkipped (chunk : Chunk) : Action → Prop
  | .cluster (some clusters) =>
    ∀ id ∈ chunk.queueEntriesWithPayloadMap, ∃ cluster ∈ clusters, id ∈ cluster.2
  | .processEvent index _ => chunk.keepAliveViolated = true →
    ∀ cluster ∈ chunk.clusters[index]?, ∀ id ∈ cluster.queueEntries, id ∈ chunk.outdatedEventMap
  | _ => True

instance (chunk : Chunk) : (action : Action) → Decidable (NothingSkipped chunk action)
  | .cluster (some clusters) => inferInstanceAs
      (Decidable (∀ id ∈ chunk.queueEntriesWithPayloadMap, ∃ cluster ∈ clusters, id ∈ cluster.2))
  | .processEvent index _ => inferInstanceAs (Decidable (chunk.keepAliveViolated = true →
      ∀ cluster ∈ chunk.clusters[index]?, ∀ id ∈ cluster.queueEntries, id ∈ chunk.outdatedEventMap))
  | .cluster none | .preprocess _ | .exceededOpen _ | .exceededWrite _ | .exceededCommit _ | .noPayload | .launch _
  | .report _ _ | .settle _ _ _ | .write _ _ | .commit _ _ | .tick _ _ | .endMap _ | .persistOpen
  | .persistWrite _ | .persistCommit _ => .isTrue trivial

/-- The payload of the entry was null, or `processEvent` got a cluster with it. -/
def HandledEntry (chunk : Chunk) (id : String) : Prop := id ∈ chunk.obsolete ∨ id ∈ chunk.invoked

def isOpen (cluster : Cluster) : Prop := cluster.state = .waiting ∨ cluster.state = .launched

structure Handled (chunk : Chunk) : Prop where
  clusters : ∀ cluster ∈ chunk.clusters, isOpen cluster ∨ cluster.state = .rejected ∨
    cluster.queueEntries ⊆ chunk.invoked ∨ cluster.queueEntries ⊆ chunk.outdatedEventMap
  running : ∀ cluster ∈ chunk.clusters, cluster.state = .running → cluster.queueEntries ⊆ chunk.invoked
  reported : ∀ cluster ∈ chunk.clusters, ∀ statusMap, cluster.state = .reported statusMap →
    ∀ id value, statusMap.get? id = some value → id ∈ chunk.invoked
  writing : ∀ cluster ∈ chunk.clusters, ∀ tx, cluster.state = .writing tx →
    ∀ id status, (id,status) ∈ tx.writes → id ∈ chunk.invoked
  noted : chunk.phase ≠ .preprocessing → chunk.phase ≠ .aborted → ∀ id ∈ chunk.queueEntries,
    id ∈ chunk.queueEntriesWithPayloadMap ∨ (chunk.statusMap.get? id).isSome
  covered : chunk.phase = .processing → ∀ id ∈ chunk.queueEntriesWithPayloadMap,
    ∃ cluster ∈ chunk.clusters, id ∈ cluster.queueEntries
  persisting : chunk.phase = .persisting → ∀ id ∈ chunk.queueEntries,
    id ∈ chunk.invoked ∨ id ∈ chunk.outdatedEventMap ∨ (chunk.statusMap.get? id).isSome
  persistTx : ∀ tx, chunk.phase = .persistTx tx → ∀ id, (id,EventProcessingStatus.Done) ∈ tx.writes →
    HandledEntry chunk id
  committed : ∀ update ∈ chunk.committed, update.status = EventProcessingStatus.Done →
    ∀ id ∈ update.ids, id ∈ chunk.queueEntries → HandledEntry chunk id

theorem addErrors_isSome (chunk : Chunk) (ids : List String) (error : Value) (id : String)
    (present : (chunk.statusMap.get? id).isSome) :
    ((chunk.withAdded (addReports env chunk.statusMap (errorReports ids error))).statusMap.get? id).isSome :=
  addReports_keeps env _ _ _ present

theorem Handled.setCluster {chunk : Chunk} (handled : Handled chunk) {index : Nat} {cluster : Cluster}
    (state : ClusterState) (found : chunk.clusters[index]? = some cluster) (phase : chunk.phase = .processing)
    (done : state = .waiting ∨ state = .launched ∨ state = .rejected ∨
      cluster.queueEntries ⊆ chunk.invoked ∨ cluster.queueEntries ⊆ chunk.outdatedEventMap)
    (running : state = .running → cluster.queueEntries ⊆ chunk.invoked)
    (reported : ∀ statusMap, state = .reported statusMap →
      ∀ id value, statusMap.get? id = some value → id ∈ chunk.invoked)
    (writing : ∀ tx, state = .writing tx → ∀ id status, (id,status) ∈ tx.writes → id ∈ chunk.invoked) :
    Handled (chunk.setCluster index cluster state) where
  clusters := by
    apply Parties.forall_mem_moved handled.clusters
    unfold isOpen
    tauto
  running := Parties.forall_mem_moved handled.running running
  reported := Parties.forall_mem_moved handled.reported reported
  writing := Parties.forall_mem_moved handled.writing writing
  noted := handled.noted
  covered := by
    intro _ id listed
    obtain ⟨other,member,inside⟩ := handled.covered phase id listed
    by_cases same : other = cluster
    · subst same
      exact ⟨_,mem_setCluster_self chunk state found,inside⟩
    · exact ⟨other,mem_setCluster_other state found member same,inside⟩
  persisting := handled.persisting
  persistTx := handled.persistTx
  committed := handled.committed

theorem Handled.withPhase {chunk : Chunk} (handled : Handled chunk) (phase : Phase)
    (noted : phase ≠ .aborted → chunk.phase ≠ .preprocessing ∧ chunk.phase ≠ .aborted)
    (plain : phase ≠ .processing ∧ phase ≠ .persisting ∧ ∀ tx, phase ≠ .persistTx tx) :
    Handled {chunk with phase := phase} where
  clusters := handled.clusters
  running := handled.running
  reported := handled.reported
  writing := handled.writing
  noted := fun _ alive => handled.noted (noted alive).1 (noted alive).2
  covered := fun same => absurd same plain.1
  persisting := fun same => absurd same plain.2.1
  persistTx := fun tx same => absurd same (plain.2.2 tx)
  committed := handled.committed

theorem Handled.grow {chunk : Chunk} (handled : Handled chunk) (invoked outdated : List String)
    (violated : Bool) (etags : Dict Nat) (more : chunk.invoked ⊆ invoked)
    (older : chunk.outdatedEventMap ⊆ outdated) :
    Handled {chunk with
      invoked := invoked,outdatedEventMap := outdated,keepAliveViolated := violated,etagMap := etags} where
  clusters := by
    intro cluster member
    rcases handled.clusters cluster member with waits | rejected | called | old
    · exact Or.inl waits
    · exact Or.inr (Or.inl rejected)
    · exact Or.inr (Or.inr (Or.inl (fun _ listed => more (called listed))))
    · exact Or.inr (Or.inr (Or.inr (fun _ listed => older (old listed))))
  running := fun cluster member same _ listed => more (handled.running cluster member same listed)
  reported := fun cluster member statusMap same id value found =>
    more (handled.reported cluster member statusMap same id value found)
  writing := fun cluster member tx same id status written =>
    more (handled.writing cluster member tx same id status written)
  noted := handled.noted
  covered := handled.covered
  persisting := by
    intro phase id listed
    rcases handled.persisting phase id listed with called | old | present
    · exact Or.inl (more called)
    · exact Or.inr (Or.inl (older old))
    · exact Or.inr (Or.inr present)
  persistTx := fun tx phase id written => (handled.persistTx tx phase id written).imp_right (fun called => more called)
  committed := fun update member status id listed own =>
    (handled.committed update member status id listed own).imp_right (fun called => more called)

theorem Handled.mark {chunk : Chunk} (handled : Handled chunk) (ids : List String) : Handled (chunk.mark ids) :=
  {handled with}

theorem Handled.addErrors (env : Environment) {chunk : Chunk} (handled : Handled chunk) (ids : List String)
    (error : Value) :
    Handled (chunk.withAdded (addReports env chunk.statusMap (errorReports ids error))) where
  clusters := handled.clusters
  running := handled.running
  reported := handled.reported
  writing := handled.writing
  noted := fun later alive id listed =>
    (handled.noted later alive id listed).imp_right (addErrors_isSome chunk ids error id)
  covered := handled.covered
  persisting := fun phase id listed =>
    (handled.persisting phase id listed).imp_right (Or.imp_right (addErrors_isSome chunk ids error id))
  persistTx := handled.persistTx
  committed := handled.committed

theorem Handled.addCommitted {chunk : Chunk} (handled : Handled chunk) (updates : List Update)
    (known : ∀ update ∈ updates, update.status = EventProcessingStatus.Done → ∀ id ∈ update.ids,
      id ∈ chunk.queueEntries → HandledEntry chunk id) :
    Handled {chunk with committed := chunk.committed ++ updates} :=
  { handled with
    committed := fun update member => (List.mem_append.mp member).elim (handled.committed update) (known update) }

theorem Handled.preprocess {chunk : Chunk} (base : Base chunk) (phase : chunk.phase = .preprocessing)
    (payloads : String → Payload) : Handled (chunk.preprocess env payloads) := by
  obtain ⟨fresh,_,blank⟩ := base.initial phase
  have empty : (chunk.preprocess env payloads).clusters = [] := fresh
  refine ⟨?_,?_,?_,?_,?_,?_,?_,?_,?_⟩
  · simp [empty]
  · simp [empty]
  · simp [empty]
  · simp [empty]
  · intro _ alive id listed
    have ok : (addReports env chunk.statusMap (chunk.queueEntries.filterMap (preprocessReport payloads))).ok = true := by
      simp only [Chunk.preprocess] at alive
      by_contra failed
      simp [failed] at alive
    cases given : preprocessReport payloads id with
    | none => exact Or.inl (List.mem_filter.mpr ⟨listed,by simp [given]⟩)
    | some report =>
      have named : report.id = id := by
        unfold preprocessReport at given
        split at given <;> cases given <;> rfl
      have added := addReports_present env _ _ ok report (List.mem_filterMap.mpr ⟨id,listed,given⟩)
      rw [named] at added
      exact Or.inr added
  · intro same
    simp only [Chunk.preprocess] at same
    split at same <;> cases same
  · intro same
    simp only [Chunk.preprocess] at same
    split at same <;> cases same
  · intro tx same
    simp only [Chunk.preprocess] at same
    split at same <;> cases same
  · simp [Chunk.preprocess,withAdded,blank]

theorem Handled.handleErrorDuringProcessing {chunk : Chunk} (handled : Handled chunk) {index : Nat}
    {cluster : Cluster} (error : Value) (found : chunk.clusters[index]? = some cluster)
    (phase : chunk.phase = .processing) (called : cluster.queueEntries ⊆ chunk.invoked) :
    Handled (chunk.handleErrorDuringProcessing env setting index cluster error) := by
  refine (handled.addErrors env cluster.queueEntries error).setCluster _ found phase ?_ ?_ ?_ ?_
  · exact Or.inr (Or.inr (Or.inr (Or.inl called)))
  · exact fun _ => called
  · intro statusMap same id value inside
    split at same
    · split at same
      · cases same
        exact called (errorStatusMap_get _ _ _ _ inside).1
      · cases same
    · cases same
  · intro tx same
    split at same
    · split at same <;> cases same
    · cases same

theorem Handled.report {chunk : Chunk} (handled : Handled chunk) {index : Nat} {cluster : Cluster}
    (outcome : Outcome) (found : chunk.clusters[index]? = some cluster) (phase : chunk.phase = .processing)
    (state : cluster.state = .running) (isolated : setting.transactionMode = .isolated)
    (own : Own env chunk (.report index outcome)) : Handled (chunk.report env setting index cluster outcome) := by
  have called := handled.running cluster (List.mem_of_getElem? found) state
  cases outcome with
  | thrown error => exact handled.handleErrorDuringProcessing error found phase called
  | returned statusTuple =>
    simp only [Chunk.report,isolated,if_true]
    split
    · refine handled.setCluster _ found phase (Or.inr (Or.inr (Or.inr (Or.inl called)))) (fun _ => called) ?_ (by simp)
      intro statusMap same id value inside
      cases same
      rcases setEventStatus_get env _ _ _ _ _ inside with old | listed | ⟨report,member,rfl⟩
      · cases old
      · exact called listed
      · exact called (own cluster found report member)
    · exact handled.handleErrorDuringProcessing env.typeError found phase called

theorem Handled.settle {chunk : Chunk} (handled : Handled chunk) {index : Nat} {cluster : Cluster}
    {statusMap : Dict Value} (now : Nat) (shouldRollback rollbackOk : Bool)
    (found : chunk.clusters[index]? = some cluster) (phase : chunk.phase = .processing)
    (state : cluster.state = .reported statusMap) :
    Handled (chunk.settle env now index cluster statusMap shouldRollback rollbackOk) := by
  have rejected : Handled (chunk.setCluster index cluster .rejected) :=
    handled.setCluster _ found phase (by simp) (by simp) (by simp) (by simp)
  unfold Chunk.settle
  split
  · exact rejected
  · split
    · exact rejected
    · split
      · exact rejected
      · rename_i tx opened
        have member := List.mem_of_getElem? found
        refine handled.setCluster _ found phase ?_ (by simp) (by simp) ?_
        · rcases handled.clusters cluster member with waits | rejected | done
          · simp [isOpen,state] at waits
          · simp [state] at rejected
          · exact Or.inr (Or.inr (Or.inr done))
        · intro current same id status written
          cases same
          obtain ⟨_,_,value,present,_⟩ := opened_writes opened written
          exact handled.reported cluster member statusMap state id value present

theorem Handled.write {chunk : Chunk} (handled : Handled chunk) {index : Nat} {cluster : Cluster} {tx : StatusTx}
    (now : Nat) (ok : Bool) (found : chunk.clusters[index]? = some cluster) (phase : chunk.phase = .processing)
    (state : cluster.state = .writing tx) : Handled (chunk.write env setting now index cluster tx ok) := by
  have member := List.mem_of_getElem? found
  refine (handled.mark tx.nextIds).setCluster _ found phase ?_ ?_ ?_ ?_
  · rcases handled.clusters cluster member with waits | rejected | done
    · simp [isOpen,state] at waits
    · simp [state] at rejected
    · exact Or.inr (Or.inr (Or.inr done))
  · intro same
    split at same <;> cases same
  · intro statusMap same
    split at same <;> cases same
  · intro current same id status written
    split at same
    · cases same
    · rename_i next moved
      cases same
      rw [advance_writes moved] at written
      exact handled.writing cluster member tx state id status written

theorem Handled.openExceeded {chunk : Chunk} (handled : Handled chunk) (now : Nat) (job : ExceededJob)
    (hookThrew : Bool) (jobs : List ExceededJob) (later : chunk.phase ≠ .preprocessing ∧ chunk.phase ≠ .aborted) :
    Handled (chunk.openExceeded env now job hookThrew jobs) := by
  unfold Chunk.openExceeded
  simp only
  split
  · exact handled.withPhase _ (fun _ => later) (by simp)
  · exact handled.withPhase _ (fun _ => later) (by simp)

theorem Handled.exceededWrite {chunk : Chunk} (handled : Handled chunk) (now : Nat) (job : ExceededJob)
    (hookThrew : Bool) (tx : StatusTx) (jobs : List ExceededJob) (ok : Bool)
    (later : chunk.phase ≠ .preprocessing ∧ chunk.phase ≠ .aborted) :
    Handled (chunk.exceededWrite env setting now job hookThrew tx jobs ok) := by
  have marked := handled.mark tx.nextIds
  unfold Chunk.exceededWrite
  split
  · exact marked.withPhase _ (fun _ => later) (by simp)
  · exact marked.withPhase _ (fun _ => later) (by simp)
  · split
    · exact marked.withPhase _ (fun _ => later) (by simp)
    · exact marked.openExceeded now _ true jobs later

theorem Handled.toPersisting {chunk : Chunk} (handled : Handled chunk)
    (later : chunk.phase ≠ .preprocessing ∧ chunk.phase ≠ .aborted)
    (known : ∀ id ∈ chunk.queueEntries,
      id ∈ chunk.invoked ∨ id ∈ chunk.outdatedEventMap ∨ (chunk.statusMap.get? id).isSome) :
    Handled {chunk with phase := .persisting} :=
  { handled with
    noted := fun _ _ => handled.noted later.1 later.2
    covered := by simp
    persisting := fun _ => known
    persistTx := by simp }

theorem Handled.handleErrorOfChunk {chunk : Chunk} (handled : Handled chunk)
    (later : chunk.phase ≠ .preprocessing ∧ chunk.phase ≠ .aborted) : Handled (chunk.handleErrorOfChunk env) := by
  have added := handled.addErrors env chunk.queueEntries .undefined
  unfold Chunk.handleErrorOfChunk
  by_cases ok : (addReports env chunk.statusMap (errorReports chunk.queueEntries .undefined)).ok = true
  · simp only [ok,if_true]
    refine added.toPersisting later ?_
    intro id listed
    have present := addReports_present env chunk.statusMap _ ok ⟨id,.nat EventProcessingStatus.Error,.undefined⟩
      (List.mem_map_of_mem listed)
    exact Or.inr (Or.inr present)
  · simp only [ok]
    exact added.withPhase _ (fun _ => later) (by simp)

theorem Handled.endMap {chunk : Chunk} (handled : Handled chunk) (phase : chunk.phase = .processing)
    (settled : ∀ cluster ∈ chunk.clusters, Chunk.isSettled cluster)
    (fulfilled : ∀ cluster ∈ chunk.clusters, Chunk.isRejected cluster = false) :
    Handled {chunk with phase := .persisting} := by
  refine handled.toPersisting (by simp [phase]) ?_
  intro id listed
  rcases handled.noted (by simp [phase]) (by simp [phase]) id listed with payload | present
  · obtain ⟨cluster,member,inside⟩ := handled.covered phase id payload
    have done := settled cluster member
    have kept := fulfilled cluster member
    rcases handled.clusters cluster member with waits | rejected | called | old
    · rcases waits with state | state <;> simp [isSettled,state] at done
    · simp [isRejected,rejected] at kept
    · exact Or.inl (called inside)
    · exact Or.inr (Or.inl (old inside))
  · exact Or.inr (Or.inr present)

theorem Handled.persistOpen {chunk : Chunk} (handled : Handled chunk) (base : Base chunk) (now : Nat)
    (phase : chunk.phase = .persisting) : Handled (chunk.persistOpen env now) := by
  have later : chunk.phase ≠ .preprocessing ∧ chunk.phase ≠ .aborted := by simp [phase]
  unfold Chunk.persistOpen
  split
  · exact handled.withPhase _ (fun _ => later) (by simp)
  · rename_i tx opened
    refine
      { handled with
        noted := fun _ _ => handled.noted later.1 later.2
        covered := by simp
        persisting := by simp
        persistTx := ?_ }
    intro current same id written
    cases same
    rcases filled_writes base.selected opened written with ⟨value,found,stands⟩ | ⟨_,absent,listed,_,valid⟩
    · rcases (base.statusMap id value found).2 with failed | ⟨_,obsolete⟩
      · cases stands_unique stands failed
      · exact Or.inl obsolete
    · rcases handled.persisting phase id listed with called | old | present
      · exact Or.inr called
      · exact absurd old valid
      · simp [absent] at present

theorem Handled.persistWrite {chunk : Chunk} (handled : Handled chunk) (now : Nat) (tx : StatusTx) (ok : Bool)
    (phase : chunk.phase = .persistTx tx) : Handled (chunk.persistWrite env setting now tx ok) := by
  have marked := handled.mark tx.nextIds
  have later : chunk.phase ≠ .preprocessing ∧ chunk.phase ≠ .aborted := by simp [phase]
  unfold Chunk.persistWrite
  split
  · exact marked.withPhase _ (fun _ => later) (by simp)
  · rename_i next moved
    refine ⟨marked.clusters,marked.running,marked.reported,marked.writing,
      fun _ _ => marked.noted later.1 later.2,by simp,by simp,?_,marked.committed⟩
    intro current same id written
    cases same
    rw [advance_writes moved] at written
    exact handled.persistTx tx phase id written

theorem Handled.exceededCommit {chunk : Chunk} (handled : Handled chunk) (base : Base chunk) {job : ExceededJob}
    {hookThrew : Bool} {tx : StatusTx} {jobs : List ExceededJob} (ok : Bool)
    (phase : chunk.phase = .exceededTx job hookThrew tx jobs) : Handled (chunk.exceededCommit tx jobs ok) := by
  unfold Chunk.exceededCommit
  split
  · have moved := handled.withPhase (.exceeding jobs) (fun _ => by simp [phase]) (by simp)
    refine moved.addCommitted tx.updates ?_
    intro update member status id listed
    rcases (base.exceeded job hookThrew tx jobs phase id _ (mem_writes_of_update member listed)).2 with other | other
    · simp [status,EventProcessingStatus.Done,EventProcessingStatus.Error] at other
    · simp [status,EventProcessingStatus.Done,EventProcessingStatus.Exceeded] at other
  · exact handled.withPhase _ (fun _ => by simp [phase]) (by simp)

theorem Handled.cluster {chunk : Chunk} (handled : Handled chunk) (phase : chunk.phase = .exceeding [])
    (clusters : List (String × List String))
    (nothing : ∀ id ∈ chunk.queueEntriesWithPayloadMap, ∃ cluster ∈ clusters, id ∈ cluster.2) :
    Handled {chunk with
      clusters := clusters.map (fun cluster => ⟨cluster.1,cluster.2,.waiting⟩),phase := .processing} := by
  have fresh : ∀ cluster ∈ clusters.map (fun cluster => (⟨cluster.1,cluster.2,.waiting⟩ : Cluster)),
      cluster.state = .waiting := by
    intro cluster member
    obtain ⟨given,_,rfl⟩ := List.mem_map.mp member
    rfl
  refine ⟨?_,?_,?_,?_,fun _ _ => handled.noted (by simp [phase]) (by simp [phase]),?_,by simp,by simp,
    handled.committed⟩
  · exact fun cluster member => Or.inl (Or.inl (fresh cluster member))
  · intro cluster member same
    simp [fresh cluster member] at same
  · intro cluster member statusMap same
    simp [fresh cluster member] at same
  · intro cluster member tx same
    simp [fresh cluster member] at same
  · intro _ id payload
    obtain ⟨cluster,member,inside⟩ := nothing id payload
    exact ⟨_,List.mem_map_of_mem member,inside⟩

theorem Handled.processEvent {chunk : Chunk} (handled : Handled chunk) {index : Nat} {cluster : Cluster} (ok : Bool)
    (found : chunk.clusters[index]? = some cluster) (phase : chunk.phase = .processing)
    (isolated : setting.transactionMode = .isolated)
    (nothing : chunk.keepAliveViolated = true → ∀ id ∈ cluster.queueEntries, id ∈ chunk.outdatedEventMap) :
    Handled (chunk.processEvent setting index cluster ok) := by
  unfold Chunk.processEvent
  split
  · exact handled.setCluster _ found phase (by simp) (by simp) (by simp) (by simp)
  · split
    · rename_i violated
      have old := nothing violated
      refine handled.setCluster _ found phase (Or.inr (Or.inr (Or.inr (Or.inr old)))) (by simp) ?_ (by simp)
      intro statusMap same id value inside
      cases same
      cases inside
    · have grown := handled.grow (chunk.invoked ++ cluster.queueEntries) chunk.outdatedEventMap
        chunk.keepAliveViolated chunk.etagMap (by simp) (by simp)
      have called : cluster.queueEntries ⊆ chunk.invoked ++ cluster.queueEntries := by simp
      exact grown.setCluster .running found phase (Or.inr (Or.inr (Or.inr (Or.inl called)))) (fun _ => called)
        (by simp) (by simp)

theorem Handled.commit {chunk : Chunk} (handled : Handled chunk) {index : Nat} {cluster : Cluster} {tx : StatusTx}
    (ok : Bool) (found : chunk.clusters[index]? = some cluster) (phase : chunk.phase = .processing)
    (state : cluster.state = .writing tx) : Handled (chunk.commit index cluster tx ok) := by
  unfold Chunk.commit
  split
  · have member := List.mem_of_getElem? found
    have done : Handled (chunk.setCluster index cluster .fulfilled) := by
      refine handled.setCluster _ found phase ?_ (by simp) (by simp) (by simp)
      rcases handled.clusters cluster member with waits | rejected | done
      · simp [isOpen,state] at waits
      · simp [state] at rejected
      · exact Or.inr (Or.inr (Or.inr done))
    refine done.addCommitted tx.updates ?_
    intro update inside _ id listed _
    exact Or.inr (handled.writing cluster member tx state id _ (mem_writes_of_update inside listed))
  · exact handled.setCluster _ found phase (by simp) (by simp) (by simp) (by simp)

theorem Handled.persistCommit {chunk : Chunk} (handled : Handled chunk) {tx : StatusTx} (ok : Bool)
    (phase : chunk.phase = .persistTx tx) : Handled (chunk.persistCommit tx ok) := by
  unfold Chunk.persistCommit
  split
  · have moved := handled.withPhase .finished (fun _ => by simp [phase]) (by simp)
    refine moved.addCommitted tx.updates ?_
    intro update member status id listed _
    exact handled.persistTx tx phase id (status ▸ mem_writes_of_update member listed)
  · exact handled.withPhase _ (fun _ => by simp [phase]) (by simp)

theorem Handled.step {chunk next : Chunk} (handled : Handled chunk) (base : Base chunk) (now : Nat)
    (action : Action) (isolated : setting.transactionMode = .isolated) (own : Own env chunk action)
    (nothing : NothingSkipped chunk action) (taken : Taken env setting chunk now action next) : Handled next := by
  cases taken with
  | preprocess payloads phase => exact Handled.preprocess base phase payloads
  | exceededOpen hookThrew job jobs phase => exact handled.openExceeded now job hookThrew jobs (by simp [phase])
  | exceededWrite ok job hookThrew tx jobs phase more =>
    exact handled.exceededWrite now job hookThrew tx jobs ok (by simp [phase])
  | exceededCommit ok job hookThrew tx jobs phase written => exact handled.exceededCommit base ok phase
  | noPayload phase none =>
    refine handled.toPersisting (by simp [phase]) ?_
    intro id listed
    rcases handled.noted (by simp [phase]) (by simp [phase]) id listed with payload | present
    · simp [none] at payload
    · exact Or.inr (Or.inr present)
  | clusterError phase => exact handled.handleErrorOfChunk (by simp [phase])
  | cluster clusters phase valid => exact handled.cluster phase clusters nothing
  | launch index cluster phase found state =>
    exact handled.setCluster _ found phase (by simp) (by simp) (by simp) (by simp)
  | processEvent index ok cluster phase found state failed =>
    exact handled.processEvent ok found phase isolated (fun violated => nothing violated cluster found)
  | report index outcome cluster phase found state =>
    exact handled.report outcome found phase state isolated own
  | settle index shouldRollback rollbackOk cluster statusMap phase found state =>
    exact handled.settle now shouldRollback rollbackOk found phase state
  | write index ok cluster tx phase found state more => exact handled.write now ok found phase state
  | commit index ok cluster tx phase found state written => exact handled.commit ok found phase state
  | tick found ok phase own =>
    unfold Chunk.tick
    split
    · exact handled
    · exact handled.grow chunk.invoked _ _ _ (fun _ member => member) (by simp)
  | endMapFailed phase settled => exact handled.withPhase _ (fun alive => absurd rfl alive) (by simp)
  | endMapRejected phase settled rejected => exact handled.handleErrorOfChunk (by simp [phase])
  | endMap phase settled fulfilled => exact handled.endMap phase settled fulfilled
  | persistOpen phase => exact handled.persistOpen base now phase
  | persistWrite ok tx phase more => exact handled.persistWrite now tx ok phase
  | persistCommit ok tx phase written => exact handled.persistCommit ok phase

/-- Whoever is committed as Done was handled. -/
def DoneMeansHandled (openEvents : List String) (chunk : Chunk) : Prop :=
  ∀ update ∈ chunk.committed, update.status = EventProcessingStatus.Done →
    ∀ id ∈ update.ids, id ∈ openEvents → HandledEntry chunk id

instance (openEvents : List String) (chunk : Chunk) : Decidable (DoneMeansHandled openEvents chunk) :=
  inferInstanceAs (Decidable (∀ update ∈ chunk.committed, update.status = EventProcessingStatus.Done →
    ∀ id ∈ update.ids, id ∈ openEvents → id ∈ chunk.obsolete ∨ id ∈ chunk.invoked))

theorem handled_selected (openEvents exceededTriesExceeded exceededTries : List String) (timestamp : Nat) :
    Handled (Chunk.selected openEvents exceededTriesExceeded exceededTries timestamp) :=
  ⟨by simp [Chunk.selected],by simp [Chunk.selected],by simp [Chunk.selected],by simp [Chunk.selected],
    by simp [Chunk.selected],by simp [Chunk.selected],by simp [Chunk.selected],by simp [Chunk.selected],
    by simp [Chunk.selected]⟩

/-- In every run of a chunk in which the clustering keeps all entries and only outdated entries
are skipped, Done is committed for handled entries only. -/
theorem done_only_when_handled (env : Environment) (setting : Setting)
    (openEvents exceededTriesExceeded exceededTries : List String)
    (timestamp : Nat) (actions : List (Nat × Action)) (chunk : Chunk)
    (isolated : setting.transactionMode = .isolated)
    (guarded : Transition.Along (timed env setting)
      (fun chunk entry => Own env chunk entry.2 ∧ NothingSkipped chunk entry.2)
      (Chunk.selected openEvents exceededTriesExceeded exceededTries timestamp) actions)
    (reached : Transition.run (timed env setting)
      (Chunk.selected openEvents exceededTriesExceeded exceededTries timestamp) actions = some chunk) :
    DoneMeansHandled openEvents chunk := by
  have invariant := Transition.invariant (timed env setting) _
    (fun chunk => Base chunk ∧ Handled chunk ∧ chunk.queueEntries = openEvents) (by
      rintro state ⟨now,action⟩ next ⟨base,handled,same⟩ ⟨own,nothing⟩ taken
      have known := step_taken env setting state next now action taken
      exact ⟨base.step now action isolated known,handled.step base now action isolated own nothing known,
        known.selection.1.trans same⟩)
    _ _ _ ⟨base_selected _ _ _ _,handled_selected _ _ _ _,rfl⟩ guarded reached
  obtain ⟨_,handled,same⟩ := invariant
  intro update member status id listed own
  exact handled.committed update member status id listed (same ▸ own)

/-- Two entries in clusters of their own, one at a time; a keep-alive tick during the first one
finds these timestamps. -/
def tickDuringFirst (found : List (String × Option Nat)) (rest : List (Nat × Action)) : List (Nat × Action) :=
  [(100,.preprocess (fun _ => .value)),(100,.cluster (some [("e1",["e1"]),("e2",["e2"])])),(100,.launch 0),
    (100,.processEvent 0 true),(200,.tick found true),
    (201,.report 0 (.returned (.arr [.arr [.str "e1",.nat EventProcessingStatus.Done]]))),
    (201,.settle 0 false true),(201,.write 0 true),(201,.commit 0 true),(202,.launch 1),(202,.processEvent 1 true),
    (203,.settle 1 false true),(203,.commit 1 true),(204,.endMap true),(205,.persistOpen)] ++ rest

def oneAtATime : Setting := ⟨.isolated,1,⟨300000,10000⟩⟩

theorem done_only_when_handled_both_outdated :
    ∃ chunk, Transition.run (timed .plain oneAtATime) (Chunk.selected ["e1","e2"] [] [] 100)
        (tickDuringFirst [("e1",some 150),("e2",some 150)] [(205,.persistCommit true)]) = some chunk ∧
      chunk.committed.map Update.ids = [["e1"]] ∧ DoneMeansHandled ["e1","e2"] chunk := by
  have computed : (Transition.run (timed .plain oneAtATime) (Chunk.selected ["e1","e2"] [] [] 100)
      (tickDuringFirst [("e1",some 150),("e2",some 150)] [(205,.persistCommit true)])).map
        (fun chunk => chunk.committed.map Update.ids) = some [["e1"]] := by decide
  obtain ⟨chunk,reached,ids⟩ := Option.map_eq_some_iff.mp computed
  exact ⟨chunk,reached,ids,done_only_when_handled .plain oneAtATime _ _ _ _ _ chunk rfl (by decide) reached⟩

/-- Only the first row is foreign: the second entry is skipped and becomes Done at the end. -/
theorem skipped_entry_done :
    ∃ actions chunk, Transition.Along (timed .plain oneAtATime) (fun chunk entry => Own .plain chunk entry.2)
        (Chunk.selected ["e1","e2"] [] [] 100) actions ∧
      Transition.run (timed .plain oneAtATime) (Chunk.selected ["e1","e2"] [] [] 100) actions = some chunk ∧
      ¬ DoneMeansHandled ["e1","e2"] chunk := by
  have computed : (Transition.run (timed .plain oneAtATime) (Chunk.selected ["e1","e2"] [] [] 100)
      (tickDuringFirst [("e1",some 150),("e2",some 100)] [(205,.persistWrite true),(205,.persistCommit true)])).map
        (fun chunk => decide (DoneMeansHandled ["e1","e2"] chunk)) = some false := by decide
  obtain ⟨chunk,reached,failed⟩ := Option.map_eq_some_iff.mp computed
  exact ⟨_,chunk,by decide,reached,of_decide_eq_false failed⟩

end EventQueue.Chunk

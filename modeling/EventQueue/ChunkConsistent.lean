import EventQueue.ChunkComplete
import EventQueue.ChunkTransactions

/-! A chunk in isolated mode commits one status per entry, however often it writes it, as long as
its clusters are disjoint and no rejected cluster makes the final transaction overwrite what
other clusters have committed. -/
namespace EventQueue.Chunk
open Js (Value)

variable {env : Environment} {setting : Setting}

def committedWrites (chunk : Chunk) : List (String × Nat) := chunk.committed.flatMap Update.writes

/-- No entry is in two clusters, and `handleErrorTx` runs only when all committed statuses are errors. -/
def ErrorsOnly (chunk : Chunk) : Action → Prop
  | .cluster (some clusters) => clusters.Pairwise (fun one other => ∀ id ∈ one.2, id ∉ other.2)
  | .endMap true => (∃ cluster ∈ chunk.clusters, isRejected cluster = true) →
      ∀ write ∈ chunk.committedWrites, write.1 ∈ chunk.queueEntries → write.2 = EventProcessingStatus.Error
  | _ => True

instance (chunk : Chunk) : (action : Action) → Decidable (ErrorsOnly chunk action)
  | .cluster (some clusters) => inferInstanceAs
      (Decidable (clusters.Pairwise (fun one other => ∀ id ∈ one.2, id ∉ other.2)))
  | .endMap true => inferInstanceAs (Decidable ((∃ cluster ∈ chunk.clusters, isRejected cluster = true) →
      ∀ write ∈ chunk.committedWrites, write.1 ∈ chunk.queueEntries → write.2 = EventProcessingStatus.Error))
  | .endMap false | .cluster none | .preprocess _ | .exceededOpen _ | .exceededWrite _ | .exceededCommit _
  | .noPayload | .launch _ | .processEvent _ _ | .report _ _ | .settle _ _ _ | .write _ _ | .commit _ _ | .tick _ _
  | .persistOpen | .persistWrite _ | .persistCommit _ => .isTrue trivial

/-- Entries of the jobs are not open and have no committed status. -/
structure JobsOpen (queueEntries : List String) (committed : List Update) (jobs : List ExceededJob) : Prop where
  distinct : (jobs.flatMap ExceededJob.ids).Nodup
  apart : ∀ id ∈ jobs.flatMap ExceededJob.ids, id ∉ queueEntries
  uncommitted : ∀ id ∈ jobs.flatMap ExceededJob.ids, id ∉ written committed

def AllErrors (chunk : Chunk) (cluster : Cluster) : Prop :=
  match cluster.state with
  | .reported statusMap => ∀ id value, statusMap.get? id = some value → Stands EventProcessingStatus.Error value
  | .writing tx => ∀ id status, (id,status) ∈ tx.writes → status = EventProcessingStatus.Error
  | .fulfilled => ∀ id ∈ cluster.queueEntries, ∀ status, (id,status) ∈ chunk.committedWrites →
      status = EventProcessingStatus.Error
  | .rejected => True
  | .waiting | .launched | .running => False

def Functional (writes : List (String × Nat)) : Prop :=
  ∀ id first second, (id,first) ∈ writes → (id,second) ∈ writes → first = second

structure Consistent (chunk : Chunk) : Prop where
  functional : ∀ tx ∈ chunk.openTxs, Functional tx.writes
  marked : ∀ id ∈ written chunk.committed, id ∈ chunk.commitedStatusMap
  marking : ∀ tx ∈ chunk.openTxs, ∀ id ∈ written tx.updates, id ∈ chunk.commitedStatusMap
  once : Functional chunk.committedWrites
  initial : chunk.phase = .preprocessing → JobsOpen chunk.queueEntries chunk.committed chunk.exceededJobs
  jobs : ∀ jobs, chunk.phase = .exceeding jobs →
    JobsOpen chunk.queueEntries chunk.committed jobs
  exceededTx : ∀ job hookThrew tx jobs, chunk.phase = .exceededTx job hookThrew tx jobs →
    JobsOpen chunk.queueEntries chunk.committed (job::jobs)
  early : Early chunk.phase → ∀ id ∈ chunk.queueEntries, id ∉ written chunk.committed
  blank : Early chunk.phase → ∀ id ∈ chunk.queueEntriesWithPayloadMap, chunk.statusMap.get? id = none
  disjoint : (chunk.clusters.map Cluster.queueEntries).Pairwise (fun one other => ∀ id ∈ one, id ∉ other)
  reported : ∀ cluster ∈ chunk.clusters, ∀ statusMap, cluster.state = .reported statusMap →
    ∀ id value, statusMap.get? id = some value → id ∈ cluster.queueEntries
  writing : ∀ cluster ∈ chunk.clusters, ∀ tx, cluster.state = .writing tx →
    ∀ id status, (id,status) ∈ tx.writes → id ∈ cluster.queueEntries
  origin : chunk.phase = .processing → ∀ id ∈ written chunk.committed, id ∈ chunk.queueEntries →
    ∃ cluster ∈ chunk.clusters, id ∈ cluster.queueEntries ∧ cluster.state = .fulfilled
  tainted : chunk.phase = .processing → ∀ cluster ∈ chunk.clusters,
    (∀ id ∈ cluster.queueEntries, chunk.statusMap.get? id = none) ∨ AllErrors chunk cluster
  persisting : chunk.phase = .persisting → ∀ id status, (id,status) ∈ chunk.committedWrites →
    ∀ value, chunk.statusMap.get? id = some value → Stands status value
  persistTx : ∀ tx, chunk.phase = .persistTx tx → Functional (chunk.committedWrites ++ tx.writes)

theorem mem_committedWrites {chunk : Chunk} {id : String} {status : Nat}
    (member : (id,status) ∈ chunk.committedWrites) : id ∈ written chunk.committed := by
  obtain ⟨update,inside,listed⟩ := List.mem_flatMap.mp member
  obtain ⟨name,own,same⟩ := List.mem_map.mp listed
  cases same
  exact List.mem_flatMap.mpr ⟨update,inside,own⟩

theorem functional_open {now : Nat} {checked : Dict UpdateData} {tx : StatusTx}
    (allowed : ∀ id data, checked.get? id = some data → data.hasStatus allowedStatuses = true)
    (opened : StatusTx.open env now checked = some tx) : Functional tx.writes := by
  intro id first second one other
  obtain ⟨data,found,number⟩ := (open_writes env now checked tx allowed opened id first).mp one
  obtain ⟨again,same,count⟩ := (open_writes env now checked tx allowed opened id second).mp other
  rw [found] at same
  cases same
  exact Option.some.inj (number.symm.trans count)

theorem Consistent.unique {chunk : Chunk} (consistent : Consistent chunk) {one other : Cluster}
    (first : one ∈ chunk.clusters) (second : other ∈ chunk.clusters) {id : String} (inside : id ∈ one.queueEntries)
    (again : id ∈ other.queueEntries) : one = other := by
  have apart := List.pairwise_iff_getElem.mp consistent.disjoint
  obtain ⟨left,small,rfl⟩ := List.mem_iff_getElem.mp first
  obtain ⟨right,large,rfl⟩ := List.mem_iff_getElem.mp second
  rcases Nat.lt_trichotomy left right with before | rfl | after
  · have none := apart left right (by simpa using small) (by simpa using large) before id
    simp only [List.getElem_map] at none
    exact absurd again (none inside)
  · rfl
  · have none := apart right left (by simpa using large) (by simpa using small) after id
    simp only [List.getElem_map] at none
    exact absurd inside (none again)

theorem groups_setCluster {chunk : Chunk} {index : Nat} {cluster : Cluster} (state : ClusterState)
    (found : chunk.clusters[index]? = some cluster) :
    (chunk.setCluster index cluster state).clusters.map Cluster.queueEntries =
      chunk.clusters.map Cluster.queueEntries := by
  obtain ⟨small,rfl⟩ := List.getElem?_eq_some_iff.mp found
  simp only [Chunk.setCluster,List.map_set]
  apply List.ext_getElem?
  intro position
  by_cases same : position = index
  · subst same
    simp [small]
  · rw [List.getElem?_set_ne (fun equal => same equal.symm)]

theorem Consistent.setCluster {chunk : Chunk} (consistent : Consistent chunk) {index : Nat} {cluster : Cluster}
    (state : ClusterState) (found : chunk.clusters[index]? = some cluster) (phase : chunk.phase = .processing)
    (busy : cluster.state ≠ .fulfilled) (functional : ∀ tx, state = .writing tx → Functional tx.writes)
    (marking : ∀ tx, state = .writing tx → ∀ id ∈ written tx.updates, id ∈ chunk.commitedStatusMap)
    (reported : ∀ statusMap, state = .reported statusMap →
      ∀ id value, statusMap.get? id = some value → id ∈ cluster.queueEntries)
    (writing : ∀ tx, state = .writing tx → ∀ id status, (id,status) ∈ tx.writes → id ∈ cluster.queueEntries)
    (tainted : (∀ id ∈ cluster.queueEntries, chunk.statusMap.get? id = none) ∨
      AllErrors chunk {cluster with state := state}) :
    Consistent (chunk.setCluster index cluster state) where
  functional := by
    intro tx member
    rcases openTxs_setCluster chunk state member phase rfl with old | new
    · exact consistent.functional tx old
    · exact functional tx new
  marked := consistent.marked
  marking := by
    intro tx member
    rcases openTxs_setCluster chunk state member phase rfl with old | new
    · exact consistent.marking tx old
    · exact marking tx new
  once := consistent.once
  initial same := by simp [Chunk.setCluster,phase] at same
  jobs _ same := by simp [Chunk.setCluster,phase] at same
  exceededTx _ _ _ _ same := by simp [Chunk.setCluster,phase] at same
  early same := by simp [Chunk.setCluster,phase,Early] at same
  blank same := by simp [Chunk.setCluster,phase,Early] at same
  disjoint := by
    rw [groups_setCluster state found]
    exact consistent.disjoint
  reported := Parties.forall_mem_moved consistent.reported reported
  writing := Parties.forall_mem_moved consistent.writing writing
  origin := by
    intro _ id done own
    obtain ⟨other,member,inside,fulfilled⟩ := consistent.origin phase id done own
    have differ : other ≠ cluster := fun equal => busy (equal ▸ fulfilled)
    exact ⟨other,mem_setCluster_other state found member differ,inside,fulfilled⟩
  tainted := by
    intro _
    exact Parties.forall_mem_moved (consistent.tainted phase) tainted
  persisting same := by simp [Chunk.setCluster,phase] at same
  persistTx _ same := by simp [Chunk.setCluster,phase] at same

theorem Consistent.addErrors {chunk : Chunk} (consistent : Consistent chunk) (cluster : Cluster) (error : Value)
    (member : cluster ∈ chunk.clusters) (phase : chunk.phase = .processing) (errors : AllErrors chunk cluster) :
    Consistent (chunk.withAdded (addReports env chunk.statusMap (errorReports cluster.queueEntries error))) where
  functional := consistent.functional
  marked := consistent.marked
  marking := consistent.marking
  once := consistent.once
  initial := consistent.initial
  jobs := consistent.jobs
  exceededTx := consistent.exceededTx
  early := consistent.early
  blank same := by simp [Chunk.withAdded,phase,Early] at same
  disjoint := consistent.disjoint
  reported := consistent.reported
  writing := consistent.writing
  origin := consistent.origin
  tainted := by
    intro _ other inside
    by_cases same : other = cluster
    · exact Or.inr (same ▸ errors)
    · refine (consistent.tainted phase other inside).imp_left ?_
      intro blank id listed
      have foreign : ∀ report ∈ errorReports cluster.queueEntries error, report.id ≠ id := by
        intro report given equal
        obtain ⟨entry,own,rfl⟩ := List.mem_map.mp given
        exact same (consistent.unique inside member listed (equal ▸ own))
      exact (addReports_other env _ _ _ foreign).trans (blank id listed)
  persisting same := by simp [Chunk.withAdded,phase] at same
  persistTx _ same := by simp [Chunk.withAdded,phase] at same

theorem Consistent.handleErrorDuringProcessing {chunk : Chunk} (consistent : Consistent chunk) {index : Nat}
    {cluster : Cluster} (error : Value) (found : chunk.clusters[index]? = some cluster)
    (phase : chunk.phase = .processing) (state : cluster.state = .running)
    (isolated : setting.transactionMode = .isolated) :
    Consistent (chunk.handleErrorDuringProcessing env setting index cluster error) := by
  unfold Chunk.handleErrorDuringProcessing
  simp only [isolated,if_true]
  split
  · have errors : AllErrors chunk {cluster with state := .reported (errorStatusMap cluster.queueEntries error)} :=
      fun id value inside => (errorStatusMap_get _ _ _ _ inside).2
    have moved :
        Consistent (chunk.setCluster index cluster (.reported (errorStatusMap cluster.queueEntries error))) := by
      refine consistent.setCluster _ found phase (by simp [state]) (by simp) (by simp) ?_ (by simp) (Or.inr errors)
      intro statusMap same id value inside
      cases same
      exact (errorStatusMap_get _ _ _ _ inside).1
    exact moved.addErrors ⟨cluster.key,cluster.queueEntries,.reported (errorStatusMap cluster.queueEntries error)⟩
      error (mem_setCluster_self chunk _ found) phase errors
  · have moved : Consistent (chunk.setCluster index cluster .rejected) :=
      consistent.setCluster _ found phase (by simp [state]) (by simp) (by simp) (by simp) (by simp) (Or.inr trivial)
    exact moved.addErrors ⟨cluster.key,cluster.queueEntries,.rejected⟩ error
      (mem_setCluster_self chunk .rejected found) phase trivial

theorem Consistent.report {chunk : Chunk} (consistent : Consistent chunk) {index : Nat} {cluster : Cluster}
    (outcome : Outcome) (found : chunk.clusters[index]? = some cluster) (phase : chunk.phase = .processing)
    (state : cluster.state = .running) (isolated : setting.transactionMode = .isolated)
    (own : Own env chunk (.report index outcome)) :
    Consistent (chunk.report env setting index cluster outcome) := by
  cases outcome with
  | thrown error => exact consistent.handleErrorDuringProcessing error found phase state isolated
  | returned statusTuple =>
    simp only [Chunk.report,isolated,if_true]
    split
    · have blank : ∀ id ∈ cluster.queueEntries, chunk.statusMap.get? id = none := by
        rcases consistent.tainted phase cluster (List.mem_of_getElem? found) with blank | errors
        · exact blank
        · simp [AllErrors,state] at errors
      refine consistent.setCluster _ found phase (by simp [state]) (by simp) (by simp) ?_ (by simp) (Or.inl blank)
      intro statusMap same id value inside
      cases same
      rcases setEventStatus_get env _ _ _ _ _ inside with old | listed | ⟨report,member,rfl⟩
      · cases old
      · exact listed
      · exact own cluster found report member
    · exact consistent.handleErrorDuringProcessing env.typeError found phase state isolated

theorem Consistent.settle {chunk : Chunk} (consistent : Consistent chunk) {index : Nat} {cluster : Cluster}
    {statusMap : Dict Value} (now : Nat) (shouldRollback rollbackOk : Bool)
    (found : chunk.clusters[index]? = some cluster) (phase : chunk.phase = .processing)
    (state : cluster.state = .reported statusMap) :
    Consistent (chunk.settle env now index cluster statusMap shouldRollback rollbackOk) := by
  have member := List.mem_of_getElem? found
  have rejected : Consistent (chunk.setCluster index cluster .rejected) :=
    consistent.setCluster _ found phase (by simp [state]) (by simp) (by simp) (by simp) (by simp) (Or.inr trivial)
  unfold Chunk.settle
  split
  · exact rejected
  · split
    · exact rejected
    · split
      · exact rejected
      · rename_i tx opened
        obtain ⟨checked,known,started⟩ := Option.bind_eq_some_iff.mp opened
        refine consistent.setCluster _ found phase (by simp [state]) ?_ ?_ (by simp) ?_ ?_
        · intro current same
          cases same
          exact functional_open (fun id data found => ((persistChecked_get _ _ _ known id data).mp found).2.1) started
        · intro current same
          cases same
          simp [open_updates env started,written]
        · intro current same id status planned
          cases same
          obtain ⟨_,_,value,present,_⟩ := opened_writes opened planned
          exact consistent.reported cluster member statusMap state id value present
        · refine (consistent.tainted phase cluster member).imp_right ?_
          intro errors id status planned
          simp only [AllErrors,state] at errors
          obtain ⟨_,_,value,present,stands⟩ := opened_writes opened planned
          exact stands_unique stands (errors id value present)

theorem Consistent.mark {chunk : Chunk} (consistent : Consistent chunk) (ids : List String) :
    Consistent (chunk.mark ids) where
  functional := consistent.functional
  marked id done := List.mem_append_left _ (consistent.marked id done)
  marking tx member id listed := List.mem_append_left _ (consistent.marking tx member id listed)
  once := consistent.once
  initial := consistent.initial
  jobs := consistent.jobs
  exceededTx := consistent.exceededTx
  early := consistent.early
  blank := consistent.blank
  disjoint := consistent.disjoint
  reported := consistent.reported
  writing := consistent.writing
  origin := consistent.origin
  tainted := consistent.tainted
  persisting := consistent.persisting
  persistTx := consistent.persistTx

theorem Consistent.write {chunk : Chunk} (consistent : Consistent chunk) {index : Nat} {cluster : Cluster}
    {tx : StatusTx} (now : Nat) (ok : Bool) (found : chunk.clusters[index]? = some cluster)
    (phase : chunk.phase = .processing) (state : cluster.state = .writing tx) :
    Consistent (chunk.write env setting now index cluster tx ok) := by
  have member := List.mem_of_getElem? found
  have own : tx ∈ chunk.openTxs := (mem_openTxs _ _).mpr (Or.inl ⟨cluster,member,state⟩)
  have marked := consistent.mark tx.nextIds
  unfold Chunk.write
  split
  · exact marked.setCluster _ found phase (by simp [state]) (by simp) (by simp) (by simp) (by simp) (Or.inr trivial)
  · rename_i next moved
    refine marked.setCluster _ found phase (by simp [state]) ?_ ?_ (by simp) ?_ ?_
    · intro current same
      cases same
      exact advance_writes moved ▸ consistent.functional tx own
    · intro current same id listed
      cases same
      rcases (advance_written_iff moved id).mp listed with old | new
      · exact List.mem_append_left _ (consistent.marking tx own id old)
      · exact List.mem_append_right _ new
    · intro current same id status planned
      cases same
      exact consistent.writing cluster member tx state id status (advance_writes moved ▸ planned)
    · refine (consistent.tainted phase cluster member).imp_right ?_
      intro errors id status planned
      simp only [AllErrors,state] at errors
      exact errors id status (advance_writes moved ▸ planned)

theorem mem_commitWrites {chunk next : Chunk} {updates : List Update}
    (committed : next.committed = chunk.committed ++ updates) {id : String} {status : Nat} :
    (id,status) ∈ next.committedWrites ↔
      (id,status) ∈ chunk.committedWrites ∨ (id,status) ∈ updates.flatMap Update.writes := by
  rw [committedWrites,committed,List.flatMap_append,List.mem_append,committedWrites]

theorem Consistent.unwritten {chunk : Chunk} (consistent : Consistent chunk) (base : Base chunk) {cluster : Cluster}
    {tx : StatusTx} (member : cluster ∈ chunk.clusters) (phase : chunk.phase = .processing)
    (state : cluster.state = .writing tx) {id : String} (inside : id ∈ cluster.queueEntries) :
    id ∉ written chunk.committed := by
  intro done
  have own := base.payload (base.clustered cluster member inside)
  obtain ⟨other,listed,shared,fulfilled⟩ := consistent.origin phase id done own
  have same := consistent.unique listed member shared inside
  subst same
  rw [state] at fulfilled
  cases fulfilled

/-- New commits agree with the old ones where the transaction writes entries without a status. -/
theorem functional_commit {chunk next : Chunk} {tx : StatusTx} (once : Functional chunk.committedWrites)
    (functional : Functional tx.writes) (committed : next.committed = chunk.committed ++ tx.updates)
    (unwritten : ∀ id status, (id,status) ∈ tx.writes → id ∉ written chunk.committed) :
    Functional next.committedWrites := by
  intro id first second one other
  rcases (mem_commitWrites committed).mp one with old | new
  · rcases (mem_commitWrites committed).mp other with again | later
    · exact once id first second old again
    · exact absurd (mem_committedWrites old) (unwritten id second (List.mem_append_left _ later))
  · rcases (mem_commitWrites committed).mp other with again | later
    · exact absurd (mem_committedWrites again) (unwritten id first (List.mem_append_left _ new))
    · exact functional id first second (List.mem_append_left _ new) (List.mem_append_left _ later)

theorem Consistent.commit {chunk : Chunk} (consistent : Consistent chunk) (base : Base chunk) {index : Nat}
    {cluster : Cluster} {tx : StatusTx} (found : chunk.clusters[index]? = some cluster)
    (phase : chunk.phase = .processing) (state : cluster.state = .writing tx) :
    Consistent {chunk.setCluster index cluster .fulfilled with committed := chunk.committed ++ tx.updates} := by
  have member := List.mem_of_getElem? found
  have own : tx ∈ chunk.openTxs := (mem_openTxs _ _).mpr (Or.inl ⟨cluster,member,state⟩)
  have inside := consistent.writing cluster member tx state
  have unwritten : ∀ id ∈ cluster.queueEntries, id ∉ written chunk.committed :=
    fun id listed => consistent.unwritten base member phase state listed
  have kept : ∀ current ∈ (chunk.setCluster index cluster .fulfilled).openTxs, current ∈ chunk.openTxs := by
    intro current listed
    rcases openTxs_setCluster chunk .fulfilled listed phase rfl with old | new
    · exact old
    · cases new
  refine
    { functional := fun current listed => consistent.functional current (kept current listed)
      marked := ?_
      marking := fun current listed => consistent.marking current (kept current listed)
      once := functional_commit consistent.once (consistent.functional tx own) rfl
        (fun id status planned => unwritten id (inside id status planned))
      initial := by simp [Chunk.setCluster,phase]
      jobs := by simp [Chunk.setCluster,phase]
      exceededTx := by simp [Chunk.setCluster,phase]
      early := by simp [Chunk.setCluster,phase,Early]
      blank := by simp [Chunk.setCluster,phase,Early]
      disjoint := ?_
      reported := ?_
      writing := ?_
      origin := ?_
      tainted := ?_
      persisting := by simp [Chunk.setCluster,phase]
      persistTx := by simp [Chunk.setCluster,phase] }
  · intro id done
    rcases (mem_written_append _ _ _).mp done with old | new
    · exact consistent.marked id old
    · exact consistent.marking tx own id new
  · exact (groups_setCluster .fulfilled found).symm ▸ consistent.disjoint
  · apply Parties.forall_mem_moved consistent.reported
    simp
  · apply Parties.forall_mem_moved consistent.writing
    simp
  · intro _ id done listed
    rcases (mem_written_append _ _ _).mp done with old | new
    · obtain ⟨other,present,shared,fulfilled⟩ := consistent.origin phase id old listed
      have differ : other ≠ cluster := by
        rintro rfl
        rw [state] at fulfilled
        cases fulfilled
      exact ⟨other,mem_setCluster_other .fulfilled found present differ,shared,fulfilled⟩
    · obtain ⟨status,planned⟩ := written_writes tx id new
      exact ⟨_,mem_setCluster_self chunk .fulfilled found,inside id status planned,rfl⟩
  · intro _ other listed
    rcases mem_setCluster listed with rfl | old
    · refine (consistent.tainted phase cluster member).imp_right ?_
      intro errors id listed status done
      simp only [AllErrors,state] at errors
      rcases (mem_commitWrites rfl).mp done with earlier | new
      · exact absurd (mem_committedWrites earlier) (unwritten id listed)
      · exact errors id status (List.mem_append_left _ new)
    · refine (consistent.tainted phase other old).imp_right ?_
      unfold AllErrors
      split
      · exact fun errors => errors
      · exact fun errors => errors
      · rename_i fulfilled
        intro errors id listed status done
        rcases (mem_commitWrites rfl).mp done with earlier | new
        · exact errors id listed status earlier
        · have same := consistent.unique old member listed (inside id status (List.mem_append_left _ new))
          rw [same,state] at fulfilled
          cases fulfilled
      · exact fun errors => errors
      · exact fun errors => errors
      · exact fun errors => errors
      · exact fun errors => errors

theorem Consistent.leave {chunk next : Chunk} (consistent : Consistent chunk)
    (clusters : next.clusters = chunk.clusters)
    (committed : next.committed = chunk.committed) (commited : chunk.commitedStatusMap ⊆ next.commitedStatusMap)
    (late : ¬Early next.phase ∧ next.phase ≠ .processing)
    (persisting : next.phase = .persisting → ∀ id status, (id,status) ∈ chunk.committedWrites →
      ∀ value, next.statusMap.get? id = some value → Stands status value)
    (persistTx : ∀ tx, next.phase = .persistTx tx → Functional (chunk.committedWrites ++ tx.writes) ∧
      ∀ id ∈ written tx.updates, id ∈ next.commitedStatusMap) : Consistent next := by
  have writes : next.committedWrites = chunk.committedWrites := by rw [committedWrites,committed,committedWrites]
  have openTx : ∀ tx ∈ next.openTxs, tx ∈ chunk.openTxs ∨ next.phase = .persistTx tx := by
    intro tx member
    rcases (mem_openTxs _ _).mp member with inside | ⟨_,_,_,phase⟩ | phase
    · exact Or.inl ((mem_openTxs _ _).mpr (Or.inl (clusters ▸ inside)))
    · exact absurd (by simp [phase,Early]) late.1
    · exact Or.inr phase
  exact
    { functional := by
        intro tx member
        rcases openTx tx member with old | phase
        · exact consistent.functional tx old
        · exact fun id first second one other => (persistTx tx phase).1 id first second
            (List.mem_append_right _ one) (List.mem_append_right _ other)
      marked := fun id done => commited (consistent.marked id (committed ▸ done))
      marking := by
        intro tx member
        rcases openTx tx member with old | phase
        · exact fun id listed => commited (consistent.marking tx old id listed)
        · exact (persistTx tx phase).2
      once := writes ▸ consistent.once
      initial := fun phase => absurd (by simp [phase,Early]) late.1
      jobs := fun _ phase => absurd (by simp [phase,Early]) late.1
      exceededTx := fun _ _ _ _ phase => absurd (by simp [phase,Early]) late.1
      early := fun early => absurd early late.1
      blank := fun early => absurd early late.1
      disjoint := clusters ▸ consistent.disjoint
      reported := clusters ▸ consistent.reported
      writing := clusters ▸ consistent.writing
      origin := fun phase => absurd phase late.2
      tainted := fun phase => absurd phase late.2
      persisting := writes ▸ persisting
      persistTx := fun tx phase => writes ▸ (persistTx tx phase).1 }

theorem Consistent.abort {chunk : Chunk} (consistent : Consistent chunk) :
    Consistent {chunk with phase := .aborted} :=
  consistent.leave rfl rfl (fun _ marked => marked) (by simp [Early]) (by simp) (by simp)

theorem Consistent.uncommitted {chunk next : Chunk} (consistent : Consistent chunk) (base : Base next)
    (early : Early chunk.phase) (entries : next.queueEntries = chunk.queueEntries) :
    ∀ id status, (id,status) ∈ chunk.committedWrites →
      ∀ value, next.statusMap.get? id = some value → Stands status value := by
  intro id status done value found
  have listed := (base.statusMap id value found).1
  exact absurd (mem_committedWrites done) (consistent.early early id (entries ▸ listed))

theorem Consistent.error {chunk next : Chunk} (consistent : Consistent chunk) (base : Base chunk)
    (after : Base next)
    (phase : chunk.phase = .processing) (obsolete : next.obsolete = chunk.obsolete) {id : String} {value : Value}
    (done : id ∈ written chunk.committed) (listed : id ∈ chunk.queueEntries)
    (found : next.statusMap.get? id = some value) : Stands EventProcessingStatus.Error value := by
  obtain ⟨cluster,member,inside,_⟩ := consistent.origin phase id done listed
  rcases (after.statusMap id value found).2 with error | ⟨_,null⟩
  · exact error
  · exact absurd (base.clustered cluster member inside) (base.obsolete id (obsolete ▸ null))

theorem Consistent.handleErrorOfChunk {chunk : Chunk} (consistent : Consistent chunk)
    (persisting : ∀ id status, (id,status) ∈ chunk.committedWrites → ∀ value,
      (chunk.handleErrorOfChunk env).statusMap.get? id = some value → Stands status value) :
    Consistent (chunk.handleErrorOfChunk env) := by
  refine consistent.leave rfl rfl (fun _ marked => marked) ?_ (fun _ => persisting) ?_
  · simp only [Chunk.handleErrorOfChunk]
    split <;> simp [Early]
  · simp only [Chunk.handleErrorOfChunk]
    split <;> simp

theorem Consistent.exceededStep {chunk : Chunk} (consistent : Consistent chunk) (early : Early chunk.phase)
    {job : ExceededJob} {jobs : List ExceededJob} (hookThrew : Bool) {tx : StatusTx}
    (jobsOpen : JobsOpen chunk.queueEntries chunk.committed (job::jobs)) (functional : Functional tx.writes)
    (marking : ∀ id ∈ written tx.updates, id ∈ chunk.commitedStatusMap) :
    Consistent {chunk with phase := .exceededTx job hookThrew tx jobs} := by
  have openTx : ∀ current ∈ {chunk with phase := .exceededTx job hookThrew tx jobs}.openTxs,
      current ∈ chunk.openTxs ∨ current = tx := by
    intro current member
    rcases (mem_openTxs _ _).mp member with inside | ⟨_,_,_,phase⟩ | phase
    · exact Or.inl ((mem_openTxs _ _).mpr (Or.inl inside))
    · cases phase
      exact Or.inr rfl
    · cases phase
  exact
    { functional := by
        intro current member
        rcases openTx current member with old | rfl
        · exact consistent.functional current old
        · exact functional
      marked := consistent.marked
      marking := by
        intro current member
        rcases openTx current member with old | rfl
        · exact consistent.marking current old
        · exact marking
      once := consistent.once
      initial := by simp
      jobs := by simp
      exceededTx := by
        intro _ _ _ _ phase
        cases phase
        exact jobsOpen
      early := fun _ => consistent.early early
      blank := fun _ => consistent.blank early
      disjoint := consistent.disjoint
      reported := consistent.reported
      writing := consistent.writing
      origin := by simp
      tainted := by simp
      persisting := by simp
      persistTx := by simp }

theorem Consistent.openExceeded {chunk : Chunk} (consistent : Consistent chunk) (now : Nat) {job : ExceededJob}
    (hookThrew : Bool) {jobs : List ExceededJob} (early : Early chunk.phase)
    (jobsOpen : JobsOpen chunk.queueEntries chunk.committed (job::jobs)) :
    Consistent (chunk.openExceeded env now job hookThrew jobs) := by
  unfold Chunk.openExceeded
  simp only
  split
  · exact consistent.abort
  · rename_i tx opened
    obtain ⟨checked,known,started⟩ := Option.bind_eq_some_iff.mp opened
    refine consistent.exceededStep early hookThrew jobsOpen ?_ ?_
    · exact functional_open (fun id data found => ((persistChecked_get _ _ _ known id data).mp found).2.1) started
    · simp [open_updates env started,written]

theorem Consistent.exceededWrite {chunk : Chunk} (consistent : Consistent chunk) (now : Nat) (ok : Bool)
    {job : ExceededJob} {hookThrew : Bool} {tx : StatusTx} {jobs : List ExceededJob}
    (phase : chunk.phase = .exceededTx job hookThrew tx jobs) :
    Consistent (chunk.exceededWrite env setting now job hookThrew tx jobs ok) := by
  have own : tx ∈ chunk.openTxs := (mem_openTxs _ _).mpr (Or.inr (Or.inl ⟨_,_,_,phase⟩))
  have marked := consistent.mark tx.nextIds
  have early : Early (chunk.mark tx.nextIds).phase := by simp [Chunk.mark,phase,Early]
  have jobsOpen := consistent.exceededTx job hookThrew tx jobs phase
  unfold Chunk.exceededWrite
  split
  · rename_i next moved
    refine marked.exceededStep early hookThrew jobsOpen ?_ ?_
    · exact advance_writes moved ▸ consistent.functional tx own
    · intro id listed
      rcases (advance_written_iff moved id).mp listed with old | new
      · exact List.mem_append_left _ (consistent.marking tx own id old)
      · exact List.mem_append_right _ new
  · exact marked.abort
  · split
    · exact marked.abort
    · exact marked.openExceeded now true early jobsOpen

theorem Consistent.exceededCommit {chunk : Chunk} (consistent : Consistent chunk) (base : Base chunk) (ok : Bool)
    {job : ExceededJob} {hookThrew : Bool} {tx : StatusTx} {jobs : List ExceededJob}
    (phase : chunk.phase = .exceededTx job hookThrew tx jobs) : Consistent (chunk.exceededCommit tx jobs ok) := by
  cases ok with
  | false => exact consistent.abort
  | true =>
    have own : tx ∈ chunk.openTxs := (mem_openTxs _ _).mpr (Or.inr (Or.inl ⟨_,_,_,phase⟩))
    have early : Early chunk.phase := by simp [phase,Early]
    have jobsOpen := consistent.exceededTx job hookThrew tx jobs phase
    have inside : ∀ id status, (id,status) ∈ tx.writes → id ∈ job.ids :=
      fun id status planned => (base.exceeded job hookThrew tx jobs phase id status planned).1
    have updated : ∀ id ∈ written tx.updates, id ∈ job.ids := by
      intro id listed
      obtain ⟨status,planned⟩ := written_writes tx id listed
      exact inside id status planned
    have kept : ∀ current ∈ (chunk.exceededCommit tx jobs true).openTxs, current ∈ chunk.openTxs :=
      fun current member => openTxs_plain chunk member rfl trivial
    exact
      { functional := fun current member => consistent.functional current (kept current member)
        marked := by
          intro id done
          rcases (mem_written_append _ _ _).mp done with old | new
          · exact consistent.marked id old
          · exact consistent.marking tx own id new
        marking := fun current member => consistent.marking current (kept current member)
        once := functional_commit consistent.once (consistent.functional tx own) rfl
          (fun id status planned => jobsOpen.uncommitted id
            (List.mem_flatMap.mpr ⟨job,by simp,inside id status planned⟩))
        initial := by simp [Chunk.exceededCommit]
        jobs := by
          intro rest same
          cases same
          have distinct := jobsOpen.distinct
          rw [List.flatMap_cons,List.nodup_append] at distinct
          refine ⟨distinct.2.1,?_,?_⟩
          · exact fun id listed => jobsOpen.apart id (by simp [List.flatMap_cons,listed])
          · intro id listed done
            rcases (mem_written_append _ _ _).mp done with old | new
            · exact jobsOpen.uncommitted id (by simp [List.flatMap_cons,listed]) old
            · exact distinct.2.2 id (updated id new) id listed rfl
        exceededTx := by simp [Chunk.exceededCommit]
        early := by
          intro _ id listed done
          rcases (mem_written_append _ _ _).mp done with old | new
          · exact consistent.early early id listed old
          · exact jobsOpen.apart id (by simp [List.flatMap_cons,updated id new]) listed
        blank := fun _ => consistent.blank early
        disjoint := consistent.disjoint
        reported := consistent.reported
        writing := consistent.writing
        origin := by simp [Chunk.exceededCommit]
        tainted := by simp [Chunk.exceededCommit]
        persisting := by simp [Chunk.exceededCommit]
        persistTx := by simp [Chunk.exceededCommit] }

theorem Consistent.preprocess {chunk : Chunk} (consistent : Consistent chunk) (base : Base chunk)
    (payloads : String → Payload) (phase : chunk.phase = .preprocessing) :
    Consistent (chunk.preprocess env payloads) := by
  obtain ⟨clusters,statusMap,committed⟩ := base.initial phase
  have moved : (chunk.preprocess env payloads).phase = .exceeding chunk.exceededJobs ∨
      (chunk.preprocess env payloads).phase = .aborted := by
    simp only [Chunk.preprocess]
    split
    · exact Or.inl rfl
    · exact Or.inr rfl
  have kept : ∀ current ∈ (chunk.preprocess env payloads).openTxs, current ∈ chunk.openTxs := by
    intro current member
    refine openTxs_plain chunk member rfl ?_
    rcases moved with same | same <;> simp [same,PlainPhase]
  have nothing : (chunk.preprocess env payloads).clusters = [] := clusters
  have away : (chunk.preprocess env payloads).phase ≠ .processing := by
    rcases moved with same | same <;> simp [same]
  exact
    { functional := fun current member => consistent.functional current (kept current member)
      marked := consistent.marked
      marking := fun current member => consistent.marking current (kept current member)
      once := consistent.once
      initial := by rcases moved with same | same <;> simp [same]
      jobs := by
        intro jobs same
        rcases moved with exceeding | aborted
        · cases exceeding.symm.trans same
          exact consistent.initial phase
        · cases aborted.symm.trans same
      exceededTx := by rcases moved with same | same <;> simp [same]
      early := fun _ => consistent.early (by simp [phase,Early])
      blank := by
        intro _ id member
        have none : preprocessReport payloads id = none := by simpa using (List.mem_filter.mp member).2
        refine (addReports_other env _ _ _ ?_).trans (by rw [statusMap]; rfl)
        intro report given same
        obtain ⟨entry,_,known⟩ := List.mem_filterMap.mp given
        have own : report.id = entry := by
          unfold preprocessReport at known
          split at known <;> cases known <;> rfl
        rw [← same,own,known] at none
        cases none
      disjoint := by simp [nothing]
      reported := by simp [nothing]
      writing := by simp [nothing]
      origin := fun same => absurd same away
      tainted := fun same => absurd same away
      persisting := by rcases moved with same | same <;> simp [same]
      persistTx := by rcases moved with same | same <;> simp [same] }

theorem Consistent.cluster {chunk : Chunk} (consistent : Consistent chunk) {clusters : List (String × List String)}
    (phase : chunk.phase = .exceeding []) (valid : validClusters chunk.queueEntriesWithPayloadMap clusters = true)
    (disjoint : clusters.Pairwise (fun one other => ∀ id ∈ one.2, id ∉ other.2)) :
    Consistent {chunk with
      clusters := clusters.map (fun cluster => ⟨cluster.1,cluster.2,.waiting⟩),phase := .processing} := by
  have early : Early chunk.phase := by simp [phase,Early]
  have waiting : ∀ cluster ∈ clusters.map (fun cluster => Cluster.mk cluster.1 cluster.2 .waiting),
      cluster.state = .waiting ∧ cluster.queueEntries ⊆ chunk.queueEntriesWithPayloadMap := by
    intro cluster member
    obtain ⟨given,listed,rfl⟩ := List.mem_map.mp member
    exact ⟨rfl,validClusters_subset valid given listed⟩
  have nothing : ∀ tx, tx ∉ Chunk.openTxs {chunk with
      clusters := clusters.map (fun cluster => ⟨cluster.1,cluster.2,.waiting⟩),phase := .processing} := by
    intro tx member
    rcases (mem_openTxs _ _).mp member with ⟨cluster,inside,same⟩ | ⟨_,_,_,same⟩ | same
    · cases (waiting cluster inside).1.symm.trans same
    · cases same
    · cases same
  exact
    { functional := fun tx member => absurd member (nothing tx)
      marked := consistent.marked
      marking := fun tx member => absurd member (nothing tx)
      once := consistent.once
      initial := by simp
      jobs := by simp
      exceededTx := by simp
      early := by simp [Early]
      blank := by simp [Early]
      disjoint := by
        simp only [List.map_map]
        exact List.pairwise_map.mpr disjoint
      reported := by
        intro cluster member statusMap same
        cases (waiting cluster member).1.symm.trans same
      writing := by
        intro cluster member tx same
        cases (waiting cluster member).1.symm.trans same
      origin := fun _ id done listed => absurd done (consistent.early early id listed)
      tainted := fun _ cluster member =>
        Or.inl (fun id inside => consistent.blank early id ((waiting cluster member).2 inside))
      persisting := by simp
      persistTx := by simp }

theorem Consistent.tick {chunk : Chunk} (consistent : Consistent chunk) (now : Nat)
    (found : List (String × Option Nat)) : Consistent (chunk.tick now found) := by
  unfold Chunk.tick
  split
  · exact consistent
  · exact
      {consistent with}

theorem Consistent.processEvent {chunk : Chunk} (consistent : Consistent chunk) {index : Nat} {cluster : Cluster}
    (ok : Bool) (found : chunk.clusters[index]? = some cluster) (phase : chunk.phase = .processing)
    (state : cluster.state = .launched) (isolated : setting.transactionMode = .isolated) :
    Consistent (chunk.processEvent setting index cluster ok) := by
  have blank : ∀ id ∈ cluster.queueEntries, chunk.statusMap.get? id = none := by
    rcases consistent.tainted phase cluster (List.mem_of_getElem? found) with blank | errors
    · exact blank
    · simp [AllErrors,state] at errors
  have moved : ∀ next : ClusterState, (∀ tx, next ≠ .writing tx) →
      (∀ statusMap, next = .reported statusMap → statusMap = Dict.empty) →
      Consistent (chunk.setCluster index cluster next) := by
    intro next unwritten empty
    refine consistent.setCluster next found phase (by simp [state]) (fun tx same => absurd same (unwritten tx))
      (fun tx same => absurd same (unwritten tx)) ?_ (fun tx same => absurd same (unwritten tx)) (Or.inl blank)
    intro statusMap same id value inside
    rw [empty statusMap same] at inside
    cases inside
  unfold Chunk.processEvent
  split
  · exact moved .rejected (by simp) (by simp)
  · split
    · exact moved (.reported Dict.empty) (by simp) (by simp)
    · have running := moved .running (by simp) (by simp)
      exact
        ⟨running.functional,running.marked,running.marking,running.once,running.initial,running.jobs,
          running.exceededTx,running.early,running.blank,running.disjoint,running.reported,running.writing,
          running.origin,running.tainted,running.persisting,running.persistTx⟩

theorem Consistent.persistOpen {chunk : Chunk} (consistent : Consistent chunk) (base : Base chunk) (now : Nat)
    (phase : chunk.phase = .persisting) : Consistent (chunk.persistOpen env now) := by
  unfold Chunk.persistOpen
  split
  · exact consistent.abort
  · rename_i tx opened
    obtain ⟨filled,known,started⟩ := Option.bind_eq_some_iff.mp opened
    have functional : Functional tx.writes := functional_open (filled_allowed base.selected known) started
    have agree : ∀ id first second, (id,first) ∈ chunk.committedWrites → (id,second) ∈ tx.writes → first = second := by
      intro id first second done planned
      rcases filled_writes base.selected opened planned with ⟨value,found,stands⟩ | ⟨_,_,_,fresh,_⟩
      · exact stands_unique (consistent.persisting phase id first done value found) stands
      · exact absurd (consistent.marked id (mem_committedWrites done)) fresh
    refine consistent.leave rfl rfl (fun _ marked => marked) (by simp [Early]) (by simp) ?_
    intro current same
    cases same
    refine ⟨?_,by simp [open_updates env started,written]⟩
    intro id first second one other
    rcases List.mem_append.mp one with old | new
    · rcases List.mem_append.mp other with again | later
      · exact consistent.once id first second old again
      · exact agree id first second old later
    · rcases List.mem_append.mp other with again | later
      · exact (agree id second first again new).symm
      · exact functional id first second new later

theorem Consistent.persistWrite {chunk : Chunk} (consistent : Consistent chunk) (now : Nat) (ok : Bool)
    {tx : StatusTx} (phase : chunk.phase = .persistTx tx) :
    Consistent (chunk.persistWrite env setting now tx ok) := by
  have own : tx ∈ chunk.openTxs := (mem_openTxs _ _).mpr (Or.inr (Or.inr phase))
  unfold Chunk.persistWrite
  split
  · exact (consistent.mark tx.nextIds).abort
  · rename_i next moved
    refine (consistent.mark tx.nextIds).leave rfl rfl (fun _ marked => marked) (by simp [Early]) (by simp) ?_
    intro current same
    cases same
    refine ⟨?_,?_⟩
    · rw [advance_writes moved]
      exact consistent.persistTx tx phase
    · intro id listed
      rcases (advance_written_iff moved id).mp listed with old | new
      · exact List.mem_append_left _ (consistent.marking tx own id old)
      · exact List.mem_append_right _ new

theorem Consistent.persistCommit {chunk : Chunk} (consistent : Consistent chunk) (ok : Bool) {tx : StatusTx}
    (phase : chunk.phase = .persistTx tx) : Consistent (chunk.persistCommit tx ok) := by
  cases ok with
  | false => exact consistent.abort
  | true =>
    have own : tx ∈ chunk.openTxs := (mem_openTxs _ _).mpr (Or.inr (Or.inr phase))
    have kept : ∀ current ∈ (chunk.persistCommit tx true).openTxs, current ∈ chunk.openTxs :=
      fun current member => openTxs_plain chunk member rfl trivial
    have committed : (chunk.persistCommit tx true).committed = chunk.committed ++ tx.updates := rfl
    have inside : ∀ write ∈ (chunk.persistCommit tx true).committedWrites,
        write ∈ chunk.committedWrites ++ tx.writes := by
      rintro ⟨id,status⟩ done
      rcases (mem_commitWrites committed).mp done with old | new
      · exact List.mem_append_left _ old
      · exact List.mem_append_right _ (List.mem_append_left _ new)
    exact
      { functional := fun current member => consistent.functional current (kept current member)
        marked := by
          intro id done
          rcases (mem_written_append _ _ _).mp done with old | new
          · exact consistent.marked id old
          · exact consistent.marking tx own id new
        marking := fun current member => consistent.marking current (kept current member)
        once := fun id first second one other =>
          consistent.persistTx tx phase id first second (inside _ one) (inside _ other)
        initial := by simp [Chunk.persistCommit]
        jobs := by simp [Chunk.persistCommit]
        exceededTx := by simp [Chunk.persistCommit]
        early := by simp [Chunk.persistCommit,Early]
        blank := by simp [Chunk.persistCommit,Early]
        disjoint := consistent.disjoint
        reported := consistent.reported
        writing := consistent.writing
        origin := by simp [Chunk.persistCommit]
        tainted := by simp [Chunk.persistCommit]
        persisting := by simp [Chunk.persistCommit]
        persistTx := by simp [Chunk.persistCommit] }

theorem Consistent.endMap {chunk : Chunk} (consistent : Consistent chunk) (base : Base chunk)
    (phase : chunk.phase = .processing) : Consistent {chunk with phase := .persisting} := by
  refine consistent.leave rfl rfl (fun _ marked => marked) (by simp [Early]) ?_ (by simp)
  intro _ id status done value found
  have own := mem_committedWrites done
  have listed := (base.statusMap id value found).1
  have error := consistent.error base base phase rfl own listed found
  obtain ⟨cluster,member,inside,state⟩ := consistent.origin phase id own listed
  rcases consistent.tainted phase cluster member with blank | errors
  · rw [blank id inside] at found
    cases found
  · simp only [AllErrors,state] at errors
    rw [errors id inside status done]
    exact error

theorem Consistent.step {chunk next : Chunk} (consistent : Consistent chunk) (base : Base chunk) {now : Nat}
    {action : Action} (isolated : setting.transactionMode = .isolated) (own : Own env chunk action)
    (errorsOnly : ErrorsOnly chunk action) (taken : Taken env setting chunk now action next) : Consistent next := by
  cases taken with
  | preprocess payloads phase => exact consistent.preprocess base payloads phase
  | exceededOpen hookThrew job jobs phase =>
    exact consistent.openExceeded now hookThrew (by simp [phase,Early]) (consistent.jobs (job::jobs) phase)
  | exceededWrite ok job hookThrew tx jobs phase more => exact consistent.exceededWrite now ok phase
  | exceededCommit ok job hookThrew tx jobs phase written => exact consistent.exceededCommit base ok phase
  | noPayload phase none =>
    exact consistent.leave rfl rfl (fun _ marked => marked) (by simp [Early])
      (fun _ => consistent.uncommitted (base.withPhase .persisting (by simp) (by simp)) (by simp [phase,Early]) rfl)
      (by simp)
  | clusterError phase =>
    exact consistent.handleErrorOfChunk
      (consistent.uncommitted (base.handleErrorOfChunk (by simp [phase])) (by simp [phase,Early]) rfl)
  | cluster clusters phase valid => exact consistent.cluster phase valid errorsOnly
  | launch index cluster phase found state =>
    refine consistent.setCluster _ found phase (by simp [state]) (by simp) (by simp) (by simp) (by simp) ?_
    exact (consistent.tainted phase cluster (List.mem_of_getElem? found)).imp_right
      (fun errors => by simp [AllErrors,state] at errors)
  | processEvent index ok cluster phase found state failed =>
    exact consistent.processEvent ok found phase state isolated
  | report index outcome cluster phase found state =>
    exact consistent.report outcome found phase state isolated own
  | settle index shouldRollback rollbackOk cluster statusMap phase found state =>
    exact consistent.settle now shouldRollback rollbackOk found phase state
  | write index ok cluster tx phase found state more => exact consistent.write now ok found phase state
  | commit index ok cluster tx phase found state written =>
    cases ok with
    | true => exact consistent.commit base found phase state
    | false =>
      exact consistent.setCluster .rejected found phase (by simp [state]) (by simp) (by simp) (by simp) (by simp)
        (Or.inr trivial)
  | tick found ok phase own => exact consistent.tick now found
  | endMapFailed phase settled => exact consistent.abort
  | endMapRejected phase settled rejected =>
    have after : Base (chunk.handleErrorOfChunk env) := base.handleErrorOfChunk (by simp [phase])
    refine consistent.handleErrorOfChunk ?_
    intro id status done value found
    have listed := (after.statusMap id value found).1
    have error : status = EventProcessingStatus.Error := errorsOnly rejected (id,status) done listed
    rw [error]
    exact consistent.error base after phase rfl (mem_committedWrites done) listed found
  | endMap phase settled fulfilled => exact consistent.endMap base phase
  | persistOpen phase => exact consistent.persistOpen base now phase
  | persistWrite ok tx phase more => exact consistent.persistWrite now ok phase
  | persistCommit ok tx phase written => exact consistent.persistCommit ok phase

theorem consistent_selected (openEvents exceededTriesExceeded exceededTries : List String) (timestamp : Nat)
    (distinct : (openEvents ++ exceededTriesExceeded ++ exceededTries).Nodup) :
    Consistent (Chunk.selected openEvents exceededTriesExceeded exceededTries timestamp) := by
  have jobIds : (Chunk.selected openEvents exceededTriesExceeded exceededTries timestamp).exceededJobs.flatMap
      ExceededJob.ids = exceededTriesExceeded ++ exceededTries := by
    have single : ∀ ids : List String, (ids.map ExceededJob.exceededTries).flatMap ExceededJob.ids = ids := by
      intro ids
      induction ids with
      | nil => rfl
      | cons id rest ih => simp [ExceededJob.ids,ih]
    cases exceededTriesExceeded with
    | nil => simp [Chunk.selected,exceededJobs,single]
    | cons id rest => simp [Chunk.selected,exceededJobs,single,ExceededJob.ids]
  rw [List.append_assoc,List.nodup_append] at distinct
  exact
    { functional := by simp [openTxs,Chunk.selected]
      marked := by simp [Chunk.selected,written]
      marking := by simp [openTxs,Chunk.selected]
      once := by
        intro id first second impossible
        simp [committedWrites,Chunk.selected] at impossible
      initial := by
        intro _
        refine ⟨jobIds ▸ distinct.2.1,?_,by simp [Chunk.selected,written]⟩
        rw [jobIds]
        exact fun id listed own => distinct.2.2 id own id listed rfl
      jobs := by simp [Chunk.selected]
      exceededTx := by simp [Chunk.selected]
      early := by simp [Chunk.selected,written]
      blank := by simp [Chunk.selected]
      disjoint := by simp [Chunk.selected]
      reported := by simp [Chunk.selected]
      writing := by simp [Chunk.selected]
      origin := by simp [Chunk.selected]
      tainted := by simp [Chunk.selected]
      persisting := by simp [Chunk.selected]
      persistTx := by simp [Chunk.selected] }

end EventQueue.Chunk

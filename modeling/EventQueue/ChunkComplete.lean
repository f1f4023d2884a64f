import EventQueue.ChunkIsolated

/-! No selected entry is left in progress: in isolated mode always, in the other modes exactly
if the reports on the entry come to an allowed status. A disallowed one keeps the entry from
being filled in and is then deleted. -/
namespace EventQueue.Chunk
open Js (Value)

variable {env : Environment} {setting : Setting}

/-- A keep-alive tick finds only rows that carry the instance's own timestamps. -/
def Calm (chunk : Chunk) : Action → Prop
  | .tick found _ => chunk.outdated found = []
  | _ => True

instance (chunk : Chunk) : (action : Action) → Decidable (Calm chunk action)
  | .tick found _ => inferInstanceAs (Decidable (chunk.outdated found = []))
  | .exceededWrite _ | .exceededCommit _ | .processEvent _ _ | .settle _ _ _ | .write _ _ | .commit _ _
  | .endMap _ | .persistWrite _ | .persistCommit _ | .preprocess _ | .exceededOpen _ | .cluster _ | .noPayload
  | .launch _ | .report _ _ | .persistOpen => .isTrue trivial

/-- In addition no database operation fails. -/
def Undisturbed (chunk : Chunk) : Action → Prop
  | .exceededWrite ok | .exceededCommit ok | .processEvent _ ok | .settle _ _ ok | .write _ ok | .commit _ ok
  | .endMap ok | .persistWrite ok | .persistCommit ok => ok = true
  | .tick found _ => chunk.outdated found = []
  | .preprocess _ | .exceededOpen _ | .cluster _ | .noPayload | .launch _ | .report _ _ | .persistOpen => True

instance (chunk : Chunk) : (action : Action) → Decidable (Undisturbed chunk action)
  | .exceededWrite ok | .exceededCommit ok | .processEvent _ ok | .settle _ _ ok | .write _ ok | .commit _ ok
  | .endMap ok | .persistWrite ok | .persistCommit ok => inferInstanceAs (Decidable (ok = true))
  | .tick found _ => inferInstanceAs (Decidable (chunk.outdated found = []))
  | .preprocess _ | .exceededOpen _ | .cluster _ | .noPayload | .launch _ | .report _ _ | .persistOpen =>
    .isTrue trivial

/-- The status of a selected row after the committed updates. -/
def rowStatus (committed : List Update) (id : String) : Nat :=
  committed.foldl (fun status update => if id ∈ update.ids then update.status else status)
    EventProcessingStatus.InProgress

/-- What was reported on the entry comes to a status that may be written, if to anything. -/
def AllowedOutcome (env : Environment) (reports : List Report) (id : String) : Prop :=
  ∀ value data, aggregated env reports id = some value → normalizeEntry value = some data →
    data.hasStatus allowedStatuses = true

instance (env : Environment) (reports : List Report) (id : String) : Decidable (AllowedOutcome env reports id) :=
  decidable_of_iff (∀ value ∈ aggregated env reports id, ∀ data ∈ normalizeEntry value,
      data.hasStatus allowedStatuses = true)
    ⟨fun all value data found same => all value found data same,
      fun all value found data same => all value data found same⟩

def Early : Phase → Prop
  | .preprocessing | .exceeding _ | .exceededTx _ _ _ _ => True
  | .processing | .persisting | .persistTx _ | .finished | .aborted => False

def isFinished : Phase → Bool
  | .finished => true
  | _ => false

theorem isFinished_iff (phase : Phase) : isFinished phase = true ↔ phase = .finished := by
  cases phase <;> simp [isFinished]

instance (phase : Phase) : Decidable (phase = .finished) := decidable_of_iff _ (isFinished_iff phase)

structure Complete (env : Environment) (setting : Setting) (chunk : Chunk) : Prop where
  logged : Logged env chunk.reports chunk.statusMap
  calm : chunk.outdatedEventMap = []
  selected : chunk.queueEntries ⊆ chunk.selectedEventMap
  allowed : ∀ update ∈ chunk.committed, ∀ id ∈ update.ids, update.status ∈ allowedStatuses
  exceeded : ∀ job ∈ chunk.exceededJobs, ∀ id ∈ job.ids, id ∉ chunk.queueEntries
  jobs : ∀ jobs, chunk.phase = .exceeding jobs → ∀ job ∈ jobs, ∀ id ∈ job.ids, id ∉ chunk.queueEntries
  exceededTx : ∀ job hookThrew tx jobs, chunk.phase = .exceededTx job hookThrew tx jobs →
    (∀ id status, (id,status) ∈ tx.writes → status ∈ allowedStatuses ∧ id ∉ chunk.queueEntries) ∧
      ∀ other ∈ job::jobs, ∀ id ∈ other.ids, id ∉ chunk.queueEntries
  untouched : Early chunk.phase ∨ setting.transactionMode ≠ .isolated ∧
      (chunk.phase = .processing ∨ chunk.phase = .persisting) →
    ∀ id ∈ chunk.queueEntries, id ∉ chunk.commitedStatusMap ∧ id ∉ written chunk.committed
  reported : ∀ cluster ∈ chunk.clusters, ∀ statusMap, cluster.state = .reported statusMap →
    setting.transactionMode = .isolated
  writing : ∀ cluster ∈ chunk.clusters, ∀ tx, cluster.state = .writing tx →
    setting.transactionMode = .isolated ∧ ∀ id status, (id,status) ∈ tx.writes → status ∈ allowedStatuses
  processing : chunk.phase = .processing → ∀ id ∈ chunk.queueEntries, id ∈ chunk.commitedStatusMap →
    id ∈ written chunk.committed ∨ (∃ cluster ∈ chunk.clusters, cluster.state = .rejected) ∨
      ∃ cluster ∈ chunk.clusters, ∃ tx, cluster.state = .writing tx ∧ id ∈ written tx.updates
  persisting : chunk.phase = .persisting → ∀ id ∈ chunk.queueEntries, id ∈ chunk.commitedStatusMap →
    id ∈ written chunk.committed ∨ (chunk.statusMap.get? id).isSome
  persistTx : ∀ tx, chunk.phase = .persistTx tx →
    (∀ id status, (id,status) ∈ tx.writes → status ∈ allowedStatuses) ∧
      ∀ id ∈ chunk.queueEntries, (id ∈ written chunk.committed ∨ ∃ status, (id,status) ∈ tx.writes) ↔
        (setting.transactionMode = .isolated ∨ AllowedOutcome env chunk.reports id)
  finished : chunk.phase = .finished → ∀ id ∈ chunk.queueEntries, id ∈ written chunk.committed ↔
    (setting.transactionMode = .isolated ∨ AllowedOutcome env chunk.reports id)

theorem nextIds_writes (tx : StatusTx) (id : String) (listed : id ∈ tx.nextIds) :
    ∃ status, (id,status) ∈ tx.writes := by
  obtain ⟨timestamp,groups,updates⟩ := tx
  cases groups with
  | nil => cases listed
  | cons group rest =>
    cases present : group.data.statusNumber with
    | none => simp [StatusTx.nextIds,present] at listed
    | some status =>
      simp only [StatusTx.nextIds,present,Option.isSome_some,if_true] at listed
      exact ⟨status,by simp [StatusTx.writes,Group.writes,present,listed]⟩

theorem Complete.abort {chunk : Chunk} (complete : Complete env setting chunk) :
    Complete env setting {chunk with phase := .aborted} :=
  { complete with
    jobs := by simp
    exceededTx := by simp
    untouched := by simp [Early]
    processing := by simp
    persisting := by simp
    persistTx := by simp
    finished := by simp }

theorem Complete.withAdded {chunk : Chunk} (complete : Complete env setting chunk) (added : Added)
    (logged : Logged env (chunk.reports ++ added.reports) added.statusMap)
    (plain : Early chunk.phase ∨ chunk.phase = .processing) : Complete env setting (chunk.withAdded added) where
  logged := logged
  calm := complete.calm
  selected := complete.selected
  allowed := complete.allowed
  exceeded := complete.exceeded
  jobs := complete.jobs
  exceededTx := complete.exceededTx
  untouched := complete.untouched
  reported := complete.reported
  writing := complete.writing
  processing := complete.processing
  persisting phase := by
    have same : chunk.phase = .persisting := phase
    simp [same,Early] at plain
  persistTx tx phase := by
    have same : chunk.phase = .persistTx tx := phase
    simp [same,Early] at plain
  finished phase := by
    have same : chunk.phase = .finished := phase
    simp [same,Early] at plain

theorem Complete.toPersisting {chunk : Chunk} (complete : Complete env setting chunk)
    (plain : Early chunk.phase ∨ chunk.phase = .processing)
    (known : ∀ id ∈ chunk.queueEntries, id ∈ chunk.commitedStatusMap →
      id ∈ written chunk.committed ∨ (chunk.statusMap.get? id).isSome) :
    Complete env setting {chunk with phase := .persisting} where
  logged := complete.logged
  calm := complete.calm
  selected := complete.selected
  allowed := complete.allowed
  exceeded := complete.exceeded
  jobs := by simp
  exceededTx := by simp
  untouched := by
    rintro (early | ⟨shared,_⟩)
    · cases early
    · exact complete.untouched (plain.imp_right (fun phase => ⟨shared,Or.inl phase⟩))
  reported := complete.reported
  writing := complete.writing
  processing := by simp
  persisting := fun _ => known
  persistTx := by simp
  finished := by simp

theorem Complete.preprocess {chunk : Chunk} (complete : Complete env setting chunk) (payloads : String → Payload)
    (phase : chunk.phase = .preprocessing) : Complete env setting (chunk.preprocess env payloads) := by
  have early : Early chunk.phase := by simp [phase,Early]
  have added := complete.withAdded _ (complete.logged.add env
    (chunk.queueEntries.filterMap (preprocessReport payloads))) (Or.inl early)
  unfold Chunk.preprocess
  simp only
  split
  · exact ⟨added.logged,added.calm,added.selected,added.allowed,added.exceeded,
      fun jobs same => by cases same; exact complete.exceeded,by simp,fun _ => added.untouched (Or.inl early),
      added.reported,added.writing,by simp,by simp,by simp,by simp⟩
  · exact ⟨added.logged,added.calm,added.selected,added.allowed,added.exceeded,by simp,by simp,by simp [Early],
      added.reported,added.writing,by simp,by simp,by simp,by simp⟩

theorem Complete.openExceeded {chunk : Chunk} (complete : Complete env setting chunk) (now : Nat)
    (job : ExceededJob) (hookThrew : Bool) (jobs : List ExceededJob) (early : Early chunk.phase)
    (apart : ∀ other ∈ job::jobs, ∀ id ∈ other.ids, id ∉ chunk.queueEntries) :
    Complete env setting (chunk.openExceeded env now job hookThrew jobs) := by
  unfold Chunk.openExceeded
  simp only
  split
  · exact complete.abort
  · rename_i tx opened
    refine
      { complete.abort with
        untouched := fun _ => complete.untouched (Or.inl early)
        exceededTx := ?_
        jobs := by simp
        processing := by simp
        persisting := by simp
        persistTx := by simp
        finished := by simp }
    intro other threw current rest same
    cases same
    refine ⟨?_,apart⟩
    intro id status written
    obtain ⟨_,fits,value,found,_⟩ := opened_writes opened written
    exact ⟨fits,apart _ (by simp) id (exceededStatusMap_get _ _ _ _ found).1⟩

theorem Complete.exceededWrite {chunk : Chunk} (complete : Complete env setting chunk) {job : ExceededJob}
    {hookThrew : Bool} {tx : StatusTx} {jobs : List ExceededJob} (now : Nat) (ok : Bool)
    (phase : chunk.phase = .exceededTx job hookThrew tx jobs) :
    Complete env setting (chunk.exceededWrite env setting now job hookThrew tx jobs ok) := by
  obtain ⟨fits,apart⟩ := complete.exceededTx job hookThrew tx jobs phase
  have early : Early chunk.phase := by simp [phase,Early]
  have foreign : ∀ id ∈ chunk.queueEntries, id ∉ tx.nextIds := by
    intro id listed next
    obtain ⟨status,planned⟩ := nextIds_writes tx id next
    exact (fits id status planned).2 listed
  have marked : Complete env setting (chunk.mark tx.nextIds) := by
    refine {complete with untouched := ?_,processing := ?_,persisting := ?_}
    · intro _ id listed
      have old := complete.untouched (Or.inl early) id listed
      exact ⟨by simp [Chunk.mark,old.1,foreign id listed],old.2⟩
    · intro same
      simp [Chunk.mark,phase] at same
    · intro same
      simp [Chunk.mark,phase] at same
  unfold Chunk.exceededWrite
  split
  · rename_i other next moved
    refine ⟨marked.logged,marked.calm,marked.selected,marked.allowed,marked.exceeded,by simp,?_,
      fun _ => marked.untouched (Or.inl early),marked.reported,marked.writing,by simp,by simp,by simp,by simp⟩
    intro job threw current rest same
    cases same
    rw [advance_writes moved]
    exact ⟨fits,apart⟩
  · exact marked.abort
  · split
    · exact marked.abort
    · exact marked.openExceeded now _ true jobs early apart

theorem tx_allowed {tx : StatusTx} (fits : ∀ id status, (id,status) ∈ tx.writes → status ∈ allowedStatuses)
    {update : Update} (member : update ∈ tx.updates) {id : String} (listed : id ∈ update.ids) :
    update.status ∈ allowedStatuses := by
  refine fits id update.status (List.mem_append_left _ (List.mem_flatMap.mpr ⟨update,member,?_⟩))
  exact List.mem_map_of_mem listed

theorem Complete.exceededCommit {chunk : Chunk} (complete : Complete env setting chunk) {job : ExceededJob}
    {hookThrew : Bool} {tx : StatusTx} {jobs : List ExceededJob} (ok : Bool)
    (phase : chunk.phase = .exceededTx job hookThrew tx jobs) (done : tx.groups = []) :
    Complete env setting (chunk.exceededCommit tx jobs ok) := by
  obtain ⟨fits,apart⟩ := complete.exceededTx job hookThrew tx jobs phase
  have early : Early chunk.phase := by simp [phase,Early]
  unfold Chunk.exceededCommit
  split
  · refine
      { complete with
        allowed := ?_
        jobs := ?_
        exceededTx := by simp
        untouched := ?_
        processing := by simp
        persisting := by simp
        persistTx := by simp
        finished := by simp }
    · intro update member id listed
      rcases List.mem_append.mp member with old | new
      · exact complete.allowed update old id listed
      · exact tx_allowed (fun id status planned => (fits id status planned).1) new listed
    · intro rest same other member
      cases same
      exact apart other (by simp [member])
    · intro _ id listed
      have old := complete.untouched (Or.inl early) id listed
      refine ⟨old.1,?_⟩
      rw [mem_written_append]
      rintro (before | now)
      · exact old.2 before
      · obtain ⟨status,planned⟩ := (mem_written_iff tx done id).mp now
        exact (fits id status planned).2 listed
  · exact complete.abort

theorem Complete.handleErrorOfChunk {chunk : Chunk} (complete : Complete env setting chunk)
    (plain : Early chunk.phase ∨ chunk.phase = .processing) :
    Complete env setting (chunk.handleErrorOfChunk env) := by
  have added := complete.withAdded _ (complete.logged.add env (errorReports chunk.queueEntries .undefined)) plain
  unfold Chunk.handleErrorOfChunk
  by_cases ok : (addReports env chunk.statusMap (errorReports chunk.queueEntries .undefined)).ok = true
  · simp only [ok,if_true]
    refine added.toPersisting plain ?_
    intro id listed _
    have present := addReports_present env chunk.statusMap _ ok ⟨id,.nat EventProcessingStatus.Error,.undefined⟩
      (List.mem_map_of_mem listed)
    exact Or.inr present
  · simp only [ok]
    exact added.abort

theorem Complete.setCluster {chunk : Chunk} (complete : Complete env setting chunk) {index : Nat}
    {cluster : Cluster}
    (state : ClusterState) (found : chunk.clusters[index]? = some cluster) (live : cluster.state ≠ .rejected)
    (reported : ∀ statusMap, state = .reported statusMap → setting.transactionMode = .isolated)
    (writing : ∀ tx, state = .writing tx → setting.transactionMode = .isolated ∧
      ∀ id status, (id,status) ∈ tx.writes → status ∈ allowedStatuses)
    (kept : ∀ id tx, cluster.state = .writing tx → id ∈ written tx.updates → id ∈ written chunk.committed ∨
      state = .rejected ∨ ∃ next, state = .writing next ∧ id ∈ written next.updates) :
    Complete env setting (chunk.setCluster index cluster state) where
  logged := complete.logged
  calm := complete.calm
  selected := complete.selected
  allowed := complete.allowed
  exceeded := complete.exceeded
  jobs := complete.jobs
  exceededTx := complete.exceededTx
  untouched := complete.untouched
  reported := Parties.forall_mem_moved complete.reported reported
  writing := Parties.forall_mem_moved complete.writing writing
  processing := by
    intro phase id listed marked
    rcases complete.processing phase id listed marked with done | ⟨other,member,same⟩ | ⟨other,member,tx,same,inside⟩
    · exact Or.inl done
    · have differ : other ≠ cluster := fun equal => live (equal ▸ same)
      exact Or.inr (Or.inl ⟨other,mem_setCluster_other state found member differ,same⟩)
    · by_cases equal : other = cluster
      · subst equal
        rcases kept id tx same inside with done | failed | ⟨next,continued,more⟩
        · exact Or.inl done
        · exact Or.inr (Or.inl ⟨_,mem_setCluster_self chunk state found,failed⟩)
        · exact Or.inr (Or.inr ⟨_,mem_setCluster_self chunk state found,next,continued,more⟩)
      · exact Or.inr (Or.inr ⟨other,mem_setCluster_other state found member equal,tx,same,inside⟩)
  persisting := complete.persisting
  persistTx := complete.persistTx
  finished := complete.finished

theorem Complete.handleErrorDuringProcessing {chunk : Chunk} (complete : Complete env setting chunk) {index : Nat}
    {cluster : Cluster} (error : Value) (found : chunk.clusters[index]? = some cluster)
    (phase : chunk.phase = .processing) (state : cluster.state = .running) :
    Complete env setting (chunk.handleErrorDuringProcessing env setting index cluster error) := by
  have added := complete.withAdded _ (complete.logged.add env (errorReports cluster.queueEntries error)) (Or.inr phase)
  refine added.setCluster _ found (by simp [state]) ?_ ?_ (by simp [state])
  · intro statusMap same
    by_contra shared
    split at same <;> cases same
  · intro tx same
    split at same
    · split at same <;> cases same
    · cases same

theorem Complete.report {chunk : Chunk} (complete : Complete env setting chunk) {index : Nat} {cluster : Cluster}
    (outcome : Outcome) (found : chunk.clusters[index]? = some cluster) (phase : chunk.phase = .processing)
    (state : cluster.state = .running) : Complete env setting (chunk.report env setting index cluster outcome) := by
  cases outcome with
  | thrown error => exact complete.handleErrorDuringProcessing error found phase state
  | returned statusTuple =>
    unfold Chunk.report
    simp only
    split
    · rename_i isolated
      split
      · exact complete.setCluster _ found (by simp [state]) (fun _ _ => isolated) (by simp) (by simp [state])
      · exact complete.handleErrorDuringProcessing env.typeError found phase state
    · have added := complete.withAdded _ (complete.logged.setEventStatus env cluster.queueEntries statusTuple)
        (Or.inr phase)
      split
      · exact added.setCluster _ found (by simp [state]) (by simp) (by simp) (by simp [state])
      · exact added.handleErrorDuringProcessing env.typeError found phase state

theorem Complete.settle {chunk : Chunk} (complete : Complete env setting chunk) {index : Nat} {cluster : Cluster}
    {statusMap : Dict Value} (now : Nat) (shouldRollback rollbackOk : Bool)
    (found : chunk.clusters[index]? = some cluster) (state : cluster.state = .reported statusMap) :
    Complete env setting (chunk.settle env now index cluster statusMap shouldRollback rollbackOk) := by
  have isolated := complete.reported cluster (List.mem_of_getElem? found) statusMap state
  have rejected : Complete env setting (chunk.setCluster index cluster .rejected) :=
    complete.setCluster _ found (by simp [state]) (by simp) (by simp) (by simp [state])
  unfold Chunk.settle
  split
  · exact rejected
  · split
    · exact rejected
    · split
      · exact rejected
      · rename_i tx opened
        refine complete.setCluster _ found (by simp [state]) (by simp) ?_ (by simp [state])
        intro current same
        cases same
        exact ⟨isolated,fun id status planned => (opened_writes opened planned).2.1⟩

theorem Complete.write {chunk : Chunk} (complete : Complete env setting chunk) {index : Nat} {cluster : Cluster}
    {tx : StatusTx} (now : Nat) (ok : Bool) (found : chunk.clusters[index]? = some cluster)
    (phase : chunk.phase = .processing) (state : cluster.state = .writing tx) :
    Complete env setting (chunk.write env setting now index cluster tx ok) := by
  have member := List.mem_of_getElem? found
  obtain ⟨isolated,fits⟩ := complete.writing cluster member tx state
  unfold Chunk.write
  cases moved : advance env setting now ok tx with
  | none =>
    have given : Complete env setting (chunk.setCluster index cluster .rejected) :=
      complete.setCluster _ found (by simp [state]) (by simp) (by simp) (fun _ _ _ _ => Or.inr (Or.inl rfl))
    refine ⟨given.logged,given.calm,given.selected,given.allowed,given.exceeded,given.jobs,given.exceededTx,?_,
      given.reported,given.writing,?_,?_,given.persistTx,given.finished⟩
    · intro quiet
      simp [Chunk.setCluster,Chunk.mark,phase,Early,isolated] at quiet
    · exact fun _ _ _ _ => Or.inr (Or.inl ⟨_,mem_setCluster_self chunk .rejected found,rfl⟩)
    · intro same
      simp [Chunk.setCluster,Chunk.mark,phase] at same
  | some next =>
    have given : Complete env setting (chunk.setCluster index cluster (.writing next)) := by
      refine complete.setCluster _ found (by simp [state]) (by simp) ?_ ?_
      · intro current same
        cases same
        exact ⟨isolated,advance_writes moved ▸ fits⟩
      · intro id current same inside
        rw [state] at same
        cases same
        exact Or.inr (Or.inr ⟨next,rfl,(advance_written_iff moved id).mpr (Or.inl inside)⟩)
    refine ⟨given.logged,given.calm,given.selected,given.allowed,given.exceeded,given.jobs,given.exceededTx,?_,
      given.reported,given.writing,?_,?_,given.persistTx,given.finished⟩
    · intro quiet
      simp [Chunk.setCluster,Chunk.mark,phase,Early,isolated] at quiet
    · intro _ id listed marked
      rcases List.mem_append.mp marked with old | new
      · exact given.processing phase id listed old
      · exact Or.inr (Or.inr ⟨_,mem_setCluster_self chunk (.writing next) found,next,rfl,
          (advance_written_iff moved id).mpr (Or.inr new)⟩)
    · intro same
      simp [Chunk.setCluster,Chunk.mark,phase] at same

theorem Complete.commit {chunk : Chunk} (complete : Complete env setting chunk) {index : Nat} {cluster : Cluster}
    {tx : StatusTx} (ok : Bool) (found : chunk.clusters[index]? = some cluster) (phase : chunk.phase = .processing)
    (state : cluster.state = .writing tx) : Complete env setting (chunk.commit index cluster tx ok) := by
  obtain ⟨isolated,fits⟩ := complete.writing cluster (List.mem_of_getElem? found) tx state
  unfold Chunk.commit
  split
  · have grown : Complete env setting {chunk with committed := chunk.committed ++ tx.updates} := by
      refine
        { complete with
          allowed := ?_
          untouched := ?_
          processing := ?_
          persisting := by simp [phase]
          persistTx := by simp [phase]
          finished := by simp [phase] }
      · intro update member id listed
        rcases List.mem_append.mp member with old | new
        · exact complete.allowed update old id listed
        · exact tx_allowed fits new listed
      · intro quiet
        simp [phase,Early,isolated] at quiet
      · intro same id listed marked
        rcases complete.processing same id listed marked with done | rest
        · exact Or.inl ((mem_written_append _ _ _).mpr (Or.inl done))
        · exact Or.inr rest
    refine grown.setCluster .fulfilled found (by simp [state]) (by simp) (by simp) ?_
    intro id current same inside
    rw [state] at same
    cases same
    exact Or.inl ((mem_written_append _ _ _).mpr (Or.inr inside))
  · exact complete.setCluster _ found (by simp [state]) (by simp) (by simp) (fun _ _ _ _ => Or.inr (Or.inl rfl))

theorem Complete.tick {chunk : Chunk} (complete : Complete env setting chunk) (now : Nat)
    (found : List (String × Option Nat))
    (own : chunk.outdated found = []) : Complete env setting (chunk.tick now found) := by
  unfold Chunk.tick
  split
  · exact complete
  · exact {complete with calm := by simp [own,complete.calm]}

theorem Complete.endMap {chunk : Chunk} (complete : Complete env setting chunk) (phase : chunk.phase = .processing)
    (settled : ∀ cluster ∈ chunk.clusters, Chunk.isSettled cluster)
    (fulfilled : ∀ cluster ∈ chunk.clusters, Chunk.isRejected cluster = false) :
    Complete env setting {chunk with phase := .persisting} := by
  refine complete.toPersisting (Or.inr phase) ?_
  intro id listed marked
  rcases complete.processing phase id listed marked with done | ⟨cluster,member,same⟩ | ⟨cluster,member,tx,same,_⟩
  · exact Or.inl done
  · have kept := fulfilled cluster member
    simp [isRejected,same] at kept
  · have done := settled cluster member
    simp [isSettled,same] at done

theorem stands_allowed {status : Nat} {value : Value} (stands : Stands status value)
    (fits : status ∈ allowedStatuses) :
    ∃ data, normalizeEntry value = some data ∧ data.hasStatus allowedStatuses = true := by
  obtain ⟨data,normalized,same⟩ := stands
  exact ⟨data,normalized,(hasStatus_iff data _).mpr ⟨status,fits,same⟩⟩

theorem Complete.opened_iff {chunk : Chunk} (complete : Complete env setting chunk)
    (base : setting.transactionMode = .isolated → Base chunk) (phase : chunk.phase = .persisting) {now : Nat}
    {tx : StatusTx} (opened : (persistFilled chunk.selectedEventMap chunk.queueEntries chunk.commitedStatusMap
      chunk.outdatedEventMap chunk.statusMap).bind (StatusTx.open env now) = some tx)
    (id : String) (listed : id ∈ chunk.queueEntries) :
    (id ∈ written chunk.committed ∨ ∃ status, (id,status) ∈ tx.writes) ↔
      (setting.transactionMode = .isolated ∨ AllowedOutcome env chunk.reports id) := by
  have selected := complete.selected listed
  have fresh : id ∉ chunk.outdatedEventMap := by simp [complete.calm]
  rw [filled_written_iff complete.selected opened id]
  by_cases isolated : setting.transactionMode = .isolated
  · simp only [isolated,true_or,iff_true]
    cases found : chunk.statusMap.get? id with
    | none =>
      by_cases marked : id ∈ chunk.commitedStatusMap
      · rcases complete.persisting phase id listed marked with done | present
        · exact Or.inl done
        · simp [found] at present
      · exact Or.inr (Or.inr ⟨rfl,listed,marked,fresh⟩)
    | some value =>
      have fits : ∃ data, normalizeEntry value = some data ∧ data.hasStatus allowedStatuses = true := by
        rcases ((base isolated).statusMap id value found).2 with failed | ⟨done,_⟩
        · exact stands_allowed failed error_allowed
        · exact stands_allowed done done_allowed
      exact Or.inr (Or.inl ⟨selected,fits⟩)
  · obtain ⟨unmarked,unwritten⟩ := complete.untouched (Or.inr ⟨isolated,Or.inr phase⟩) id listed
    have aggregate := complete.logged.get env id
    obtain ⟨filled,known,_⟩ := Option.bind_eq_some_iff.mp opened
    obtain ⟨normalized,total,_⟩ := Option.map_eq_some_iff.mp known
    simp only [isolated,false_or,unwritten]
    unfold AllowedOutcome
    rw [← aggregate]
    cases found : chunk.statusMap.get? id with
    | none => simp [listed,unmarked,fresh]
    | some value =>
      obtain ⟨data,same⟩ := normalizeStatusMap_total chunk.statusMap normalized total id value found
      simp only [selected,Option.bind_some,same,true_and,Option.some.injEq,exists_eq_left',reduceCtorEq,
        false_and,or_false]
      constructor
      · rintro fits _ other rfl again
        rw [same] at again
        cases again
        exact fits
      · exact fun all => all value data rfl same

theorem Complete.toPersistTx {chunk : Chunk} (complete : Complete env setting chunk)
    (commitedStatusMap notCommitedStatusMap : List String) (tx : StatusTx)
    (fits : ∀ id status, (id,status) ∈ tx.writes → status ∈ allowedStatuses)
    (covered : ∀ id ∈ chunk.queueEntries, (id ∈ written chunk.committed ∨ ∃ status, (id,status) ∈ tx.writes) ↔
      (setting.transactionMode = .isolated ∨ AllowedOutcome env chunk.reports id)) :
    Complete env setting {chunk with
      commitedStatusMap := commitedStatusMap,notCommitedStatusMap := notCommitedStatusMap
      phase := .persistTx tx} :=
  { complete with
    jobs := by simp
    exceededTx := by simp
    untouched := by simp [Early]
    processing := by simp
    persisting := by simp
    persistTx := by
      intro current same
      cases same
      exact ⟨fits,covered⟩
    finished := by simp }

theorem Complete.persistOpen {chunk : Chunk} (complete : Complete env setting chunk)
    (base : setting.transactionMode = .isolated → Base chunk) (now : Nat) (phase : chunk.phase = .persisting) :
    Complete env setting (chunk.persistOpen env now) := by
  unfold Chunk.persistOpen
  split
  · exact complete.abort
  · rename_i tx opened
    refine complete.toPersistTx chunk.commitedStatusMap chunk.notCommitedStatusMap tx ?_
      (complete.opened_iff base phase opened)
    intro id status planned
    obtain ⟨filled,known,opened⟩ := Option.bind_eq_some_iff.mp opened
    obtain ⟨data,_,numbered⟩ :=
      (open_writes env now filled tx (filled_allowed complete.selected known) opened id status).mp planned
    exact ((statusNumber_iff data status).mp numbered).1

theorem Complete.persistWrite {chunk : Chunk} (complete : Complete env setting chunk) {tx : StatusTx} (now : Nat)
    (ok : Bool) (phase : chunk.phase = .persistTx tx) :
    Complete env setting (chunk.persistWrite env setting now tx ok) := by
  unfold Chunk.persistWrite
  split
  · exact {complete.abort with untouched := by simp [Early],processing := by simp,persisting := by simp}
  · rename_i next moved
    obtain ⟨fits,covered⟩ := complete.persistTx tx phase
    rw [← advance_writes moved] at fits covered
    exact complete.toPersistTx _ _ next fits covered

theorem Complete.persistCommit {chunk : Chunk} (complete : Complete env setting chunk) {tx : StatusTx} (ok : Bool)
    (phase : chunk.phase = .persistTx tx) (done : tx.groups = []) :
    Complete env setting (chunk.persistCommit tx ok) := by
  obtain ⟨fits,covered⟩ := complete.persistTx tx phase
  unfold Chunk.persistCommit
  split
  · refine
      { complete with
        allowed := ?_
        jobs := by simp
        exceededTx := by simp
        untouched := by simp [Early]
        processing := by simp
        persisting := by simp
        persistTx := by simp
        finished := ?_ }
    · intro update member id listed
      rcases List.mem_append.mp member with old | new
      · exact complete.allowed update old id listed
      · exact tx_allowed fits new listed
    · intro _ id listed
      rw [mem_written_append,mem_written_iff tx done]
      exact covered id listed
  · exact complete.abort

theorem Complete.step {chunk next : Chunk} (complete : Complete env setting chunk)
    (base : setting.transactionMode = .isolated → Base chunk) (now : Nat) (action : Action)
    (calm : Calm chunk action) (taken : Taken env setting chunk now action next) :
    Complete env setting next := by
  cases taken with
  | preprocess payloads phase => exact complete.preprocess payloads phase
  | exceededOpen hookThrew job jobs phase =>
    exact complete.openExceeded now job hookThrew jobs (by simp [phase,Early]) (complete.jobs _ phase)
  | exceededWrite ok job hookThrew tx jobs phase more => exact complete.exceededWrite now ok phase
  | exceededCommit ok job hookThrew tx jobs phase written => exact complete.exceededCommit ok phase written
  | noPayload phase none =>
    have early : Early chunk.phase := by simp [phase,Early]
    exact complete.toPersisting (Or.inl early)
      (fun id listed marked => absurd marked (complete.untouched (Or.inl early) id listed).1)
  | clusterError phase => exact complete.handleErrorOfChunk (Or.inl (by simp [phase,Early]))
  | cluster clusters phase valid =>
    have untouched := complete.untouched (Or.inl (by simp [phase,Early]))
    refine
      { complete with
        jobs := by simp
        exceededTx := by simp
        untouched := fun _ => untouched
        reported := ?_
        writing := ?_
        processing := fun _ id listed marked => absurd marked (untouched id listed).1
        persisting := by simp
        persistTx := by simp
        finished := by simp }
    · intro cluster member statusMap same
      obtain ⟨given,_,rfl⟩ := List.mem_map.mp member
      cases same
    · intro cluster member tx same
      obtain ⟨given,_,rfl⟩ := List.mem_map.mp member
      cases same
  | launch index cluster phase found state =>
    exact complete.setCluster _ found (by simp [state]) (by simp) (by simp) (by simp [state])
  | processEvent index ok cluster phase found state failed =>
    unfold Chunk.processEvent
    split
    · exact complete.setCluster _ found (by simp [state]) (by simp) (by simp) (by simp [state])
    · split
      · refine complete.setCluster _ found (by simp [state]) ?_ ?_ (by simp [state])
        · intro statusMap same
          by_contra shared
          rw [if_neg shared] at same
          cases same
        · intro tx same
          split at same <;> cases same
      · have running := complete.setCluster .running found (by simp [state]) (by simp) (by simp) (by simp [state])
        exact {running with}
  | report index outcome cluster phase found state => exact complete.report outcome found phase state
  | settle index shouldRollback rollbackOk cluster statusMap phase found state =>
    exact complete.settle now shouldRollback rollbackOk found state
  | write index ok cluster tx phase found state more => exact complete.write now ok found phase state
  | commit index ok cluster tx phase found state written => exact complete.commit ok found phase state
  | tick found ok phase own => exact complete.tick now found calm
  | endMapFailed phase settled => exact complete.abort
  | endMapRejected phase settled rejected => exact complete.handleErrorOfChunk (Or.inr phase)
  | endMap phase settled fulfilled => exact complete.endMap phase settled fulfilled
  | persistOpen phase => exact complete.persistOpen base now phase
  | persistWrite ok tx phase more => exact complete.persistWrite now ok phase
  | persistCommit ok tx phase written => exact complete.persistCommit ok phase written

theorem rowStatus_iff (committed : List Update)
    (allowed : ∀ update ∈ committed, ∀ id ∈ update.ids, update.status ∈ allowedStatuses) (id : String) :
    rowStatus committed id ∈ allowedStatuses ↔ id ∈ written committed := by
  have general : ∀ (rest : List Update) (status : Nat),
      (∀ update ∈ rest, ∀ id ∈ update.ids, update.status ∈ allowedStatuses) →
      (rest.foldl (fun status update => if id ∈ update.ids then update.status else status) status ∈ allowedStatuses ↔
        status ∈ allowedStatuses ∨ id ∈ written rest) := by
    intro rest
    induction rest with
    | nil => simp [written]
    | cons update rest ih =>
      intro status fits
      rw [List.foldl_cons,ih _ (fun other member => fits other (by simp [member]))]
      by_cases listed : id ∈ update.ids
      · simp [listed,written,fits update (by simp) id listed]
      · simp [listed,written]
  rw [rowStatus,general committed _ allowed]
  simp [allowedStatuses,EventProcessingStatus.InProgress,EventProcessingStatus.Open,EventProcessingStatus.Done,
    EventProcessingStatus.Error,EventProcessingStatus.Exceeded]

theorem rowStatus_written {committed : List Update}
    (allowed : ∀ update ∈ committed, ∀ id ∈ update.ids, update.status ∈ allowedStatuses) {id : String}
    (listed : id ∈ written committed) :
    ∃ update ∈ committed, id ∈ update.ids ∧ rowStatus committed id = update.status := by
  have general : ∀ (rest : List Update) (status : Nat),
      rest.foldl (fun status update => if id ∈ update.ids then update.status else status) status = status ∨
        ∃ update ∈ rest, id ∈ update.ids ∧
          rest.foldl (fun status update => if id ∈ update.ids then update.status else status) status = update.status := by
    intro rest
    induction rest with
    | nil => exact fun status => Or.inl rfl
    | cons update rest ih =>
      intro status
      rw [List.foldl_cons]
      rcases ih (if id ∈ update.ids then update.status else status) with same | ⟨other,member,inside,same⟩
      · by_cases own : id ∈ update.ids
        · exact Or.inr ⟨update,by simp,own,by rw [same,if_pos own]⟩
        · exact Or.inl (by rw [same,if_neg own])
      · exact Or.inr ⟨other,by simp [member],inside,same⟩
  rcases general committed EventProcessingStatus.InProgress with untouched | found
  · have fits := (rowStatus_iff committed allowed id).mpr listed
    rw [rowStatus,untouched] at fits
    exact absurd fits (by decide)
  · exact found

theorem complete_selected (env : Environment) (setting : Setting)
    (openEvents exceededTriesExceeded exceededTries : List String) (timestamp : Nat)
    (distinct : (openEvents ++ exceededTriesExceeded ++ exceededTries).Nodup) :
    Complete env setting (Chunk.selected openEvents exceededTriesExceeded exceededTries timestamp) where
  logged := rfl
  calm := rfl
  selected := (base_selected openEvents exceededTriesExceeded exceededTries timestamp).selected
  allowed := by simp [Chunk.selected]
  exceeded := by
    rw [List.append_assoc,List.nodup_append] at distinct
    intro job member id listed inside
    have apart : id ∉ exceededTriesExceeded ++ exceededTries := fun other => distinct.2.2 id inside id other rfl
    rcases List.mem_append.mp member with batch | single
    · split at batch
      · cases batch
      · rw [List.mem_singleton] at batch
        subst batch
        exact apart (List.mem_append_left _ listed)
    · obtain ⟨entry,given,rfl⟩ := List.mem_map.mp single
      rw [ExceededJob.ids,List.mem_singleton] at listed
      subst listed
      exact apart (List.mem_append_right _ given)
  jobs := by simp [Chunk.selected]
  exceededTx := by simp [Chunk.selected]
  untouched := by simp [Chunk.selected,written]
  reported := by simp [Chunk.selected]
  writing := by simp [Chunk.selected]
  processing := by simp [Chunk.selected]
  persisting := by simp [Chunk.selected]
  persistTx := by simp [Chunk.selected]
  finished := by simp [Chunk.selected]

/-- After the final status transaction no open entry is in progress, in isolated mode always and in
the other modes exactly if the reports on each entry come to an allowed status. -/
theorem no_entry_left_iff (env : Environment) (setting : Setting)
    (openEvents exceededTriesExceeded exceededTries : List String) (timestamp : Nat)
    (actions : List (Nat × Action)) (chunk : Chunk)
    (distinct : (openEvents ++ exceededTriesExceeded ++ exceededTries).Nodup)
    (calm : Transition.Along (timed env setting) (fun chunk entry => Calm chunk entry.2)
      (Chunk.selected openEvents exceededTriesExceeded exceededTries timestamp) actions)
    (reached : Transition.run (timed env setting)
      (Chunk.selected openEvents exceededTriesExceeded exceededTries timestamp) actions = some chunk)
    (finished : chunk.phase = .finished) :
    (∀ id ∈ openEvents, rowStatus chunk.committed id ∈ allowedStatuses) ↔
      (setting.transactionMode = .isolated ∨ ∀ id ∈ openEvents, AllowedOutcome env chunk.reports id) := by
  have invariant := Transition.invariant (timed env setting) _
    (fun chunk => (setting.transactionMode = .isolated → Base chunk) ∧ Complete env setting chunk ∧
      chunk.queueEntries = openEvents) (by
      rintro state ⟨now,action⟩ next ⟨base,complete,same⟩ calm taken
      have known := step_taken env setting state next now action taken
      exact ⟨fun isolated => (base isolated).step now action isolated known,
        complete.step base now action calm known,known.selection.1.trans same⟩)
    _ _ _ ⟨fun _ => base_selected _ _ _ _,complete_selected env setting _ _ _ _ distinct,rfl⟩ calm reached
  obtain ⟨_,complete,same⟩ := invariant
  have covered := complete.finished finished
  rw [same] at covered
  simp only [rowStatus_iff chunk.committed complete.allowed]
  constructor
  · intro all
    by_cases isolated : setting.transactionMode = .isolated
    · exact Or.inl isolated
    · exact Or.inr (fun id listed => ((covered id listed).mp (all id listed)).resolve_left isolated)
  · intro condition id listed
    exact (covered id listed).mpr (condition.imp_right (fun all => all id listed))

/-- One entry processed in one shared transaction, with the status its handler returns. -/
def sharedRun (status : Value) (rest : List (Nat × Action)) : List (Nat × Action) :=
  [(100,.preprocess (fun _ => .value)),(100,.cluster (some [("e1",["e1"])])),(100,.launch 0),
    (100,.processEvent 0 true),(101,.report 0 (.returned (.arr [.arr [.str "e1",status]]))),(102,.endMap true),
    (103,.persistOpen)] ++ rest

def committingAll : Setting := ⟨.alwaysCommit,1,⟨300000,10000⟩⟩

theorem no_entry_left_iff_done :
    ∃ chunk, Transition.run (timed .plain committingAll) (Chunk.selected ["e1"] [] [] 100)
        (sharedRun (.nat EventProcessingStatus.Done) [(103,.persistWrite true),(103,.persistCommit true)]) =
          some chunk ∧
      chunk.phase = .finished ∧ AllowedOutcome .plain chunk.reports "e1" ∧
      rowStatus chunk.committed "e1" = EventProcessingStatus.Done := by
  have computed : (Transition.run (timed .plain committingAll) (Chunk.selected ["e1"] [] [] 100)
      (sharedRun (.nat EventProcessingStatus.Done) [(103,.persistWrite true),(103,.persistCommit true)])).map
        (fun chunk => (isFinished chunk.phase,rowStatus chunk.committed "e1")) =
      some (true,EventProcessingStatus.Done) := by decide
  obtain ⟨chunk,reached,same⟩ := Option.map_eq_some_iff.mp computed
  obtain ⟨finished,status⟩ := Prod.mk.inj same
  have phase := (isFinished_iff chunk.phase).mp finished
  have condition := (no_entry_left_iff .plain committingAll ["e1"] [] [] 100 _ chunk (by decide) (by decide) reached
    phase).mp (by simp [status,allowedStatuses])
  exact ⟨chunk,reached,phase,(condition.resolve_left (by decide)) "e1" (by simp),status⟩

/-- The handler returns status InProgress: the entry is neither written nor filled in. -/
theorem entry_left_in_progress :
    ∃ chunk, Transition.Along (timed .plain committingAll) (fun chunk entry => Undisturbed chunk entry.2)
        (Chunk.selected ["e1"] [] [] 100)
        (sharedRun (.nat EventProcessingStatus.InProgress) [(103,.persistCommit true)]) ∧
      Transition.run (timed .plain committingAll) (Chunk.selected ["e1"] [] [] 100)
        (sharedRun (.nat EventProcessingStatus.InProgress) [(103,.persistCommit true)]) = some chunk ∧
      chunk.phase = .finished ∧ ¬ rowStatus chunk.committed "e1" ∈ allowedStatuses := by
  have computed : (Transition.run (timed .plain committingAll) (Chunk.selected ["e1"] [] [] 100)
      (sharedRun (.nat EventProcessingStatus.InProgress) [(103,.persistCommit true)])).map
        (fun chunk => (isFinished chunk.phase,rowStatus chunk.committed "e1")) =
      some (true,EventProcessingStatus.InProgress) := by decide
  obtain ⟨chunk,reached,same⟩ := Option.map_eq_some_iff.mp computed
  obtain ⟨finished,status⟩ := Prod.mk.inj same
  exact ⟨chunk,by decide,reached,(isFinished_iff chunk.phase).mp finished,by rw [status]; decide⟩

end EventQueue.Chunk

import EventQueue.ChunkComplete
import EventQueue.System

/-! Ownership of open entries between processors of one event: as long as a processor keeps its
entries alive and has not committed a status for one of them, nobody else selects that entry.
This needs that no cluster transaction fails once it has started to write, that nobody writes
an entry somebody else has selected since, and that the final transaction finds an allowed
status for every entry. -/
namespace EventQueue
open Js (Value)

variable {env : Environment} {setting : Setting} {config : SelectConfig}

namespace Chunk

def WritesSucceed (env : Environment) (setting : Setting) (chunk : Chunk) (now : Nat) : Action → Prop
  | .write index ok => ∀ cluster ∈ chunk.clusters[index]?, ∀ tx ∈ openTx cluster,
      (advance env setting now ok tx).isSome
  | .commit _ ok => ok = true
  | _ => True

instance (env : Environment) (setting : Setting) (chunk : Chunk) (now : Nat) :
    (action : Action) → Decidable (WritesSucceed env setting chunk now action)
  | .write index ok => inferInstanceAs (Decidable (∀ cluster ∈ chunk.clusters[index]?, ∀ tx ∈ openTx cluster,
      (advance env setting now ok tx).isSome))
  | .commit _ ok => inferInstanceAs (Decidable (ok = true))
  | .exceededWrite _ | .exceededCommit _ | .processEvent _ _ | .settle _ _ _ | .tick _ _
  | .endMap _ | .persistWrite _ | .persistCommit _ | .preprocess _ | .exceededOpen _ | .cluster _ | .noPayload
  | .launch _ | .report _ _ | .persistOpen => .isTrue trivial

/-- The final transaction finds an allowed status for every entry. -/
def FindsStatuses (env : Environment) (setting : Setting) (chunk : Chunk) : Action → Prop
  | .persistOpen => setting.transactionMode = .isolated ∨
      ∀ id ∈ chunk.queueEntries, AllowedOutcome env chunk.reports id
  | _ => True

instance (env : Environment) (setting : Setting) (chunk : Chunk) :
    (action : Action) → Decidable (FindsStatuses env setting chunk action)
  | .persistOpen => inferInstanceAs (Decidable (setting.transactionMode = .isolated ∨
      ∀ id ∈ chunk.queueEntries, AllowedOutcome env chunk.reports id))
  | .exceededWrite _ | .exceededCommit _ | .processEvent _ _ | .settle _ _ _ | .write _ _ | .commit _ _ | .tick _ _
  | .endMap _ | .persistWrite _ | .persistCommit _ | .preprocess _ | .exceededOpen _ | .cluster _ | .noPayload
  | .launch _ | .report _ _ => .isTrue trivial

/-- An entry that is not refreshed any more is committed or being written. -/
structure Refreshing (env : Environment) (setting : Setting) (chunk : Chunk) : Prop where
  alive : ∀ id ∈ chunk.queueEntries, id ∉ chunk.commitedStatusMap → id ∈ chunk.notCommitedStatusMap
  marked : chunk.phase = .processing → ∀ id ∈ chunk.queueEntries, id ∈ chunk.commitedStatusMap →
    id ∈ written chunk.committed ∨
      ∃ cluster ∈ chunk.clusters, ∃ tx, cluster.state = .writing tx ∧ id ∈ written tx.updates
  outcomes : (∃ tx, chunk.phase = .persistTx tx) ∨ chunk.phase = .finished →
    setting.transactionMode = .isolated ∨ ∀ id ∈ chunk.queueEntries, AllowedOutcome env chunk.reports id
  quiet : chunk.phase ≠ .processing → ∀ cluster ∈ chunk.clusters, ∀ tx, cluster.state ≠ .writing tx
  steady : chunk.keepAliveViolated = false

theorem Refreshing.alive_mark {chunk : Chunk} (refreshing : Refreshing env setting chunk) (ids : List String) :
    ∀ id ∈ chunk.queueEntries,
      id ∉ (chunk.mark ids).commitedStatusMap → id ∈ (chunk.mark ids).notCommitedStatusMap := by
  intro id listed unmarked
  simp only [Chunk.mark,List.mem_append,not_or] at unmarked
  exact List.mem_filter.mpr ⟨refreshing.alive id listed unmarked.1,by simp [unmarked.2]⟩

theorem Refreshing.setCluster {chunk : Chunk} (refreshing : Refreshing env setting chunk) {index : Nat}
    {cluster : Cluster} (state : ClusterState) (found : chunk.clusters[index]? = some cluster)
    (phase : chunk.phase = .processing)
    (kept : ∀ id tx, cluster.state = .writing tx → id ∈ written tx.updates → id ∈ written chunk.committed ∨
      ∃ next, state = .writing next ∧ id ∈ written next.updates) :
    Refreshing env setting (chunk.setCluster index cluster state) where
  alive := refreshing.alive
  marked := by
    intro _ id listed marked
    rcases refreshing.marked phase id listed marked with done | ⟨other,member,tx,same,inside⟩
    · exact Or.inl done
    · by_cases equal : other = cluster
      · subst equal
        rcases kept id tx same inside with done | ⟨next,continued,more⟩
        · exact Or.inl done
        · exact Or.inr ⟨_,mem_setCluster_self chunk state found,next,continued,more⟩
      · exact Or.inr ⟨other,mem_setCluster_other state found member equal,tx,same,inside⟩
  outcomes := refreshing.outcomes
  quiet away := absurd phase away
  steady := refreshing.steady

theorem Refreshing.leave {chunk next : Chunk} (refreshing : Refreshing env setting chunk)
    (entries : next.queueEntries = chunk.queueEntries) (commited : next.commitedStatusMap = chunk.commitedStatusMap)
    (notCommited : next.notCommitedStatusMap = chunk.notCommitedStatusMap)
    (clusters : next.clusters = chunk.clusters) (violated : next.keepAliveViolated = chunk.keepAliveViolated)
    (settled : chunk.phase = .processing → ∀ cluster ∈ chunk.clusters, Chunk.isSettled cluster)
    (plain : next.phase ≠ .processing ∧ (∀ tx, next.phase ≠ .persistTx tx) ∧ next.phase ≠ .finished) :
    Refreshing env setting next where
  alive := by
    rw [entries,commited,notCommited]
    exact refreshing.alive
  marked same := absurd same plain.1
  outcomes := by
    rintro (⟨tx,same⟩ | same)
    · exact absurd same (plain.2.1 tx)
    · exact absurd same plain.2.2
  quiet := by
    rw [clusters]
    intro _ cluster member tx same
    by_cases phase : chunk.phase = .processing
    · have done := settled phase cluster member
      simp [isSettled,same] at done
    · exact refreshing.quiet phase cluster member tx same
  steady := violated.trans refreshing.steady

theorem Refreshing.stay {chunk next : Chunk} (refreshing : Refreshing env setting chunk)
    (phase : chunk.phase = .processing) (same : next.phase = .processing)
    (entries : next.queueEntries = chunk.queueEntries) (commited : next.commitedStatusMap = chunk.commitedStatusMap)
    (notCommited : next.notCommitedStatusMap = chunk.notCommitedStatusMap)
    (clusters : next.clusters = chunk.clusters)
    (violated : next.keepAliveViolated = false) (grown : written chunk.committed ⊆ written next.committed) :
    Refreshing env setting next where
  alive := by
    rw [entries,commited,notCommited]
    exact refreshing.alive
  marked := by
    rw [entries,commited,clusters]
    exact fun _ id listed marked => (refreshing.marked phase id listed marked).imp_left (fun done => grown done)
  outcomes := by simp [same]
  quiet away := absurd same away
  steady := violated

theorem Refreshing.openExceeded {chunk : Chunk} (refreshing : Refreshing env setting chunk) (now : Nat)
    (job : ExceededJob) (hookThrew : Bool) (jobs : List ExceededJob) (away : chunk.phase ≠ .processing) :
    Refreshing env setting (chunk.openExceeded env now job hookThrew jobs) := by
  unfold Chunk.openExceeded
  simp only
  split
  · exact refreshing.leave rfl rfl rfl rfl rfl (fun same => absurd same away) (by simp)
  · exact refreshing.leave rfl rfl rfl rfl rfl (fun same => absurd same away) (by simp)

theorem Refreshing.handleErrorDuringProcessing {chunk : Chunk} (refreshing : Refreshing env setting chunk)
    {index : Nat} {cluster : Cluster} (error : Value) (found : chunk.clusters[index]? = some cluster)
    (phase : chunk.phase = .processing) (state : cluster.state = .running) :
    Refreshing env setting (chunk.handleErrorDuringProcessing env setting index cluster error) := by
  have added : Refreshing env setting
      (chunk.withAdded (addReports env chunk.statusMap (errorReports cluster.queueEntries error))) :=
    refreshing.stay phase phase rfl rfl rfl rfl refreshing.steady (fun _ member => member)
  exact added.setCluster _ found phase (by simp [state])

theorem Refreshing.report {chunk : Chunk} (refreshing : Refreshing env setting chunk) {index : Nat}
    {cluster : Cluster}
    (outcome : Outcome) (found : chunk.clusters[index]? = some cluster) (phase : chunk.phase = .processing)
    (state : cluster.state = .running) :
    Refreshing env setting (chunk.report env setting index cluster outcome) := by
  cases outcome with
  | thrown error => exact refreshing.handleErrorDuringProcessing error found phase state
  | returned statusTuple =>
    unfold Chunk.report
    simp only
    split
    · split
      · exact refreshing.setCluster _ found phase (by simp [state])
      · exact refreshing.handleErrorDuringProcessing env.typeError found phase state
    · have added : Refreshing env setting
          (chunk.withAdded (setEventStatus env chunk.statusMap cluster.queueEntries statusTuple)) :=
        refreshing.stay phase phase rfl rfl rfl rfl refreshing.steady (fun _ member => member)
      split
      · exact added.setCluster _ found phase (by simp [state])
      · exact added.handleErrorDuringProcessing env.typeError found phase state

theorem Refreshing.write {chunk : Chunk} (refreshing : Refreshing env setting chunk) {index : Nat}
    {cluster : Cluster} {tx : StatusTx} (now : Nat) (ok : Bool) (found : chunk.clusters[index]? = some cluster)
    (phase : chunk.phase = .processing) (state : cluster.state = .writing tx)
    (succeeds : WritesSucceed env setting chunk now (.write index ok)) :
    Refreshing env setting (chunk.write env setting now index cluster tx ok) := by
  obtain ⟨next,moved⟩ := Option.isSome_iff_exists.mp (succeeds cluster found tx (openTx_iff.mpr state))
  have moving : Refreshing env setting (chunk.setCluster index cluster (.writing next)) := by
    refine refreshing.setCluster _ found phase ?_
    intro id current same inside
    rw [state] at same
    cases same
    exact Or.inr ⟨next,rfl,(advance_written_iff moved id).mpr (Or.inl inside)⟩
  unfold Chunk.write
  simp only [moved]
  refine ⟨refreshing.alive_mark tx.nextIds,?_,moving.outcomes,moving.quiet,moving.steady⟩
  intro _ id listed marked
  rcases List.mem_append.mp marked with old | new
  · exact moving.marked phase id listed old
  · exact Or.inr ⟨_,mem_setCluster_self chunk (.writing next) found,next,rfl,
      (advance_written_iff moved id).mpr (Or.inr new)⟩

theorem Refreshing.commit {chunk : Chunk} (refreshing : Refreshing env setting chunk) {index : Nat}
    {cluster : Cluster}
    {tx : StatusTx} (found : chunk.clusters[index]? = some cluster) (phase : chunk.phase = .processing)
    (state : cluster.state = .writing tx) : Refreshing env setting (chunk.commit index cluster tx true) := by
  have grown : Refreshing env setting {chunk with committed := chunk.committed ++ tx.updates} :=
    refreshing.stay phase phase rfl rfl rfl rfl refreshing.steady
      (fun _ member => (mem_written_append _ _ _).mpr (Or.inl member))
  refine grown.setCluster .fulfilled found phase ?_
  intro id current same inside
  rw [state] at same
  cases same
  exact Or.inl ((mem_written_append _ _ _).mpr (Or.inr inside))

theorem Refreshing.step {chunk next : Chunk} (refreshing : Refreshing env setting chunk)
    (complete : Complete env setting chunk) (now : Nat) (action : Action)
    (calm : Calm chunk action) (succeeds : WritesSucceed env setting chunk now action)
    (finds : FindsStatuses env setting chunk action) (taken : Taken env setting chunk now action next) :
    Refreshing env setting next := by
  cases taken with
  | preprocess payloads phase =>
    refine refreshing.leave rfl rfl rfl rfl rfl (by simp [phase]) ?_
    simp only [Chunk.preprocess]
    split <;> simp
  | exceededOpen hookThrew job jobs phase => exact refreshing.openExceeded now job hookThrew jobs (by simp [phase])
  | exceededWrite ok job hookThrew tx jobs phase more =>
    have away : chunk.phase ≠ .processing := by simp [phase]
    have marked : Refreshing env setting (chunk.mark tx.nextIds) :=
      ⟨refreshing.alive_mark tx.nextIds,by simp [Chunk.mark,phase],by simp [Chunk.mark,phase],refreshing.quiet,
        refreshing.steady⟩
    unfold Chunk.exceededWrite
    split
    · exact marked.leave rfl rfl rfl rfl rfl (fun same => absurd same away) (by simp)
    · exact marked.leave rfl rfl rfl rfl rfl (fun same => absurd same away) (by simp)
    · split
      · exact marked.leave rfl rfl rfl rfl rfl (fun same => absurd same away) (by simp)
      · exact marked.openExceeded now _ true jobs away
  | exceededCommit ok job hookThrew tx jobs phase written =>
    unfold Chunk.exceededCommit
    split
    · exact refreshing.leave rfl rfl rfl rfl rfl (by simp [phase]) (by simp)
    · exact refreshing.leave rfl rfl rfl rfl rfl (by simp [phase]) (by simp)
  | noPayload phase none => exact refreshing.leave rfl rfl rfl rfl rfl (by simp [phase]) (by simp)
  | clusterError phase =>
    refine refreshing.leave rfl rfl rfl rfl rfl (by simp [phase]) ?_
    simp only [Chunk.handleErrorOfChunk]
    split <;> simp
  | cluster clusters phase valid =>
    have untouched := complete.untouched (Or.inl (by simp [phase,Early]))
    exact ⟨refreshing.alive,fun _ id listed marked => absurd marked (untouched id listed).1,by simp,by simp,
      refreshing.steady⟩
  | launch index cluster phase found state => exact refreshing.setCluster _ found phase (by simp [state])
  | processEvent index ok cluster phase found state failed =>
    unfold Chunk.processEvent
    split
    · exact refreshing.setCluster _ found phase (by simp [state])
    · split
      · exact refreshing.setCluster _ found phase (by simp [state])
      · have running := refreshing.setCluster .running found phase (by simp [state])
        exact running.stay phase phase rfl rfl rfl rfl refreshing.steady (fun _ member => member)
  | report index outcome cluster phase found state => exact refreshing.report outcome found phase state
  | settle index shouldRollback rollbackOk cluster statusMap phase found state =>
    unfold Chunk.settle
    split
    · exact refreshing.setCluster _ found phase (by simp [state])
    · split
      · exact refreshing.setCluster _ found phase (by simp [state])
      · split <;> exact refreshing.setCluster _ found phase (by simp [state])
  | write index ok cluster tx phase found state more => exact refreshing.write now ok found phase state succeeds
  | commit index ok cluster tx phase found state written =>
    cases succeeds
    exact refreshing.commit found phase state
  | tick found ok phase own =>
    have valid : chunk.outdated found = [] := calm
    unfold Chunk.tick
    split
    · exact refreshing
    · exact refreshing.stay phase phase rfl rfl rfl rfl (by simp [valid]) (fun _ member => member)
  | endMapFailed phase settled => exact refreshing.leave rfl rfl rfl rfl rfl (fun _ => settled) (by simp)
  | endMapRejected phase settled rejected =>
    refine refreshing.leave rfl rfl rfl rfl rfl (fun _ => settled) ?_
    simp only [Chunk.handleErrorOfChunk]
    split <;> simp
  | endMap phase settled fulfilled => exact refreshing.leave rfl rfl rfl rfl rfl (fun _ => settled) (by simp)
  | persistOpen phase =>
    unfold Chunk.persistOpen
    split
    · exact refreshing.leave rfl rfl rfl rfl rfl (by simp [phase]) (by simp)
    · exact ⟨refreshing.alive,by simp,fun _ => finds,fun _ => refreshing.quiet (by simp [phase]),refreshing.steady⟩
  | persistWrite ok tx phase more =>
    have outcomes := refreshing.outcomes (Or.inl ⟨tx,phase⟩)
    have quiet := refreshing.quiet (by simp [phase])
    unfold Chunk.persistWrite
    split
    · exact ⟨refreshing.alive_mark tx.nextIds,by simp,by simp,fun _ => quiet,refreshing.steady⟩
    · exact ⟨refreshing.alive_mark tx.nextIds,by simp,fun _ => outcomes,fun _ => quiet,refreshing.steady⟩
  | persistCommit ok tx phase written =>
    have outcomes := refreshing.outcomes (Or.inl ⟨tx,phase⟩)
    have quiet := refreshing.quiet (by simp [phase])
    unfold Chunk.persistCommit
    split
    · exact ⟨refreshing.alive,by simp,fun _ => outcomes,fun _ => quiet,refreshing.steady⟩
    · exact refreshing.leave rfl rfl rfl rfl rfl (by simp [phase]) (by simp)

def BeingWritten (chunk : Chunk) (id : String) : Prop :=
  ∃ cluster ∈ chunk.clusters, ∃ tx, cluster.state = .writing tx ∧ id ∈ written tx.updates

theorem BeingWritten.setCluster {chunk next : Chunk} {id : String} (writing : BeingWritten chunk id) {index : Nat}
    {cluster : Cluster} (state : ClusterState) (found : chunk.clusters[index]? = some cluster)
    (idle : ∀ tx, cluster.state ≠ .writing tx)
    (changed : next.clusters = (chunk.setCluster index cluster state).clusters) : BeingWritten next id := by
  obtain ⟨other,member,tx,same,inside⟩ := writing
  have differ : other ≠ cluster := fun equal => idle tx (equal ▸ same)
  exact ⟨other,changed ▸ mem_setCluster_other state found member differ,tx,same,inside⟩

theorem BeingWritten.keep {chunk next : Chunk} {id : String} (writing : BeingWritten chunk id)
    (same : next.clusters = chunk.clusters) : BeingWritten next id := by
  obtain ⟨cluster,member,rest⟩ := writing
  exact ⟨cluster,same ▸ member,rest⟩

theorem BeingWritten.step {chunk next : Chunk} {id : String} (writing : BeingWritten chunk id)
    (refreshing : Refreshing env setting chunk) (now : Nat) (action : Action)
    (succeeds : WritesSucceed env setting chunk now action) (taken : Taken env setting chunk now action next) :
    BeingWritten next id ∨ id ∈ written next.committed := by
  have processing : chunk.phase = .processing := by
    by_contra away
    obtain ⟨cluster,member,tx,same,_⟩ := writing
    exact refreshing.quiet away cluster member tx same
  cases taken with
  | launch index cluster phase found state =>
    exact Or.inl (writing.setCluster .launched found (by simp [state]) rfl)
  | processEvent index ok cluster phase found state failed =>
    left
    unfold Chunk.processEvent
    split
    · exact writing.setCluster .rejected found (by simp [state]) rfl
    · split
      · exact writing.setCluster _ found (by simp [state]) rfl
      · exact writing.setCluster .running found (by simp [state]) rfl
  | report index outcome cluster phase found state =>
    left
    unfold Chunk.report
    split
    · exact writing.setCluster _ found (by simp [state]) rfl
    · simp only
      split <;> split <;> exact writing.setCluster _ found (by simp [state]) rfl
  | settle index shouldRollback rollbackOk cluster statusMap phase found state =>
    left
    unfold Chunk.settle
    split
    · exact writing.setCluster _ found (by simp [state]) rfl
    · split
      · exact writing.setCluster _ found (by simp [state]) rfl
      · split <;> exact writing.setCluster _ found (by simp [state]) rfl
  | write index ok cluster tx phase found state more =>
    obtain ⟨result,moved⟩ := Option.isSome_iff_exists.mp (succeeds cluster found tx (openTx_iff.mpr state))
    obtain ⟨other,member,current,same,inside⟩ := writing
    left
    unfold Chunk.write
    simp only [moved]
    by_cases equal : other = cluster
    · subst equal
      rw [state] at same
      cases same
      exact ⟨_,mem_setCluster_self chunk (.writing result) found,result,rfl,
        (advance_written_iff moved id).mpr (Or.inl inside)⟩
    · exact ⟨other,mem_setCluster_other (.writing result) found member equal,current,same,inside⟩
  | commit index ok cluster tx phase found state done =>
    cases succeeds
    obtain ⟨other,member,current,same,inside⟩ := writing
    by_cases equal : other = cluster
    · subst equal
      rw [state] at same
      cases same
      exact Or.inr ((mem_written_append _ _ _).mpr (Or.inr inside))
    · exact Or.inl ⟨other,mem_setCluster_other .fulfilled found member equal,current,same,inside⟩
  | tick found ok phase own =>
    left
    refine writing.keep ?_
    unfold Chunk.tick
    split <;> rfl
  | endMapFailed phase settled => exact Or.inl (writing.keep rfl)
  | endMapRejected phase settled rejected => exact Or.inl (writing.keep rfl)
  | endMap phase settled fulfilled => exact Or.inl (writing.keep rfl)
  | _ => simp_all

end Chunk

namespace System

/-- Every processor still at work has committed a keep-alive tick, or its selection, within the last
`keepAliveMaxInProgressTime`, and no tick sees a violation. -/
def KeepsAlive (config : SelectConfig) (system : System) (entry : Nat × Move) : Prop :=
  (∀ proc ∈ system.procs, proc.chunk.phase ≠ .finished →
    entry.1 < proc.lastTick + config.keepAliveMaxInProgressTime) ∧
  match entry.2 with
  | .act index action => ∀ proc ∈ system.procs[index]?, Chunk.Calm proc.chunk action
  | _ => True

instance (config : SelectConfig) (system : System) :
    (entry : Nat × Move) → Decidable (KeepsAlive config system entry)
  | (now,.act index action) => inferInstanceAs (Decidable ((∀ proc ∈ system.procs, proc.chunk.phase ≠ .finished →
      now < proc.lastTick + config.keepAliveMaxInProgressTime) ∧
        ∀ proc ∈ system.procs[index]?, Chunk.Calm proc.chunk action))
  | (now,.publish _ _) | (now,.select _ _ _) => inferInstanceAs (Decidable ((∀ proc ∈ system.procs,
      proc.chunk.phase ≠ .finished → now < proc.lastTick + config.keepAliveMaxInProgressTime) ∧ True))

def StatusesArrive (env : Environment) (setting : Setting) (system : System) (entry : Nat × Move) : Prop :=
  match entry.2 with
  | .act index action => ∀ proc ∈ system.procs[index]?,
      Chunk.WritesSucceed env setting proc.chunk entry.1 action ∧ Chunk.FindsStatuses env setting proc.chunk action ∧
        system.NoLateWrite index proc.chunk action
  | _ => True

instance (env : Environment) (setting : Setting) (system : System) :
    (entry : Nat × Move) → Decidable (StatusesArrive env setting system entry)
  | (now,.act index action) => inferInstanceAs (Decidable (∀ proc ∈ system.procs[index]?,
      Chunk.WritesSucceed env setting proc.chunk now action ∧ Chunk.FindsStatuses env setting proc.chunk action ∧
        system.NoLateWrite index proc.chunk action))
  | (_,.publish _ _) | (_,.select _ _ _) => .isTrue trivial

/-- Nobody has selected an open entry after a processor that still owes it a status; processors
stand in the order of their selections. -/
def Exclusive (system : System) : Prop :=
  system.procs.Pairwise (fun one other => ∀ id ∈ one.chunk.queueEntries, id ∉ written one.chunk.committed →
    id ∉ other.chunk.selectedEventMap)

instance (system : System) : Decidable system.Exclusive :=
  inferInstanceAs (Decidable (system.procs.Pairwise (fun one other => ∀ id ∈ one.chunk.queueEntries,
    id ∉ written one.chunk.committed → id ∉ other.chunk.selectedEventMap)))

theorem exclusive_iff (system : System) :
    system.Exclusive ↔ ∀ (first second : Nat) (one other : Proc), system.procs[first]? = some one →
      system.procs[second]? = some other → first < second →
        ∀ id ∈ one.chunk.queueEntries, id ∉ written one.chunk.committed → id ∉ other.chunk.selectedEventMap := by
  unfold Exclusive
  rw [List.pairwise_iff_getElem]
  constructor
  · intro pairs first second one other atFirst atSecond before
    obtain ⟨small,rfl⟩ := List.getElem?_eq_some_iff.mp atFirst
    obtain ⟨large,rfl⟩ := List.getElem?_eq_some_iff.mp atSecond
    exact pairs first second small large before
  · intro all first second small large before
    exact all first second _ _ (List.getElem?_eq_getElem small) (List.getElem?_eq_getElem large) before

structure Sound (env : Environment) (setting : Setting) (chunk : Chunk) : Prop where
  base : setting.transactionMode = .isolated → Chunk.Base chunk
  complete : Chunk.Complete env setting chunk
  refreshing : Chunk.Refreshing env setting chunk
  selected : Chunk.WritesSelected chunk

def Fresh (table : Table) (lastTick : Nat) (id : String) : Prop :=
  ∀ row ∈ table.rows, row.ID = id → row.status = EventProcessingStatus.InProgress ∧
    ∃ last, row.lastAttemptTimestamp = some last ∧ lastTick ≤ last

structure Owned (env : Environment) (setting : Setting) (system : System) : Prop where
  sound : ∀ proc ∈ system.procs, Sound env setting proc.chunk
  ticked : ∀ proc ∈ system.procs, proc.lastTick ≤ system.now
  listed : ∀ proc ∈ system.procs, ∀ id ∈ proc.chunk.selectedEventMap, id ∈ system.table.ids
  exclusive : system.Exclusive
  fresh : ∀ proc ∈ system.procs, ∀ id ∈ proc.chunk.queueEntries, id ∉ written proc.chunk.committed →
    Fresh system.table proc.lastTick id ∨ Chunk.BeingWritten proc.chunk id

theorem Owned.publish {system : System} (owned : Owned env setting system) {now : Nat} (later : system.now ≤ now)
    (position : Nat) (row : Row) (fresh : row.ID ∉ system.table.ids) :
    Owned env setting {system with now := now,table := system.table.insert position row fresh} where
  sound := owned.sound
  ticked proc member := (owned.ticked proc member).trans later
  listed := by
    intro proc member id selected
    obtain ⟨old,inside,same⟩ := List.mem_map.mp (owned.listed proc member id selected)
    exact List.mem_map.mpr ⟨old,(Table.mem_insert fresh).mpr (Or.inr inside),same⟩
  exclusive := owned.exclusive
  fresh := by
    intro proc member id own open_
    refine (owned.fresh proc member id own open_).imp_left ?_
    intro kept other inside same
    rcases (Table.mem_insert fresh).mp inside with rfl | old
    · have known := owned.listed proc member id ((owned.sound proc member).selected.entries own)
      exact absurd (same ▸ known) fresh
    · exact kept other old same

theorem locked_of_beingWritten {system : System} {proc : Proc} (member : proc ∈ system.procs) {id : String}
    (writing : Chunk.BeingWritten proc.chunk id) : system.locked id = true := by
  obtain ⟨cluster,inside,tx,same,listed⟩ := writing
  refine List.any_eq_true.mpr ⟨proc,member,?_⟩
  rw [List.contains_iff_mem]
  exact List.mem_flatMap.mpr ⟨tx,(Chunk.mem_openTxs _ _).mpr (Or.inl ⟨cluster,inside,same⟩),listed⟩

theorem Sound.unfinished {chunk : Chunk} (sound : Sound env setting chunk) {id : String}
    (own : id ∈ chunk.queueEntries) (owed : id ∉ written chunk.committed) : chunk.phase ≠ .finished := by
  intro finished
  have condition := (sound.refreshing.outcomes (Or.inr finished)).imp_right (fun all => all id own)
  exact owed ((sound.complete.finished finished id own).mpr condition)

theorem sound_selection (table : Table) (now startTime baseDate : Nat) (delayed : List String) :
    Sound env setting (selection config table now startTime baseDate delayed) where
  base _ := Chunk.base_selected _ _ _ _
  complete := Chunk.complete_selected env setting _ _ _ _ (idsOfKind_nodup config table false startTime baseDate delayed)
  refreshing := ⟨fun _ listed _ => listed,by simp [selection,Chunk.selected],by simp [selection,Chunk.selected],
    by simp [selection,Chunk.selected],rfl⟩
  selected := Chunk.writesSelected_selected _ _ _ _

theorem Owned.spared {system : System} (owned : Owned env setting system) {now startTime baseDate : Nat}
    {delayed : List String} (earlier : baseDate ≤ now)
    (free : ∀ row ∈ system.table.entries config false startTime baseDate delayed, system.locked row.ID = false)
    (alive : ∀ proc ∈ system.procs, proc.chunk.phase ≠ .finished →
      now < proc.lastTick + config.keepAliveMaxInProgressTime)
    {proc : Proc} (member : proc ∈ system.procs) {id : String} (own : id ∈ proc.chunk.queueEntries)
    (owed : id ∉ written proc.chunk.committed) :
    id ∉ (selection config system.table now startTime baseDate delayed).selectedEventMap := by
  intro chosen
  obtain ⟨row,inside,same⟩ := selection_entry chosen
  rcases owned.fresh proc member id own owed with fresh | writing
  · obtain ⟨listed,fits⟩ := mem_entries_rows config inside
    obtain ⟨status,last,known,recent⟩ := fresh row listed same
    have stale := selectable_inProgress config fits status known
    have window := alive proc member ((owned.sound proc member).unfinished own owed)
    omega
  · have held := locked_of_beingWritten member writing
    rw [← same,free row inside] at held
    cases held

theorem Owned.select {system : System} (owned : Owned env setting system) {now startTime baseDate : Nat}
    {delayed : List String} (later : system.now ≤ now) (earlier : baseDate ≤ now)
    (free : ∀ row ∈ system.table.entries config false startTime baseDate delayed, system.locked row.ID = false)
    (alive : ∀ proc ∈ system.procs, proc.chunk.phase ≠ .finished →
      now < proc.lastTick + config.keepAliveMaxInProgressTime) :
    Owned env setting ⟨now,system.table.setToInProgress
      (selection config system.table now startTime baseDate delayed).selectedEventMap now,
      system.procs ++ [⟨selection config system.table now startTime baseDate delayed,now⟩]⟩ where
  sound proc member := by
    rcases List.mem_append.mp member with old | new
    · exact owned.sound proc old
    · rw [List.mem_singleton] at new
      exact new ▸ sound_selection system.table now startTime baseDate delayed
  ticked proc member := by
    rcases List.mem_append.mp member with old | new
    · exact (owned.ticked proc old).trans later
    · rw [List.mem_singleton] at new
      subst new
      exact Nat.le_refl now
  listed proc member id selected := by
    rw [Table.setToInProgress,Table.ids_change]
    rcases List.mem_append.mp member with old | new
    · exact owned.listed proc old id selected
    · rw [List.mem_singleton] at new
      subst new
      obtain ⟨row,inside,rfl⟩ := selection_entry selected
      exact List.mem_map_of_mem (mem_entries_rows config inside).1
  exclusive := by
    rw [exclusive_iff]
    intro first second one other found again before id own owed
    have small : first < system.procs.length := by
      have bound := (List.getElem?_eq_some_iff.mp again).1
      simp only [List.length_append,List.length_singleton] at bound
      omega
    simp only [List.getElem?_append_left small] at found
    have member := List.mem_of_getElem? found
    by_cases old : second < system.procs.length
    · simp only [List.getElem?_append_left old] at again
      exact (exclusive_iff system).mp owned.exclusive first second one other found again before id own owed
    · simp only [List.getElem?_append_right (Nat.le_of_not_lt old)] at again
      have new := List.mem_of_getElem? again
      rw [List.mem_singleton] at new
      subst new
      exact owned.spared earlier free alive member own owed
  fresh proc member id own owed := by
    rcases List.mem_append.mp member with old | new
    · refine (owned.fresh proc old id own owed).imp_left ?_
      intro kept row inside same
      have spared := owned.spared earlier free alive old own owed
      obtain ⟨before,listed,key,changed⟩ := Table.mem_setToInProgress inside
      rw [if_neg (by rw [key,same]; exact spared)] at changed
      exact kept row (changed ▸ listed) same
    · rw [List.mem_singleton] at new
      subst new
      left
      intro row inside same
      have chosen := (Chunk.writesSelected_selected _ _ _ _).entries own
      obtain ⟨before,listed,key,changed⟩ := Table.mem_setToInProgress inside
      rw [if_pos (by rw [key,same]; exact chosen)] at changed
      subst changed
      exact ⟨rfl,now,rfl,Nat.le_refl now⟩

theorem Sound.step {chunk next : Chunk} (sound : Sound env setting chunk) {now : Nat} {action : Chunk.Action}
    (calm : Chunk.Calm chunk action) (succeeds : Chunk.WritesSucceed env setting chunk now action)
    (finds : Chunk.FindsStatuses env setting chunk action) (moved : Chunk.Taken env setting chunk now action next) :
    Sound env setting next where
  base isolated := (sound.base isolated).step now action isolated moved
  complete := sound.complete.step sound.base now action calm moved
  refreshing := sound.refreshing.step sound.complete now action calm succeeds finds moved
  selected := sound.selected.step moved

theorem Fresh.after {table : Table} {lastTick now : Nat} {id : String} (fresh : Fresh table lastTick id)
    (later : lastTick ≤ now) (chunk : Chunk) (action : Chunk.Action)
    (untouched : ∀ update ∈ chunk.commits action, id ∉ update.ids) :
    Fresh (tableAfter table chunk now action) lastTick id := by
  intro row member same
  unfold tableAfter at member
  split at member
  · split at member
    · exact fresh row member same
    · obtain ⟨old,inside,rfl⟩ := List.mem_map.mp member
      split at same
      · rename_i refreshed
        have kept := fresh old inside same
        simp only [refreshed,if_true]
        exact ⟨kept.1,now,rfl,later⟩
      · rename_i other
        simp only [other,if_false]
        exact fresh old inside same
  · obtain ⟨old,inside,rfl⟩ := List.mem_map.mp member
    rw [apply_ID] at same
    rw [apply_other _ _ (fun update own => same ▸ untouched update own)]
    exact fresh old inside same

theorem Fresh.ticked {table : Table} {lastTick now : Nat} {id : String} (fresh : Fresh table lastTick id)
    {chunk : Chunk} {found : List (String × Option Nat)} (open_ : id ∈ chunk.notCommitedStatusMap)
    (read : found = table.inProgress chunk.notCommitedStatusMap) (calm : chunk.outdated found = [])
    (steady : chunk.keepAliveViolated = false) : Fresh (tableAfter table chunk now (.tick found true)) now id := by
  intro row member same
  simp only [tableAfter,steady] at member
  obtain ⟨old,inside,rfl⟩ := List.mem_map.mp member
  have key : old.ID = id := by
    split at same <;> exact same
  obtain ⟨status,last,known,_⟩ := fresh old inside key
  have seen : (old.ID,old.lastAttemptTimestamp) ∈ found := by
    rw [read]
    refine List.mem_map_of_mem (List.mem_filter.mpr ⟨inside,?_⟩)
    simp [key,open_,status]
  have valid : old.ID ∈ chunk.valid found := by
    refine List.mem_map.mpr ⟨_,List.mem_filter.mpr ⟨seen,?_⟩,rfl⟩
    by_contra foreign
    have outdated : old.ID ∈ chunk.outdated found :=
      List.mem_map.mpr ⟨_,List.mem_filter.mpr
        ⟨seen,by simpa only [Bool.not_eq_true',Bool.not_eq_true] using foreign⟩,rfl⟩
    simp [calm] at outdated
  simp only [valid,if_true]
  exact ⟨status,now,rfl,Nat.le_refl now⟩

theorem Owned.untouched {system : System} (owned : Owned env setting system) {index position : Nat}
    {proc other : Proc}
    {action : Chunk.Action} (found : system.procs[index]? = some proc) (at_ : system.procs[position]? = some other)
    (differ : position ≠ index) (late : system.NoLateWrite index proc.chunk action) {id : String}
    (own : id ∈ other.chunk.queueEntries) (owed : id ∉ written other.chunk.committed) :
    ∀ update ∈ proc.chunk.commits action, id ∉ update.ids := by
  intro update member listed
  have selected := (owned.sound other (List.mem_of_getElem? at_)).selected.entries own
  rcases Nat.lt_or_gt_of_ne differ with before | after
  · have chosen := (owned.sound proc (List.mem_of_getElem? found)).selected.commits member listed
    exact (exclusive_iff system).mp owned.exclusive position index other proc at_ found before id own owed chosen
  · exact late update member id listed other (Parties.mem_later at_ after) selected

theorem Owned.actFresh {system : System} (owned : Owned env setting system) {now index : Nat}
    (later : system.now ≤ now) {action : Chunk.Action} {proc : Proc} {next : Chunk}
    (found : system.procs[index]? = some proc) (reads : system.tickReads proc.chunk action = true)
    (calm : Chunk.Calm proc.chunk action) (succeeds : Chunk.WritesSucceed env setting proc.chunk now action)
    (moved : Chunk.Taken env setting proc.chunk now action next) {id : String}
    (own : id ∈ proc.chunk.queueEntries) (owed : id ∉ written next.committed) :
    Fresh (tableAfter system.table proc.chunk now action) (tickAfter proc now action) id ∨
      Chunk.BeingWritten next id := by
  have mine := List.mem_of_getElem? found
  have sound := owned.sound proc mine
  have open_ : id ∉ written proc.chunk.committed ∧ ∀ update ∈ proc.chunk.commits action, id ∉ update.ids := by
    rw [moved.committed,mem_written_append,not_or] at owed
    exact ⟨owed.1,fun update member listed => owed.2 (List.mem_flatMap.mpr ⟨update,member,listed⟩)⟩
  have writing : Chunk.BeingWritten proc.chunk id → Chunk.BeingWritten next id :=
    fun writing => (writing.step sound.refreshing now action succeeds moved).resolve_right owed
  rcases owned.fresh proc mine id own open_.1 with fresh | locked
  · by_cases ticks : ∃ rows, action = .tick rows true
    · obtain ⟨rows,rfl⟩ := ticks
      have phase : proc.chunk.phase = .processing := by
        cases moved with
        | tick _ _ phase _ => exact phase
      by_cases marked : id ∈ proc.chunk.commitedStatusMap
      · exact Or.inr (writing ((sound.refreshing.marked phase id own marked).resolve_left open_.1))
      · simp only [tickReads,Bool.and_eq_true,decide_eq_true_eq] at reads
        exact Or.inl (fresh.ticked (sound.refreshing.alive id own marked) reads.1 calm sound.refreshing.steady)
    · have same : tickAfter proc now action = proc.lastTick := by
        unfold tickAfter
        split
        · exact absurd ⟨_,rfl⟩ ticks
        · rfl
      rw [same]
      exact Or.inl (fresh.after ((owned.ticked proc mine).trans later) proc.chunk action open_.2)
  · exact Or.inr (writing locked)

theorem Owned.act {system : System} (owned : Owned env setting system) {now index : Nat} (later : system.now ≤ now)
    {action : Chunk.Action} {proc : Proc} {next : Chunk} (found : system.procs[index]? = some proc)
    (reads : system.tickReads proc.chunk action = true) (calm : Chunk.Calm proc.chunk action)
    (succeeds : Chunk.WritesSucceed env setting proc.chunk now action)
    (finds : Chunk.FindsStatuses env setting proc.chunk action) (late : system.NoLateWrite index proc.chunk action)
    (moved : Chunk.Taken env setting proc.chunk now action next) :
    Owned env setting ⟨now,tableAfter system.table proc.chunk now action,
      system.procs.set index ⟨next,tickAfter proc now action⟩⟩ := by
  have mine := List.mem_of_getElem? found
  obtain ⟨entries,selected⟩ := moved.selection
  have older : ∀ (position : Nat) (other : Proc),
      (system.procs.set index ⟨next,tickAfter proc now action⟩)[position]? = some other →
      ∃ old : Proc, system.procs[position]? = some old ∧ other.chunk.queueEntries = old.chunk.queueEntries ∧
        other.chunk.selectedEventMap = old.chunk.selectedEventMap ∧
        written old.chunk.committed ⊆ written other.chunk.committed := by
    intro position other at_
    rcases Parties.getElem?_moved found at_ with ⟨rfl,rfl⟩ | ⟨_,old⟩
    · refine ⟨proc,found,entries,selected,?_⟩
      rw [moved.committed]
      exact fun id done => (mem_written_append _ _ _).mpr (Or.inl done)
    · exact ⟨other,old,rfl,rfl,fun _ done => done⟩
  refine ⟨?_,?_,?_,?_,?_⟩
  · exact Parties.forall_mem_moved owned.sound ((owned.sound proc mine).step calm succeeds finds moved)
  · intro other member
    rcases List.mem_or_eq_of_mem_set member with old | rfl
    · exact (owned.ticked other old).trans later
    · unfold tickAfter
      split
      · exact Nat.le_refl now
      · exact (owned.ticked proc mine).trans later
  · intro other member id chosen
    rw [tableAfter_ids]
    rcases List.mem_or_eq_of_mem_set member with old | rfl
    · exact owned.listed other old id chosen
    · exact owned.listed proc mine id (selected ▸ chosen)
  · rw [exclusive_iff]
    intro first second one other atFirst atSecond before id own owed
    obtain ⟨oneBefore,oneAt,sameEntries,_,grown⟩ := older first one atFirst
    obtain ⟨otherBefore,otherAt,_,sameMap,_⟩ := older second other atSecond
    rw [sameMap]
    exact (exclusive_iff system).mp owned.exclusive first second oneBefore otherBefore oneAt otherAt before id
      (sameEntries ▸ own)
      (fun done => owed (grown done))
  · intro other member id own owed
    obtain ⟨position,at_⟩ := List.mem_iff_getElem?.mp member
    rcases Parties.getElem?_moved found at_ with ⟨_,rfl⟩ | ⟨differ,old⟩
    · exact owned.actFresh later found reads calm succeeds moved (entries ▸ own) owed
    · have inside := List.mem_of_getElem? old
      refine (owned.fresh other inside id own owed).imp_left ?_
      exact fun fresh => fresh.after ((owned.ticked other inside).trans later) proc.chunk action
        (owned.untouched found old differ late own owed)

theorem Owned.step {system next : System} (owned : Owned env setting system) (entry : Nat × Move)
    (alive : KeepsAlive config system entry) (arrive : StatusesArrive env setting system entry)
    (taken : system.step env setting config entry = some next) : Owned env setting next := by
  obtain ⟨now,move⟩ := entry
  obtain ⟨later,known⟩ := step_taken env setting config system next now move taken
  cases known with
  | publish position row fresh => exact owned.publish later position row fresh
  | select startTime baseDate delayed earlier free => exact owned.select later earlier free alive.1
  | act index action proc chunk found reads moved =>
    obtain ⟨succeeds,finds,late⟩ := arrive proc found
    exact owned.act later found reads (alive.2 proc found) succeeds finds late moved

/-- In every run in which processors keep their entries alive and their statuses arrive, no
processor selects an open entry that another one still owes a status. -/
theorem entry_owned_exclusively (env : Environment) (setting : Setting) (config : SelectConfig) (table : Table)
    (start : Nat) (entries : List (Nat × Move)) (system : System)
    (guarded : Transition.Along (step env setting config)
      (fun system entry => KeepsAlive config system entry ∧ StatusesArrive env setting system entry)
      ⟨start,table,[]⟩ entries)
    (reached : Transition.run (step env setting config) ⟨start,table,[]⟩ entries = some system) :
    system.Exclusive := by
  refine (Transition.invariant (step env setting config) _ (Owned env setting) ?_ _ _ _ ?_ guarded reached).exclusive
  · rintro state entry next owned ⟨alive,arrive⟩ taken
    exact owned.step entry alive arrive taken
  · exact ⟨by simp,by simp,by simp,by simp [Exclusive],by simp⟩

/-- The first processor selects both entries, commits the first one or fails to, keeps the second one
alive while it is processed, and a second processor selects. -/
def sharedEntries (ok : Bool) : List (Nat × Move) :=
  [(1,.select 1 1 []),(1,.act 0 (.preprocess (fun _ => .value))),
    (1,.act 0 (.cluster (some [("e1",["e1"]),("e2",["e2"])]))),(2,.act 0 (.launch 0)),(2,.act 0 (.launch 1)),
    (3,.act 0 (.processEvent 0 true)),(3,.act 0 (.processEvent 1 true)),
    (4,.act 0 (.report 0 (.returned (.arr [.arr [.str "e1",.nat EventProcessingStatus.Done]])))),
    (5,.act 0 (.settle 0 false true)),(5,.act 0 (.write 0 true)),(6,.act 0 (.commit 0 ok)),
    (50,.act 0 (.tick [("e2",some 1)] true)),(100,.act 0 (.tick [("e2",some 50)] true)),(101,.select 101 101 [])]

theorem entry_owned_exclusively_two_processors :
    ∃ system, Transition.run (step .plain twoAtATime window) ⟨0,twoEntries,[]⟩ (sharedEntries true) = some system ∧
      system.procs.length = 2 ∧ system.Exclusive := by
  have computed : (Transition.run (step .plain twoAtATime window) ⟨0,twoEntries,[]⟩ (sharedEntries true)).map
      (fun system => system.procs.length) = some 2 := by decide
  obtain ⟨system,reached,length⟩ := Option.map_eq_some_iff.mp computed
  exact ⟨system,reached,length,
    entry_owned_exclusively .plain twoAtATime window twoEntries 0 _ system (by decide) reached⟩

/-- The commit of the first entry fails: nobody refreshes it any more and the second processor takes it. -/
theorem failed_commit_loses_entry :
    ∃ system, Transition.Along (step .plain twoAtATime window) (KeepsAlive window) ⟨0,twoEntries,[]⟩
        (sharedEntries false) ∧
      Transition.run (step .plain twoAtATime window) ⟨0,twoEntries,[]⟩ (sharedEntries false) = some system ∧
      ¬ system.Exclusive := by
  have computed : (Transition.run (step .plain twoAtATime window) ⟨0,twoEntries,[]⟩ (sharedEntries false)).map
      (fun system => decide system.Exclusive) = some false := by decide
  obtain ⟨system,reached,failed⟩ := Option.map_eq_some_iff.mp computed
  exact ⟨system,by decide,reached,of_decide_eq_false failed⟩

end System

end EventQueue

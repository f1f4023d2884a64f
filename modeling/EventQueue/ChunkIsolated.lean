import EventQueue.Chunk
import EventQueue.Lib.Parties

/-! Chunks in transaction mode isolated: what `__statusMap` and the status transactions can hold. -/
namespace EventQueue.Chunk
open Js (Value)

variable {env : Environment} {setting : Setting}

/-- A returned value names entries of the handler's own cluster only. -/
def Own (env : Environment) (chunk : Chunk) : Action → Prop
  | .report index (.returned statusTuple) => ∀ cluster ∈ chunk.clusters[index]?,
      ∀ report ∈ (reportsOf env statusTuple).1, report.id ∈ cluster.queueEntries
  | _ => True

instance (env : Environment) (chunk : Chunk) : (action : Action) → Decidable (Own env chunk action)
  | .report index (.returned statusTuple) => inferInstanceAs (Decidable (∀ cluster ∈ chunk.clusters[index]?,
      ∀ report ∈ (reportsOf env statusTuple).1, report.id ∈ cluster.queueEntries))
  | .report _ (.thrown _) => .isTrue trivial
  | .preprocess _ | .exceededOpen _ | .exceededWrite _ | .exceededCommit _ | .cluster _ | .noPayload | .launch _
  | .processEvent _ _ | .settle _ _ _ | .write _ _ | .commit _ _ | .tick _ _ | .endMap _ | .persistOpen
  | .persistWrite _ | .persistCommit _ => .isTrue trivial

structure Base (chunk : Chunk) : Prop where
  initial : chunk.phase = .preprocessing → chunk.clusters = [] ∧ chunk.statusMap = Dict.empty ∧ chunk.committed = []
  selected : chunk.queueEntries ⊆ chunk.selectedEventMap
  payload : chunk.queueEntriesWithPayloadMap ⊆ chunk.queueEntries
  obsolete : ∀ id ∈ chunk.obsolete, id ∉ chunk.queueEntriesWithPayloadMap
  clustered : ∀ cluster ∈ chunk.clusters, cluster.queueEntries ⊆ chunk.queueEntriesWithPayloadMap
  statusMap : ∀ id value, chunk.statusMap.get? id = some value → id ∈ chunk.queueEntries ∧
    (Stands EventProcessingStatus.Error value ∨ Stands EventProcessingStatus.Done value ∧ id ∈ chunk.obsolete)
  exceeded : ∀ job hookThrew tx jobs, chunk.phase = .exceededTx job hookThrew tx jobs →
    ∀ id status, (id,status) ∈ tx.writes → id ∈ job.ids ∧
      (status = EventProcessingStatus.Error ∨ status = EventProcessingStatus.Exceeded)

theorem mem_setCluster {chunk : Chunk} {index : Nat} {cluster other : Cluster} {state : ClusterState}
    (member : other ∈ (chunk.setCluster index cluster state).clusters) :
    other = {cluster with state := state} ∨ other ∈ chunk.clusters := by
  rcases List.mem_or_eq_of_mem_set member with old | new
  · exact Or.inr old
  · exact Or.inl new

theorem mem_setCluster_other {chunk : Chunk} {index : Nat} {cluster other : Cluster} (state : ClusterState)
    (found : chunk.clusters[index]? = some cluster) (member : other ∈ chunk.clusters) (differ : other ≠ cluster) :
    other ∈ (chunk.setCluster index cluster state).clusters := by
  obtain ⟨position,small,rfl⟩ := List.mem_iff_getElem.mp member
  have apart : index ≠ position := by
    rintro rfl
    rw [List.getElem?_eq_getElem small] at found
    exact differ (Option.some.inj found)
  refine List.mem_of_getElem? (i := position) ?_
  simp [Chunk.setCluster,List.getElem?_set_ne apart,List.getElem?_eq_getElem small]

theorem mem_setCluster_self (chunk : Chunk) {index : Nat} {cluster : Cluster} (state : ClusterState)
    (found : chunk.clusters[index]? = some cluster) :
    {cluster with state := state} ∈ (chunk.setCluster index cluster state).clusters := by
  obtain ⟨small,_⟩ := List.getElem?_eq_some_iff.mp found
  exact List.mem_set small _

theorem Base.setCluster {chunk : Chunk} (base : Base chunk) {index : Nat} {cluster : Cluster} (state : ClusterState)
    (found : chunk.clusters[index]? = some cluster) : Base (chunk.setCluster index cluster state) where
  initial phase := by
    rw [(base.initial phase).1] at found
    cases found
  selected := base.selected
  payload := base.payload
  obsolete := base.obsolete
  clustered := by
    apply Parties.forall_mem_moved base.clustered
    exact base.clustered cluster (List.mem_of_getElem? found)
  statusMap := base.statusMap
  exceeded := base.exceeded

theorem Base.addErrors (env : Environment) {chunk : Chunk} (base : Base chunk) (ids : List String) (error : Value)
    (own : ids ⊆ chunk.queueEntries) (later : chunk.phase ≠ .preprocessing) :
    Base (chunk.withAdded (addReports env chunk.statusMap (errorReports ids error))) where
  initial phase := absurd phase later
  selected := base.selected
  payload := base.payload
  obsolete := base.obsolete
  clustered := base.clustered
  statusMap := by
    intro id value found
    rcases addReports_get env _ _ _ _ found with old | ⟨report,member,rfl,rfl⟩
    · exact base.statusMap id value old
    · obtain ⟨entry,listed,rfl⟩ := List.mem_map.mp member
      exact ⟨own listed,Or.inl (stands_updateDataOf _ _)⟩
  exceeded := base.exceeded

theorem Base.withPhase {chunk : Chunk} (base : Base chunk) (phase : Phase)
    (later : phase ≠ .preprocessing) (plain : ∀ job hookThrew tx jobs, phase ≠ .exceededTx job hookThrew tx jobs) :
    Base {chunk with phase := phase} :=
  { base with
    initial := fun same => absurd same later
    exceeded := fun job hookThrew tx jobs same => absurd same (plain job hookThrew tx jobs) }

theorem Base.mark {chunk : Chunk} (base : Base chunk) (ids : List String) : Base (chunk.mark ids) :=
  {base with}

theorem Base.withHistory {chunk : Chunk} (base : Base chunk) (committed : List Update) (invoked : List String)
    (later : chunk.phase ≠ .preprocessing) : Base {chunk with committed := committed,invoked := invoked} :=
  {base with initial := fun same => absurd same later}

theorem Base.tick {chunk : Chunk} (base : Base chunk) (now : Nat) (found : List (String × Option Nat)) :
    Base (chunk.tick now found) := by
  unfold Chunk.tick
  split
  · exact base
  · exact {base with}

theorem validClusters_subset {withPayload : List String} {clusters : List (String × List String)}
    (valid : validClusters withPayload clusters = true) (cluster : String × List String)
    (member : cluster ∈ clusters) :
    cluster.2 ⊆ withPayload := by
  simp only [validClusters,Bool.and_eq_true,List.all_eq_true,List.contains_iff_mem] at valid
  exact fun id listed => (valid.2 cluster member).2 id listed

theorem exceededStatusMap_get (ids : List String) (status : Nat) (id : String) (value : Value)
    (found : (exceededStatusMap ids status).get? id = some value) : id ∈ ids ∧ Stands status value := by
  rw [exceededStatusMap,Dict.get?_setAll] at found
  split at found
  · rename_i listed
    cases found
    exact ⟨listed,stands_updateDataOf _ _⟩
  · cases found

theorem opened_writes {now : Nat} {selectedEventMap : List String} {statusMap : Dict Value} {tx : StatusTx}
    (opened : (persistChecked selectedEventMap statusMap).bind (StatusTx.open env now) = some tx)
    {id : String} {status : Nat} (written : (id,status) ∈ tx.writes) :
    id ∈ selectedEventMap ∧ status ∈ allowedStatuses ∧
      ∃ value, statusMap.get? id = some value ∧ Stands status value := by
  obtain ⟨checked,known,opened⟩ := Option.bind_eq_some_iff.mp opened
  have allowed : ∀ name data, checked.get? name = some data → data.hasStatus allowedStatuses = true :=
    fun name data found => ((persistChecked_get _ _ _ known name data).mp found).2.1
  obtain ⟨data,found,numbered⟩ := (open_writes env now checked tx allowed opened id status).mp written
  obtain ⟨listed,_,normalized⟩ := (persistChecked_get _ _ _ known id data).mp found
  obtain ⟨value,present,entry⟩ := Option.bind_eq_some_iff.mp normalized
  obtain ⟨member,same⟩ := (statusNumber_iff data status).mp numbered
  exact ⟨listed,member,value,present,data,entry,same⟩

theorem filled_allowed {selectedEventMap queueEntries commited outdated : List String} {statusMap : Dict Value}
    {filled : Dict UpdateData} (selected : queueEntries ⊆ selectedEventMap)
    (known : persistFilled selectedEventMap queueEntries commited outdated statusMap = some filled) :
    ∀ id data, filled.get? id = some data → data.hasStatus allowedStatuses = true := by
  intro id data found
  rcases (persistFilled_get _ _ _ _ _ _ known selected id data).mp found with ⟨_,allowed,_⟩ | ⟨_,_,_,_,rfl⟩
  · exact allowed
  · simp [hasStatus_iff,UpdateData.ofStatus,allowedStatuses]

theorem filled_writes {now : Nat} {selectedEventMap queueEntries commited outdated : List String}
    {statusMap : Dict Value} {tx : StatusTx} (selected : queueEntries ⊆ selectedEventMap)
    (opened : (persistFilled selectedEventMap queueEntries commited outdated statusMap).bind
      (StatusTx.open env now) = some tx)
    {id : String} {status : Nat} (written : (id,status) ∈ tx.writes) :
    (∃ value, statusMap.get? id = some value ∧ Stands status value) ∨
      status = EventProcessingStatus.Done ∧ statusMap.get? id = none ∧ id ∈ queueEntries ∧ id ∉ commited ∧
        id ∉ outdated := by
  obtain ⟨filled,known,opened⟩ := Option.bind_eq_some_iff.mp opened
  have spec := persistFilled_get _ _ _ _ _ _ known selected
  obtain ⟨data,found,numbered⟩ :=
    (open_writes env now filled tx (filled_allowed selected known) opened id status).mp written
  obtain ⟨_,same⟩ := (statusNumber_iff data status).mp numbered
  rcases (spec id data).mp found with ⟨_,_,normalized⟩ | ⟨absent,listed,fresh,valid,rfl⟩
  · obtain ⟨value,present,entry⟩ := Option.bind_eq_some_iff.mp normalized
    exact Or.inl ⟨value,present,data,entry,same⟩
  · exact Or.inr ⟨(nat_injective (Option.some.inj same)).symm,absent,listed,fresh,valid⟩

theorem filled_written_iff {now : Nat} {selectedEventMap queueEntries commited outdated : List String}
    {statusMap : Dict Value} {tx : StatusTx} (selected : queueEntries ⊆ selectedEventMap)
    (opened : (persistFilled selectedEventMap queueEntries commited outdated statusMap).bind
      (StatusTx.open env now) = some tx) (id : String) :
    (∃ status, (id,status) ∈ tx.writes) ↔
      (id ∈ selectedEventMap ∧ ∃ data, (statusMap.get? id).bind normalizeEntry = some data ∧
        data.hasStatus allowedStatuses = true) ∨
      statusMap.get? id = none ∧ id ∈ queueEntries ∧ id ∉ commited ∧ id ∉ outdated := by
  obtain ⟨filled,known,opened⟩ := Option.bind_eq_some_iff.mp opened
  have spec := persistFilled_get _ _ _ _ _ _ known selected
  have allowed := filled_allowed selected known
  have writes := open_writes env now filled tx allowed opened id
  constructor
  · rintro ⟨status,written⟩
    obtain ⟨data,found,_⟩ := (writes status).mp written
    rcases (spec id data).mp found with ⟨listed,fits,normalized⟩ | ⟨absent,listed,fresh,valid,_⟩
    · exact Or.inl ⟨listed,data,normalized,fits⟩
    · exact Or.inr ⟨absent,listed,fresh,valid⟩
  · rintro (⟨listed,data,normalized,fits⟩ | ⟨absent,listed,fresh,valid⟩)
    · obtain ⟨status,numbered⟩ := (hasStatus_allowed_iff data).mp fits
      exact ⟨status,(writes status).mpr ⟨data,(spec id data).mpr (Or.inl ⟨listed,fits,normalized⟩),numbered⟩⟩
    · have found := (spec id _).mpr (Or.inr ⟨absent,listed,fresh,valid,rfl⟩)
      obtain ⟨status,numbered⟩ := (hasStatus_allowed_iff _).mp (allowed id _ found)
      exact ⟨status,(writes status).mpr ⟨_,found,numbered⟩⟩

theorem stands_unique {first second : Nat} {value : Value} (one : Stands first value)
    (other : Stands second value) :
    first = second := by
  obtain ⟨data,normalized,status⟩ := one
  obtain ⟨same,again,number⟩ := other
  rw [normalized] at again
  cases again
  rw [status] at number
  exact nat_injective (Option.some.inj number)

theorem Base.openExceeded {chunk : Chunk} (base : Base chunk) (now : Nat) (job : ExceededJob) (hookThrew : Bool)
    (jobs : List ExceededJob) : Base (chunk.openExceeded env now job hookThrew jobs) := by
  unfold Chunk.openExceeded
  simp only
  split
  · exact base.withPhase _ (by simp) (by simp)
  · rename_i tx opened
    refine ⟨by simp,base.selected,base.payload,base.obsolete,base.clustered,base.statusMap,?_⟩
    intro other threw current rest same id status written
    cases same
    obtain ⟨_,_,value,found,stands⟩ := opened_writes opened written
    obtain ⟨listed,fixed⟩ := exceededStatusMap_get _ _ _ _ found
    refine ⟨listed,?_⟩
    rw [stands_unique stands fixed]
    cases hookThrew with
    | true => exact Or.inl rfl
    | false => exact Or.inr rfl

theorem advance_writes {now : Nat} {ok : Bool} {tx next : StatusTx}
    (moved : advance env setting now ok tx = some next) : next.writes = tx.writes := by
  unfold advance at moved
  split at moved
  · exact writeNext_writes env _ _ _ _ moved
  · cases moved

theorem advance_written_iff {now : Nat} {ok : Bool} {tx next : StatusTx}
    (moved : advance env setting now ok tx = some next) (id : String) :
    id ∈ written next.updates ↔ id ∈ written tx.updates ∨ id ∈ tx.nextIds := by
  unfold advance at moved
  split at moved
  · exact writeNext_written env _ _ _ _ moved id
  · cases moved

theorem Base.preprocess {chunk : Chunk} (base : Base chunk) (payloads : String → Payload)
    (phase : chunk.phase = .preprocessing) : Base (chunk.preprocess env payloads) where
  initial same := by
    simp only [Chunk.preprocess] at same
    split at same <;> cases same
  selected := base.selected
  payload _ member := (List.mem_filter.mp member).1
  obsolete := by
    intro id member inside
    obtain ⟨_,null⟩ := List.mem_filter.mp member
    obtain ⟨_,none⟩ := List.mem_filter.mp inside
    revert null none
    unfold preprocessReport
    cases payloads id <;> simp
  clustered := by
    intro cluster member
    simp [Chunk.preprocess,withAdded,(base.initial phase).1] at member
  statusMap := by
    intro id value found
    rcases addReports_get env _ _ _ _ found with old | ⟨report,member,rfl,rfl⟩
    · rw [(base.initial phase).2.1] at old
      cases old
    · obtain ⟨entry,listed,given⟩ := List.mem_filterMap.mp member
      unfold preprocessReport at given
      split at given
      · rename_i null
        cases given
        exact ⟨listed,Or.inr ⟨stands_updateDataOf _ _,List.mem_filter.mpr ⟨listed,by simp [null]⟩⟩⟩
      · cases given
        exact ⟨listed,Or.inl (stands_updateDataOf _ _)⟩
      · cases given
        exact ⟨listed,Or.inl (stands_updateDataOf _ _)⟩
      · cases given
  exceeded := by
    intro job hookThrew tx jobs same
    simp only [Chunk.preprocess] at same
    split at same <;> cases same

theorem Base.handleErrorDuringProcessing {chunk : Chunk} (base : Base chunk) {index : Nat} {cluster : Cluster}
    (error : Value) (found : chunk.clusters[index]? = some cluster) (phase : chunk.phase = .processing) :
    Base (chunk.handleErrorDuringProcessing env setting index cluster error) := by
  have own : cluster.queueEntries ⊆ chunk.queueEntries :=
    fun _ member => base.payload (base.clustered cluster (List.mem_of_getElem? found) member)
  exact (base.addErrors env cluster.queueEntries error own (by simp [phase])).setCluster _ found

theorem Base.handleErrorOfChunk {chunk : Chunk} (base : Base chunk) (later : chunk.phase ≠ .preprocessing) :
    Base (chunk.handleErrorOfChunk env) := by
  refine (base.addErrors env chunk.queueEntries .undefined (fun _ member => member) later).withPhase _ ?_ ?_
  · split <;> simp
  · split <;> simp

theorem Base.report {chunk : Chunk} (base : Base chunk) {index : Nat} {cluster : Cluster} (outcome : Outcome)
    (found : chunk.clusters[index]? = some cluster) (phase : chunk.phase = .processing)
    (isolated : setting.transactionMode = .isolated) : Base (chunk.report env setting index cluster outcome) := by
  cases outcome with
  | thrown error => exact base.handleErrorDuringProcessing error found phase
  | returned statusTuple =>
    simp only [Chunk.report,isolated,if_true]
    split
    · exact base.setCluster _ found
    · exact base.handleErrorDuringProcessing env.typeError found phase

theorem Base.settle {chunk : Chunk} (base : Base chunk) {index : Nat} {cluster : Cluster} (statusMap : Dict Value)
    (now : Nat) (shouldRollback rollbackOk : Bool) (found : chunk.clusters[index]? = some cluster) :
    Base (chunk.settle env now index cluster statusMap shouldRollback rollbackOk) := by
  unfold Chunk.settle
  split
  · exact base.setCluster _ found
  · split
    · exact base.setCluster _ found
    · split <;> exact base.setCluster _ found

theorem Base.exceededWrite {chunk : Chunk} (base : Base chunk) {job : ExceededJob} {hookThrew : Bool}
    {tx : StatusTx}
    {jobs : List ExceededJob} (now : Nat) (ok : Bool) (phase : chunk.phase = .exceededTx job hookThrew tx jobs) :
    Base (chunk.exceededWrite env setting now job hookThrew tx jobs ok) := by
  have marked := base.mark tx.nextIds
  unfold Chunk.exceededWrite
  split
  · rename_i other next moved
    refine ⟨by simp,marked.selected,marked.payload,marked.obsolete,marked.clustered,marked.statusMap,?_⟩
    intro job threw current rest same id status written
    cases same
    rw [advance_writes moved] at written
    exact base.exceeded _ hookThrew tx jobs phase id status written
  · exact marked.withPhase _ (by simp) (by simp)
  · split
    · exact marked.withPhase _ (by simp) (by simp)
    · exact marked.openExceeded now _ true jobs

theorem Base.step {chunk next : Chunk} (base : Base chunk) (now : Nat) (action : Action)
    (isolated : setting.transactionMode = .isolated) (taken : Taken env setting chunk now action next) :
    Base next := by
  cases taken with
  | preprocess payloads phase => exact base.preprocess payloads phase
  | exceededOpen hookThrew job jobs phase => exact base.openExceeded now job hookThrew jobs
  | exceededWrite ok job hookThrew tx jobs phase more => exact base.exceededWrite now ok phase
  | exceededCommit ok job hookThrew tx jobs phase written =>
    unfold Chunk.exceededCommit
    split
    · exact (base.withPhase (.exceeding jobs) (by simp) (by simp)).withHistory _ _ (by simp)
    · exact base.withPhase _ (by simp) (by simp)
  | noPayload phase none => exact base.withPhase _ (by simp) (by simp)
  | clusterError phase => exact base.handleErrorOfChunk (by simp [phase])
  | cluster clusters phase valid =>
    refine ⟨by simp,base.selected,base.payload,base.obsolete,?_,base.statusMap,by simp⟩
    intro cluster member
    obtain ⟨given,listed,rfl⟩ := List.mem_map.mp member
    exact validClusters_subset valid given listed
  | launch index cluster phase found state => exact base.setCluster _ found
  | processEvent index ok cluster phase found state failed =>
    unfold Chunk.processEvent
    split
    · exact base.setCluster _ found
    · split
      · exact base.setCluster _ found
      · exact (base.setCluster .running found).withHistory _ _ (by simp [Chunk.setCluster,phase])
  | report index outcome cluster phase found state => exact base.report outcome found phase isolated
  | settle index shouldRollback rollbackOk cluster statusMap phase found state =>
    exact base.settle statusMap now shouldRollback rollbackOk found
  | write index ok cluster tx phase found state more => exact (base.mark tx.nextIds).setCluster _ found
  | commit index ok cluster tx phase found state written =>
    unfold Chunk.commit
    split
    · exact (base.setCluster .fulfilled found).withHistory _ _ (by simp [Chunk.setCluster,phase])
    · exact base.setCluster _ found
  | tick found ok phase own => exact base.tick now found
  | endMapFailed phase settled => exact base.withPhase _ (by simp) (by simp)
  | endMapRejected phase settled rejected => exact base.handleErrorOfChunk (by simp [phase])
  | endMap phase settled fulfilled => exact base.withPhase _ (by simp) (by simp)
  | persistOpen phase =>
    unfold Chunk.persistOpen
    split
    · exact base.withPhase _ (by simp) (by simp)
    · exact base.withPhase _ (by simp) (by simp)
  | persistWrite ok tx phase more =>
    unfold Chunk.persistWrite
    split
    · exact (base.mark tx.nextIds).withPhase _ (by simp) (by simp)
    · exact (base.mark tx.nextIds).withPhase _ (by simp) (by simp)
  | persistCommit ok tx phase written =>
    unfold Chunk.persistCommit
    split
    · exact (base.withPhase .finished (by simp) (by simp)).withHistory _ _ (by simp)
    · exact base.withPhase _ (by simp) (by simp)

theorem base_selected (openEvents exceededTriesExceeded exceededTries : List String) (timestamp : Nat) :
    Base (Chunk.selected openEvents exceededTriesExceeded exceededTries timestamp) where
  initial _ := ⟨rfl,rfl,rfl⟩
  selected := by
    intro id member
    simp [Chunk.selected] at member ⊢
    exact Or.inl member
  payload _ member := by cases member
  obsolete _ member := by cases member
  clustered _ member := by cases member
  statusMap _ _ found := by cases found
  exceeded _ _ _ _ same := by cases same

end EventQueue.Chunk

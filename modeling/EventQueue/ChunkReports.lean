import EventQueue.ChunkHandling

/-! Handlers that throw or report what cannot be written. Errors are turned into text and start dates
are scheduled inside the update loop of a status transaction, so one malformed value fails the
transaction of all entries that share it, and a rejected cluster sets the whole chunk to error.
The statuses of the other entries survive if no such value reaches a status map. -/
namespace EventQueue.Chunk
open Js (Value)

variable {env : Environment} {setting : Setting} {handling : Handling} {openEvents : List String}

/-- The final transaction does not set the entry to done of its own accord. -/
def Covered (chunk : Chunk) (id : String) : Prop :=
  (chunk.statusMap.get? id).isSome = true ∨ id ∈ chunk.commitedStatusMap

/-- What has become of the entries a cluster reports on. -/
def Progress (env : Environment) (handling : Handling) (openEvents : List String) (chunk : Chunk) (cluster : Cluster) :
    Prop :=
  match cluster.state with
  | .reported statusMap => SoundMap env (Meant env handling openEvents) statusMap ∧
      ∀ id, Mentions env handling cluster id → (statusMap.get? id).isSome = true
  | .writing tx => (∀ id ∈ openEvents, Mentions env handling cluster id → ∃ status, (id,status) ∈ tx.writes) ∧
      ∀ id ∈ written tx.updates, id ∈ chunk.commitedStatusMap
  | .fulfilled => ∀ id ∈ openEvents, Mentions env handling cluster id → Covered chunk id
  | .waiting | .launched | .running => True
  | .rejected => False

structure Planned (env : Environment) (handling : Handling) (openEvents : List String) (chunk : Chunk) : Prop where
  unharmed : Unharmed chunk
  entries : chunk.queueEntries = openEvents
  selected : openEvents ⊆ chunk.selectedEventMap
  payload : chunk.phase ≠ .preprocessing → chunk.queueEntriesWithPayloadMap = handling.withPayload openEvents
  statusMap : SoundMap env (Meant env handling openEvents) chunk.statusMap
  txs : ∀ tx ∈ chunk.openTxs, SoundTx env (Meant env handling openEvents) tx
  committed : ∀ update ∈ chunk.committed, ∀ id ∈ update.ids, Meant env handling openEvents id update.status
  clusters : ∀ cluster ∈ chunk.clusters, (cluster.key,cluster.queueEntries) ∈ handling.clusters
  progress : ∀ cluster ∈ chunk.clusters, Progress env handling openEvents chunk cluster
  all : chunk.phase = .processing → ∀ given ∈ handling.clusters,
    ∃ cluster ∈ chunk.clusters, (cluster.key,cluster.queueEntries) = given
  generated : chunk.phase ≠ .preprocessing → ∀ id ∈ openEvents, payloadStatus (handling.payloads id) ≠ [] →
    (chunk.statusMap.get? id).isSome = true
  covered : ¬Early chunk.phase → chunk.phase ≠ .processing → ∀ id ∈ openEvents, handling.wanted env id ≠ [] →
    Covered chunk id

/-- Entries that have a status or are marked as written stay so. -/
structure Grown (chunk next : Chunk) : Prop where
  statusMap : ∀ id, (chunk.statusMap.get? id).isSome = true → (next.statusMap.get? id).isSome = true
  commited : chunk.commitedStatusMap ⊆ next.commitedStatusMap

theorem Grown.covered {chunk next : Chunk} (grown : Grown chunk next) {id : String} (covered : Covered chunk id) :
    Covered next id :=
  covered.imp (grown.statusMap id) (fun marked => grown.commited marked)

theorem Grown.progress {chunk next : Chunk} (grown : Grown chunk next) {cluster : Cluster}
    (progress : Progress env handling openEvents chunk cluster) : Progress env handling openEvents next cluster := by
  unfold Progress at progress ⊢
  split
  · rename_i state
    simpa [state] using progress
  · rename_i state
    simp only [state] at progress
    exact ⟨progress.1,fun id listed => grown.commited (progress.2 id listed)⟩
  · rename_i state
    simp only [state] at progress
    exact fun id listed mentioned => grown.covered (progress id listed mentioned)
  · trivial
  · trivial
  · trivial
  · rename_i state
    simp only [state] at progress

theorem Grown.kept {chunk next : Chunk} (statusMap : next.statusMap = chunk.statusMap)
    (commited : next.commitedStatusMap = chunk.commitedStatusMap) : Grown chunk next :=
  ⟨fun _ present => statusMap ▸ present,commited ▸ List.Subset.refl _⟩

theorem Grown.mark {chunk next : Chunk} {ids : List String} (statusMap : next.statusMap = chunk.statusMap)
    (commited : next.commitedStatusMap = chunk.commitedStatusMap ++ ids) : Grown chunk next :=
  ⟨fun _ present => statusMap ▸ present,commited ▸ List.subset_append_left _ _⟩

theorem Grown.added {chunk next : Chunk} {reports : List Report}
    (statusMap : next.statusMap = (addReports env chunk.statusMap reports).statusMap)
    (commited : next.commitedStatusMap = chunk.commitedStatusMap) : Grown chunk next :=
  ⟨fun id present => statusMap ▸ addReports_keeps env chunk.statusMap reports id present,
    commited ▸ List.Subset.refl _⟩

theorem Planned.commits {chunk next : Chunk} (planned : Planned env handling openEvents chunk) {now : Nat}
    {action : Action} (taken : Taken env setting chunk now action next) :
    ∀ update ∈ next.committed, ∀ id ∈ update.ids, Meant env handling openEvents id update.status := by
  intro update member id listed
  rw [taken.committed] at member
  rcases List.mem_append.mp member with old | new
  · exact planned.committed update old id listed
  · obtain ⟨tx,open_,own⟩ := commits_open new
    exact (planned.txs tx open_).writes id _ (mem_writes_of_update own listed)

/-- A step of the map that changes one cluster. -/
theorem Planned.moved {chunk next : Chunk} (planned : Planned env handling openEvents chunk) {now : Nat}
    {action : Action} (taken : Taken env setting chunk now action next) (frame : Frame chunk next)
    (grown : Grown chunk next) {index : Nat} {cluster : Cluster} (state : ClusterState)
    (found : chunk.clusters[index]? = some cluster) (phase : chunk.phase = .processing)
    (after : next.phase = .processing) (set : next.clusters = (chunk.setCluster index cluster state).clusters)
    (statusMap : SoundMap env (Meant env handling openEvents) next.statusMap)
    (txs : ∀ tx, state = .writing tx → SoundTx env (Meant env handling openEvents) tx)
    (progress : Progress env handling openEvents next {cluster with state := state}) :
    Planned env handling openEvents next where
  unharmed :=
    { alive := by rw [after]; rfl
      calm := frame.keepAliveViolated.trans planned.unharmed.calm
      accepted := by
        intro other member
        rw [set] at member
        rcases mem_setCluster member with rfl | old
        · unfold isRejected
          split
          · rename_i rejected
            simp only at rejected
            simp [Progress,rejected] at progress
          · rfl
        · exact planned.unharmed.accepted other old }
  entries := frame.queueEntries.trans planned.entries
  selected := by
    rw [frame.selectedEventMap]
    exact planned.selected
  payload := fun _ => frame.queueEntriesWithPayloadMap.trans (planned.payload (by simp [phase]))
  statusMap := statusMap
  txs := by
    intro tx member
    rcases openTxs_setCluster chunk state member after set with old | new
    · exact planned.txs tx old
    · exact txs tx new
  committed := planned.commits taken
  clusters := by
    rw [set]
    apply Parties.forall_mem_moved planned.clusters
    exact planned.clusters cluster (List.mem_of_getElem? found)
  progress := by
    intro other member
    rw [set] at member
    rcases mem_setCluster member with rfl | old
    · exact progress
    · exact grown.progress (planned.progress other old)
  all := by
    intro _ given listed
    obtain ⟨other,member,same⟩ := planned.all phase given listed
    rw [set]
    by_cases own : other = cluster
    · subst own
      exact ⟨_,mem_setCluster_self chunk state found,same⟩
    · exact ⟨other,mem_setCluster_other state found member own,same⟩
  generated := fun _ id listed asked => grown.statusMap id (planned.generated (by simp [phase]) id listed asked)
  covered := fun _ leaves => absurd after leaves

/-- A step outside the map of clusters. -/
theorem Planned.still {chunk next : Chunk} (planned : Planned env handling openEvents chunk) {now : Nat}
    {action : Action} (taken : Taken env setting chunk now action next) (frame : Frame chunk next)
    (grown : Grown chunk next) (later : chunk.phase ≠ .preprocessing) (alive : isAborted next.phase = false)
    (outside : next.phase ≠ .processing) (clusters : next.clusters = chunk.clusters)
    (statusMap : next.statusMap = chunk.statusMap)
    (txs : ∀ tx ∈ next.openTxs, tx ∈ chunk.openTxs ∨ SoundTx env (Meant env handling openEvents) tx)
    (covered : ¬Early next.phase → ∀ id ∈ openEvents, handling.wanted env id ≠ [] → Covered next id) :
    Planned env handling openEvents next where
  unharmed := ⟨alive,frame.keepAliveViolated.trans planned.unharmed.calm,clusters ▸ planned.unharmed.accepted⟩
  entries := frame.queueEntries.trans planned.entries
  selected := by
    rw [frame.selectedEventMap]
    exact planned.selected
  payload := fun _ => frame.queueEntriesWithPayloadMap.trans (planned.payload later)
  statusMap := statusMap ▸ planned.statusMap
  txs := by
    intro tx member
    rcases txs tx member with old | new
    · exact planned.txs tx old
    · exact new
  committed := planned.commits taken
  clusters := clusters ▸ planned.clusters
  progress := by
    rw [clusters]
    exact fun cluster member => grown.progress (planned.progress cluster member)
  all := fun inside => absurd inside outside
  generated := fun _ id listed asked => grown.statusMap id (planned.generated later id listed asked)
  covered := fun late _ => covered late

theorem preprocessReport_isSome {id : String} (asked : payloadStatus (handling.payloads id) ≠ []) :
    ∃ report, preprocessReport handling.payloads id = some report ∧ report.id = id := by
  unfold preprocessReport
  split
  · exact ⟨_,rfl,rfl⟩
  · exact ⟨_,rfl,rfl⟩
  · exact ⟨_,rfl,rfl⟩
  · rename_i payload
    simp [payload,payloadStatus] at asked

theorem Planned.preprocess {chunk : Chunk} (planned : Planned env handling openEvents chunk)
    (contained : handling.Contained env openEvents) {now : Nat} {action : Action}
    (taken : Taken env setting chunk now action (chunk.preprocess env handling.payloads)) :
    Planned env handling openEvents (chunk.preprocess env handling.payloads) := by
  have reports : SoundReports env (Meant env handling openEvents)
      (chunk.queueEntries.filterMap (preprocessReport handling.payloads)) := by
    rw [planned.entries]
    exact sound_preprocess contained
  have ok := addReports_ok planned.statusMap reports
  have phase : (chunk.preprocess env handling.payloads).phase = .exceeding chunk.exceededJobs := by
    simp only [Chunk.preprocess,ok,if_true]
  have grown : Grown chunk (chunk.preprocess env handling.payloads) := .added rfl rfl
  exact
    { unharmed := ⟨by rw [phase]; rfl,planned.unharmed.calm,planned.unharmed.accepted⟩
      entries := planned.entries
      selected := planned.selected
      payload := fun _ => by
        change chunk.queueEntries.filter _ = _
        rw [planned.entries]
        rfl
      statusMap := addReports_sound planned.statusMap reports
      txs := fun tx member => planned.txs tx (openTxs_plain chunk member rfl (by rw [phase]; trivial))
      committed := planned.commits taken
      clusters := planned.clusters
      progress := fun cluster member => grown.progress (planned.progress cluster member)
      all := fun inside => by simp [phase] at inside
      generated := by
        intro _ id listed asked
        obtain ⟨report,given,rfl⟩ := preprocessReport_isSome asked
        refine addReports_present env _ _ ok report (List.mem_filterMap.mpr ⟨report.id,?_,given⟩)
        rw [planned.entries]
        exact listed
      covered := fun late => absurd (by rw [phase]; trivial) late }

theorem soundTx_exceeded {job : ExceededJob} {tx : StatusTx} (sound : SoundTx env (fun id _ => id ∈ job.ids) tx)
    (apart : ∀ id ∈ job.ids, id ∉ openEvents) : SoundTx env (Meant env handling openEvents) tx where
  groups := sound.groups
  writes := fun id status planned listed => absurd listed (apart id (sound.writes id status planned))

theorem advance_sound {meant : String → Nat → Prop} {tx : StatusTx} (sound : SoundTx env meant tx) (now : Nat)
    (more : tx.groups ≠ []) : ∃ next, advance env setting now true tx = some next ∧ SoundTx env meant next := by
  obtain ⟨next,moved,fine⟩ := sound.writeNext setting.retry now more
  exact ⟨next,moved,fine⟩

theorem Planned.exceededOpen {chunk : Chunk} (planned : Planned env handling openEvents chunk)
    (complete : Complete env setting chunk) {now : Nat} {hookThrew : Bool} {job : ExceededJob}
    {jobs : List ExceededJob} (phase : chunk.phase = .exceeding (job::jobs)) {action : Action}
    (taken : Taken env setting chunk now action (chunk.openExceeded env now job hookThrew jobs)) :
    Planned env handling openEvents (chunk.openExceeded env now job hookThrew jobs) := by
  obtain ⟨tx,opened,fine⟩ := openExceeded_phase env chunk now job hookThrew jobs
  have apart : ∀ id ∈ job.ids, id ∉ openEvents := by
    rw [← planned.entries]
    exact complete.jobs _ phase job (by simp)
  have frame := chunk.frame_openExceeded env now job hookThrew jobs
  rw [opened] at taken frame ⊢
  refine planned.still taken frame (.kept rfl rfl) (by simp [phase]) rfl (by simp) rfl rfl ?_
    (fun late => absurd trivial late)
  intro other member
  rcases openTxs_phase chunk member rfl (Or.inl ⟨_,_,_,rfl⟩) with old | rfl
  · exact Or.inl old
  · exact Or.inr (soundTx_exceeded fine apart)

theorem Planned.exceededWrite {chunk : Chunk} (planned : Planned env handling openEvents chunk) {now : Nat}
    {hookThrew : Bool} {job : ExceededJob} {tx : StatusTx} {jobs : List ExceededJob}
    (phase : chunk.phase = .exceededTx job hookThrew tx jobs) (more : tx.groups ≠ []) {action : Action}
    (taken : Taken env setting chunk now action (chunk.exceededWrite env setting now job hookThrew tx jobs true)) :
    Planned env handling openEvents (chunk.exceededWrite env setting now job hookThrew tx jobs true) := by
  have own : tx ∈ chunk.openTxs := (mem_openTxs _ _).mpr (Or.inr (Or.inl ⟨_,_,_,phase⟩))
  obtain ⟨moved,advanced,fine⟩ := @advance_sound env setting _ tx (planned.txs tx own) now more
  have frame := chunk.frame_exceededWrite env setting now job hookThrew tx jobs true
  have next : chunk.exceededWrite env setting now job hookThrew tx jobs true =
      {chunk.mark tx.nextIds with phase := .exceededTx job hookThrew moved jobs} := by
    simp only [Chunk.exceededWrite,advanced]
  rw [next] at taken frame ⊢
  refine planned.still taken frame (.mark rfl rfl) (by simp [phase]) rfl (by simp) rfl rfl ?_
    (fun late => absurd trivial late)
  intro other member
  rcases openTxs_phase chunk member rfl (Or.inl ⟨_,_,_,rfl⟩) with old | rfl
  · exact Or.inl old
  · exact Or.inr fine

theorem wanted_noPayload (fits : handling.Fits openEvents) (none : handling.withPayload openEvents = []) (id : String) :
    handling.wanted env id = payloadStatus (handling.payloads id) := by
  have empty : handling.clusters = [] := by
    cases given : handling.clusters with
    | nil => rfl
    | cons cluster rest =>
      have valid := fits.clusters
      rw [none,given] at valid
      simp only [validClusters,List.all_cons,Bool.and_eq_true] at valid
      cases ids : cluster.2 with
      | nil => simp [ids] at valid
      | cons first others => simp [ids] at valid
  simp [Handling.wanted,empty]

theorem Planned.noPayload {chunk : Chunk} (planned : Planned env handling openEvents chunk)
    (fits : handling.Fits openEvents) (phase : chunk.phase = .exceeding [])
    (none : chunk.queueEntriesWithPayloadMap = []) {now : Nat} {action : Action}
    (taken : Taken env setting chunk now action {chunk with phase := .persisting}) :
    Planned env handling openEvents {chunk with phase := .persisting} := by
  have later : chunk.phase ≠ .preprocessing := by simp [phase]
  refine planned.still taken chunk.frame_with (.kept rfl rfl) later rfl (by simp) rfl rfl
    (fun tx member => Or.inl (openTxs_plain chunk member rfl trivial)) ?_
  intro _ id listed asked
  rw [wanted_noPayload fits ((planned.payload later).symm.trans none)] at asked
  exact Or.inl (planned.generated later id listed asked)

theorem Planned.cluster {chunk : Chunk} (planned : Planned env handling openEvents chunk)
    (phase : chunk.phase = .exceeding []) {now : Nat} {action : Action} {next : Chunk}
    (set : next = {chunk with
      clusters := handling.clusters.map (fun cluster => ⟨cluster.1,cluster.2,.waiting⟩),phase := .processing})
    (taken : Taken env setting chunk now action next) : Planned env handling openEvents next := by
  subst set
  have later : chunk.phase ≠ .preprocessing := by simp [phase]
  have waiting : ∀ cluster ∈ handling.clusters.map (fun cluster => (⟨cluster.1,cluster.2,.waiting⟩ : Cluster)),
      cluster.state = .waiting ∧ (cluster.key,cluster.queueEntries) ∈ handling.clusters := by
    intro cluster member
    obtain ⟨given,listed,rfl⟩ := List.mem_map.mp member
    exact ⟨rfl,listed⟩
  exact
    { unharmed := ⟨rfl,planned.unharmed.calm,fun cluster member => by simp [isRejected,(waiting cluster member).1]⟩
      entries := planned.entries
      selected := planned.selected
      payload := fun _ => planned.payload later
      statusMap := planned.statusMap
      txs := by
        intro tx member
        rcases (mem_openTxs _ _).mp member with ⟨cluster,inside,same⟩ | ⟨_,_,_,same⟩ | same
        · rw [(waiting cluster inside).1] at same
          cases same
        · cases same
        · cases same
      committed := planned.commits taken
      clusters := fun cluster member => (waiting cluster member).2
      progress := fun cluster member => by simp [Progress,(waiting cluster member).1]
      all := fun _ given listed => ⟨_,List.mem_map_of_mem listed,rfl⟩
      generated := fun _ => planned.generated later
      covered := fun _ outside => absurd rfl outside }

/-- The handler's error, or the one of `JSON.stringify`, sets the cluster to error. -/
theorem Planned.failed {chunk : Chunk} (planned : Planned env handling openEvents chunk) {index : Nat}
    {cluster : Cluster} (found : chunk.clusters[index]? = some cluster) (phase : chunk.phase = .processing)
    {error : Value} (persistable : (thrownData error).persistable env = true)
    (meant : ∀ id ∈ cluster.queueEntries, Meant env handling openEvents id EventProcessingStatus.Error)
    (own : ∀ id, Mentions env handling cluster id → id ∈ cluster.queueEntries) {now : Nat} {action : Action}
    (taken : Taken env setting chunk now action (chunk.handleErrorDuringProcessing env setting index cluster error)) :
    Planned env handling openEvents (chunk.handleErrorDuringProcessing env setting index cluster error) := by
  have reports := sound_errors persistable meant
  have ok := addReports_ok planned.statusMap reports
  refine planned.moved taken chunk.frame_with (.added rfl rfl) _ found phase phase rfl
    (addReports_sound planned.statusMap reports) ?_ ?_
  · intro tx same
    rw [if_pos ok] at same
    split at same <;> cases same
  · rw [if_pos ok]
    split
    · refine ⟨sound_errorStatusMap persistable meant,fun id mentioned => ?_⟩
      rw [errorStatusMap,Dict.get?_setAll,if_pos (own id mentioned)]
      rfl
    · intro id _ mentioned
      refine Or.inl (addReports_present env _ _ ok ⟨id,.nat EventProcessingStatus.Error,error⟩ ?_)
      exact List.mem_map.mpr ⟨id,own id mentioned,rfl⟩

/-- A tuple that can be logged and written: isolated, into the cluster's own map, otherwise into `__statusMap`. -/
theorem Planned.returned {chunk : Chunk} (planned : Planned env handling openEvents chunk) (standard : Standard env)
    {index : Nat} {cluster : Cluster} (found : chunk.clusters[index]? = some cluster) (phase : chunk.phase = .processing)
    {reports : List (String × Value)} (reaction : handling.reactions cluster.key = .returned reports)
    (accepted : (env.stringify (statusTuple reports)).isSome = true)
    (sound : SoundReports env (Meant env handling openEvents) (tupleReports reports)) {now : Nat} {action : Action}
    (taken : Taken env setting chunk now action
      (chunk.report env setting index cluster (.returned (statusTuple reports)))) :
    Planned env handling openEvents (chunk.report env setting index cluster (.returned (statusTuple reports))) := by
  have mentioned : ∀ id, Mentions env handling cluster id → ∀ statusMap,
      (addReports env statusMap (tupleReports reports)).ok = true →
      ((addReports env statusMap (tupleReports reports)).statusMap.get? id).isSome = true := by
    intro id named statusMap ok
    obtain ⟨report,member,rfl⟩ := mentions_returned reaction named
    exact addReports_present env _ _ ok ⟨report.1,report.2,.undefined⟩ (List.mem_map_of_mem member)
  by_cases isolated : setting.transactionMode = .isolated
  · have empty : SoundMap env (Meant env handling openEvents) Dict.empty := by
      intro id value given
      simp at given
    have ok := addReports_ok empty sound
    have next : chunk.report env setting index cluster (.returned (statusTuple reports)) =
        chunk.setCluster index cluster (.reported (addReports env Dict.empty (tupleReports reports)).statusMap) := by
      simp [Chunk.report,isolated,setEventStatus_accepted standard cluster.queueEntries accepted ok,ok]
    rw [next] at taken ⊢
    refine planned.moved taken chunk.frame_with (.kept rfl rfl) _ found phase phase rfl planned.statusMap (by simp) ?_
    exact ⟨addReports_sound empty sound,fun id named => mentioned id named _ ok⟩
  · have ok := addReports_ok planned.statusMap sound
    have next : chunk.report env setting index cluster (.returned (statusTuple reports)) =
        (chunk.withAdded (addReports env chunk.statusMap (tupleReports reports))).setCluster index cluster
          .fulfilled := by
      simp [Chunk.report,isolated,setEventStatus_accepted standard cluster.queueEntries accepted ok,ok]
    rw [next] at taken ⊢
    refine planned.moved taken chunk.frame_with (.added rfl rfl) .fulfilled found phase phase rfl
      (addReports_sound planned.statusMap sound) (by simp) ?_
    exact fun id _ named => Or.inl (mentioned id named _ ok)

theorem Planned.report {chunk : Chunk} (planned : Planned env handling openEvents chunk) (standard : Standard env)
    (fits : handling.Fits openEvents) (contained : handling.Contained env openEvents) {index : Nat}
    {cluster : Cluster} (found : chunk.clusters[index]? = some cluster) (phase : chunk.phase = .processing)
    {now : Nat} {action : Action}
    (taken : Taken env setting chunk now action
      (chunk.report env setting index cluster (handling.outcomes cluster.key))) :
    Planned env handling openEvents (chunk.report env setting index cluster (handling.outcomes cluster.key)) := by
  have listed := planned.clusters cluster (List.mem_of_getElem? found)
  cases reaction : handling.reactions cluster.key with
  | thrown error =>
    have outcome : handling.outcomes cluster.key = .thrown error := by rw [Handling.outcomes,reaction,Reaction.outcome]
    rw [outcome] at taken ⊢
    refine planned.failed found phase (contained.thrown _ listed error reaction) ?_
      (fun id => mentions_thrown reaction) taken
    intro id inside _ _
    apply mem_wanted listed
    simp [reaction,Reaction.wanted,inside]
  | returned reports =>
    have outcome : handling.outcomes cluster.key = .returned (statusTuple reports) := by
      rw [Handling.outcomes,reaction,Reaction.outcome]
    rw [outcome] at taken ⊢
    cases strung : env.stringify (statusTuple reports) with
    | none =>
      obtain ⟨own,errors⟩ := contained.refused _ listed reports reaction strung
      have next : chunk.report env setting index cluster (.returned (statusTuple reports)) =
          chunk.handleErrorDuringProcessing env setting index cluster env.typeError := by
        simp [Chunk.report,setEventStatus_refused cluster.queueEntries strung,Chunk.withAdded]
      rw [next] at taken ⊢
      refine planned.failed found phase standard.typeError ?_ ?_ taken
      · intro id inside _ asked
        obtain ⟨status,wanted⟩ := List.exists_mem_of_ne_nil _ asked
        rw [← errors id inside status wanted]
        exact wanted
      · intro id mentioned
        obtain ⟨report,member,rfl⟩ := mentions_returned reaction mentioned
        exact own report member
    | some text =>
      have accepted : (env.stringify (statusTuple reports)).isSome = true := by
        rw [strung]
        rfl
      exact planned.returned standard found phase reaction accepted
        (sound_returned fits contained listed reaction accepted) taken

theorem Planned.settle {chunk : Chunk} (planned : Planned env handling openEvents chunk) {index : Nat}
    {cluster : Cluster} {statusMap : Dict Value} (found : chunk.clusters[index]? = some cluster)
    (phase : chunk.phase = .processing) (state : cluster.state = .reported statusMap) {shouldRollback : Bool}
    {now : Nat} {action : Action}
    (taken : Taken env setting chunk now action (chunk.settle env now index cluster statusMap shouldRollback true)) :
    Planned env handling openEvents (chunk.settle env now index cluster statusMap shouldRollback true) := by
  have progress := planned.progress cluster (List.mem_of_getElem? found)
  simp only [Progress,state] at progress
  obtain ⟨sound,present⟩ := progress
  obtain ⟨normalized,known⟩ := normalizeStatusMap_sound sound
  obtain ⟨tx,opened,fine,writes⟩ := sound.opens now chunk.selectedEventMap
  have next : chunk.settle env now index cluster statusMap shouldRollback true =
      chunk.setCluster index cluster (.writing tx) := by
    simp [Chunk.settle,statusMapContainsError,known,opened]
  rw [next] at taken ⊢
  refine planned.moved taken chunk.frame_with (.kept rfl rfl) _ found phase phase rfl planned.statusMap ?_ ?_
  · rintro other same
    cases same
    exact fine
  · refine ⟨fun id listed mentioned => writes id (planned.selected listed) (present id mentioned),?_⟩
    obtain ⟨checked,_,begun⟩ := Option.bind_eq_some_iff.mp opened
    simp [open_updates env begun,written]

theorem Planned.write {chunk : Chunk} (planned : Planned env handling openEvents chunk) {index : Nat}
    {cluster : Cluster} {tx : StatusTx} (found : chunk.clusters[index]? = some cluster)
    (phase : chunk.phase = .processing) (state : cluster.state = .writing tx) (more : tx.groups ≠ [])
    {now : Nat} {action : Action}
    (taken : Taken env setting chunk now action (chunk.write env setting now index cluster tx true)) :
    Planned env handling openEvents (chunk.write env setting now index cluster tx true) := by
  have member := List.mem_of_getElem? found
  have progress := planned.progress cluster member
  simp only [Progress,state] at progress
  have own : tx ∈ chunk.openTxs := (mem_openTxs _ _).mpr (Or.inl ⟨cluster,member,state⟩)
  obtain ⟨moved,advanced,fine⟩ := @advance_sound env setting _ tx (planned.txs tx own) now more
  have next : chunk.write env setting now index cluster tx true =
      (chunk.mark tx.nextIds).setCluster index cluster (.writing moved) := by
    simp only [Chunk.write,advanced]
  rw [next] at taken ⊢
  refine planned.moved taken ((chunk.frame_mark tx.nextIds).trans (Chunk.frame_with _)) (.mark rfl rfl) _ found phase
    phase rfl planned.statusMap ?_ ?_
  · rintro other same
    cases same
    exact fine
  · refine ⟨fun id listed mentioned => ?_,fun id listed => ?_⟩
    · rw [advance_writes advanced]
      exact progress.1 id listed mentioned
    · rcases (advance_written_iff advanced id).mp listed with old | new
      · exact List.mem_append_left _ (progress.2 id old)
      · exact List.mem_append_right _ new

theorem Planned.commit {chunk : Chunk} (planned : Planned env handling openEvents chunk) {index : Nat}
    {cluster : Cluster} {tx : StatusTx} (found : chunk.clusters[index]? = some cluster)
    (phase : chunk.phase = .processing) (state : cluster.state = .writing tx) (done : tx.groups = [])
    {now : Nat} {action : Action}
    (taken : Taken env setting chunk now action (chunk.commit index cluster tx true)) :
    Planned env handling openEvents (chunk.commit index cluster tx true) := by
  have progress := planned.progress cluster (List.mem_of_getElem? found)
  simp only [Progress,state] at progress
  refine planned.moved taken chunk.frame_with (.kept rfl rfl) .fulfilled found phase phase rfl planned.statusMap
    (by simp) ?_
  intro id listed mentioned
  have planned := progress.1 id listed mentioned
  exact Or.inr (progress.2 id ((mem_written_iff tx done id).mpr planned))

theorem Planned.tick {chunk : Chunk} (planned : Planned env handling openEvents chunk)
    {rows : List (String × Option Nat)} (calm : chunk.outdated rows = []) {now : Nat} {action : Action}
    (taken : Taken env setting chunk now action (chunk.tick now rows)) :
    Planned env handling openEvents (chunk.tick now rows) := by
  have violated := planned.unharmed.calm
  have next : chunk.tick now rows = {chunk with
      etagMap := (chunk.valid rows).foldl (fun etags id => etags.set id now) chunk.etagMap} := by
    simp only [Chunk.tick,violated,Bool.false_eq_true,if_false,calm,List.append_nil]
    rfl
  rw [next] at taken ⊢
  exact
    { unharmed := ⟨planned.unharmed.alive,violated,planned.unharmed.accepted⟩
      entries := planned.entries
      selected := planned.selected
      payload := planned.payload
      statusMap := planned.statusMap
      txs := planned.txs
      committed := planned.commits taken
      clusters := planned.clusters
      progress := planned.progress
      all := planned.all
      generated := planned.generated
      covered := planned.covered }

/-- At the end of the map every entry with a wanted status has one. -/
theorem Planned.settled {chunk : Chunk} (planned : Planned env handling openEvents chunk)
    (phase : chunk.phase = .processing) (settled : ∀ cluster ∈ chunk.clusters, isSettled cluster = true)
    {id : String} (listed : id ∈ openEvents) (asked : handling.wanted env id ≠ []) : Covered chunk id := by
  by_cases payload : payloadStatus (handling.payloads id) ≠ []
  · exact Or.inl (planned.generated (by simp [phase]) id listed payload)
  · have reported : handling.clusters.flatMap
        (fun cluster => (handling.reactions cluster.1).wanted env cluster.2 id) ≠ [] := by
      intro none
      exact asked (List.append_eq_nil_iff.mpr ⟨not_not.mp payload,none⟩)
    obtain ⟨status,member⟩ := List.exists_mem_of_ne_nil _ reported
    obtain ⟨given,inside,wanted⟩ := List.mem_flatMap.mp member
    obtain ⟨cluster,present,rfl⟩ := planned.all phase given inside
    have progress := planned.progress cluster present
    have done := settled cluster present
    unfold isSettled at done
    split at done
    · rename_i state
      simp only [Progress,state] at progress
      exact progress id listed (List.ne_nil_of_mem wanted)
    · rename_i state
      simp only [Progress,state] at progress
    · cases done

theorem Planned.persistOpen {chunk : Chunk} (planned : Planned env handling openEvents chunk)
    (phase : chunk.phase = .persisting) {now : Nat} {action : Action}
    (taken : Taken env setting chunk now action (chunk.persistOpen env now)) :
    Planned env handling openEvents (chunk.persistOpen env now) := by
  have covered := planned.covered (by simp [phase,Early]) (by simp [phase])
  obtain ⟨tx,opened,fine⟩ := @SoundMap.fills env (Meant env handling openEvents) chunk.statusMap planned.statusMap now
    chunk.selectedEventMap chunk.queueEntries chunk.commitedStatusMap chunk.outdatedEventMap
    (by rw [planned.entries]; exact planned.selected) (by
      rw [planned.entries]
      intro id listed absent fresh _ asked
      rcases covered id listed asked with present | marked
      · simp [absent] at present
      · exact absurd marked fresh)
  have next : chunk.persistOpen env now = {chunk with phase := .persistTx tx} := by
    simp only [Chunk.persistOpen,opened]
  rw [next] at taken ⊢
  refine planned.still taken chunk.frame_with (.kept rfl rfl) (by simp [phase]) rfl (by simp) rfl rfl ?_
    (fun _ => covered)
  intro other member
  rcases openTxs_phase chunk member rfl (Or.inr rfl) with old | rfl
  · exact Or.inl old
  · exact Or.inr fine

theorem Planned.persistWrite {chunk : Chunk} (planned : Planned env handling openEvents chunk) {tx : StatusTx}
    (phase : chunk.phase = .persistTx tx) (more : tx.groups ≠ []) {now : Nat} {action : Action}
    (taken : Taken env setting chunk now action (chunk.persistWrite env setting now tx true)) :
    Planned env handling openEvents (chunk.persistWrite env setting now tx true) := by
  have covered := planned.covered (by simp [phase,Early]) (by simp [phase])
  have own : tx ∈ chunk.openTxs := (mem_openTxs _ _).mpr (Or.inr (Or.inr phase))
  obtain ⟨moved,advanced,fine⟩ := @advance_sound env setting _ tx (planned.txs tx own) now more
  have next : chunk.persistWrite env setting now tx true = {chunk.mark tx.nextIds with phase := .persistTx moved} := by
    simp only [Chunk.persistWrite,advanced]
  have grown : Grown chunk {chunk.mark tx.nextIds with phase := .persistTx moved} := .mark rfl rfl
  rw [next] at taken ⊢
  refine planned.still taken ((chunk.frame_mark tx.nextIds).trans (Chunk.frame_with _)) grown (by simp [phase]) rfl
    (by simp) rfl rfl ?_ (fun _ id listed asked => grown.covered (covered id listed asked))
  intro other member
  rcases openTxs_phase chunk member rfl (Or.inr rfl) with old | rfl
  · exact Or.inl old
  · exact Or.inr fine

theorem Planned.step {chunk next : Chunk} (planned : Planned env handling openEvents chunk)
    (complete : Complete env setting chunk) (standard : Standard env) (fits : handling.Fits openEvents)
    (contained : handling.Contained env openEvents) {now : Nat} {action : Action}
    (follows : Follows handling chunk (now,action)) (taken : Taken env setting chunk now action next) :
    Planned env handling openEvents next := by
  have known := taken
  cases taken with
  | preprocess payloads phase =>
    cases (show payloads = handling.payloads from follows)
    exact planned.preprocess contained known
  | exceededOpen hookThrew job jobs phase => exact planned.exceededOpen complete phase known
  | exceededWrite ok job hookThrew tx jobs phase more =>
    cases (show ok = true from follows)
    exact planned.exceededWrite phase more known
  | exceededCommit ok job hookThrew tx jobs phase done =>
    cases (show ok = true from follows)
    exact planned.still known chunk.frame_with (.kept rfl rfl) (by simp [phase]) rfl (by simp [Chunk.exceededCommit])
      rfl rfl (fun tx member => Or.inl (openTxs_plain chunk member rfl trivial)) (fun late => absurd trivial late)
  | noPayload phase none => exact planned.noPayload fits phase none known
  | clusterError phase => cases (show none = some handling.clusters from follows)
  | cluster clusters phase valid =>
    cases (show some clusters = some handling.clusters from follows)
    exact planned.cluster phase rfl known
  | launch index cluster phase found state =>
    exact planned.moved known chunk.frame_with (.kept rfl rfl) .launched found phase phase rfl planned.statusMap
      (by simp) trivial
  | processEvent index ok cluster phase found state isolated =>
    cases (show ok = true from follows)
    have running : chunk.processEvent setting index cluster true =
        {chunk.setCluster index cluster .running with invoked := chunk.invoked ++ cluster.queueEntries} := by
      simp [Chunk.processEvent,planned.unharmed.calm]
    rw [running] at known ⊢
    exact planned.moved known chunk.frame_with (.kept rfl rfl) .running found phase phase rfl planned.statusMap
      (by simp) trivial
  | report index outcome cluster phase found state =>
    cases (show outcome = handling.outcomes cluster.key from follows cluster found)
    exact planned.report standard fits contained found phase known
  | settle index shouldRollback rollbackOk cluster statusMap phase found state =>
    cases (show rollbackOk = true from follows)
    exact planned.settle found phase state known
  | write index ok cluster tx phase found state more =>
    cases (show ok = true from follows)
    exact planned.write found phase state more known
  | commit index ok cluster tx phase found state done =>
    cases (show ok = true from follows)
    exact planned.commit found phase state done known
  | tick found ok phase own => exact planned.tick follows known
  | endMapFailed phase settled => cases (show false = true from follows)
  | endMapRejected phase settled rejected =>
    obtain ⟨cluster,member,failed⟩ := rejected
    rw [planned.unharmed.accepted cluster member] at failed
    cases failed
  | endMap phase settled fulfilled =>
    exact planned.still known chunk.frame_with (.kept rfl rfl) (by simp [phase]) rfl (by simp) rfl rfl
      (fun tx member => Or.inl (openTxs_plain chunk member rfl trivial))
      (fun _ id listed asked => planned.settled phase settled listed asked)
  | persistOpen phase => exact planned.persistOpen phase known
  | persistWrite ok tx phase more =>
    cases (show ok = true from follows)
    exact planned.persistWrite phase more known
  | persistCommit ok tx phase done =>
    cases (show ok = true from follows)
    exact planned.still known chunk.frame_with (.kept rfl rfl) (by simp [phase]) rfl (by simp [Chunk.persistCommit])
      rfl rfl (fun tx member => Or.inl (openTxs_plain chunk member rfl trivial))
      (fun _ => planned.covered (by simp [phase,Early]) (by simp [phase]))

theorem planned_selected (env : Environment) (handling : Handling)
    (openEvents exceededTriesExceeded exceededTries : List String) (timestamp : Nat) :
    Planned env handling openEvents (Chunk.selected openEvents exceededTriesExceeded exceededTries timestamp) where
  unharmed := ⟨rfl,rfl,by simp [Chunk.selected]⟩
  entries := rfl
  selected := (base_selected openEvents exceededTriesExceeded exceededTries timestamp).selected
  payload := by simp [Chunk.selected]
  statusMap := by
    intro id value found
    simp [Chunk.selected] at found
  txs := by simp [openTxs,Chunk.selected]
  committed := by simp [Chunk.selected]
  clusters := by simp [Chunk.selected]
  progress := by simp [Chunk.selected]
  all := by simp [Chunk.selected]
  generated := by simp [Chunk.selected]
  covered := by simp [Chunk.selected,Early]

/-- The chunk is not stopped, and at its end an entry has the status its handler asked for. -/
structure ReportsKept (env : Environment) (setting : Setting) (handling : Handling) (openEvents : List String)
    (chunk : Chunk) : Prop where
  alive : chunk.phase ≠ .aborted
  goesOn : chunk.phase ≠ .finished → ∀ now, ∃ action, Follows handling chunk (now,action) ∧
    (chunk.step env setting now action).isSome = true
  persisted : chunk.phase = .finished → ∀ id ∈ openEvents, ∀ status ∈ handling.wanted env id,
    (∀ other ∈ handling.wanted env id, other = status) → rowStatus chunk.committed id = status

theorem Planned.kept {chunk : Chunk} (planned : Planned env handling openEvents chunk)
    (complete : Complete env setting chunk) (fits : handling.Fits openEvents) :
    ReportsKept env setting handling openEvents chunk := by
  have alive : chunk.phase ≠ .aborted := by
    intro aborted
    have kept := planned.unharmed.alive
    simp [aborted,isAborted] at kept
  refine ⟨alive,fun unfinished now => ?_,fun finished id listed status asked agreed => ?_⟩
  · refine prompted_enabled now (fun phase => ?_) unfinished alive
    rw [planned.payload (by simp [phase])]
    exact fits.clusters
  · have outcome : AllowedOutcome env chunk.reports id := by
      intro value data found normal
      rw [← Logged.get env complete.logged id] at found
      obtain ⟨code,numbered,_⟩ := planned.statusMap.entry (by rw [found,Option.bind_some,normal])
      exact (hasStatus_allowed_iff data).mpr ⟨code,numbered⟩
    have done := (complete.finished finished id (planned.entries ▸ listed)).mpr (Or.inr outcome)
    obtain ⟨update,member,inside,same⟩ := rowStatus_written complete.allowed done
    rw [same]
    exact agreed _ (planned.committed update member id inside listed (List.ne_nil_of_mem asked))

/-- If everything that reaches a status map can be written, no handler that throws or reports a malformed
value keeps another entry from its status, and the malformed ones end in error. -/
theorem reports_kept (env : Environment) (setting : Setting) (handling : Handling)
    (openEvents exceededTriesExceeded exceededTries : List String) (timestamp : Nat) (actions : List (Nat × Action))
    (chunk : Chunk) (standard : Standard env) (distinct : (openEvents ++ exceededTriesExceeded ++ exceededTries).Nodup)
    (fits : handling.Fits openEvents) (contained : handling.Contained env openEvents)
    (follows : Transition.Along (timed env setting) (Follows handling)
      (Chunk.selected openEvents exceededTriesExceeded exceededTries timestamp) actions)
    (reached : Transition.run (timed env setting)
      (Chunk.selected openEvents exceededTriesExceeded exceededTries timestamp) actions = some chunk) :
    ReportsKept env setting handling openEvents chunk := by
  have invariant := Transition.invariant (timed env setting) _
    (fun chunk => (setting.transactionMode = .isolated → Base chunk) ∧ Complete env setting chunk ∧
      Planned env handling openEvents chunk) (by
      rintro state ⟨now,action⟩ next ⟨base,complete,planned⟩ followed moved
      have taken := step_taken env setting state next now action moved
      have calm : Calm state action := by
        cases action with
        | tick found ok => exact followed
        | _ => trivial
      exact ⟨fun isolated => (base isolated).step now action isolated taken,
        complete.step base now action calm taken,
        planned.step complete standard fits contained followed taken⟩)
    _ _ _ ⟨fun _ => base_selected _ _ _ _,complete_selected env setting _ _ _ _ distinct,
      planned_selected env handling _ _ _ _⟩ follows reached
  obtain ⟨_,complete,planned⟩ := invariant
  exact planned.kept complete fits

mutual

/-- Whether `JSON.stringify` takes the value; it throws on big integers. -/
def serialisable : Value → Bool
  | .bigint _ => false
  | .arr items => serialisableItems items
  | .obj fields => serialisableFields fields
  | _ => true

def serialisableItems : List Value → Bool
  | [] => true
  | value::rest => serialisable value && serialisableItems rest

def serialisableFields : List (String × Value) → Bool
  | [] => true
  | (_,value)::rest => serialisable value && serialisableFields rest

end

/-- Services that agree with the language on strings, whole numbers, dates and big integers. -/
def json : Environment where
  stringify value := if serialisable value then some "" else none
  forEach _ := ([],false)
  propertyKey
    | .str text => some text
    | _ => none
  greaterOrEqual _ _ := some false
  text
    | .num (.finite number) => some (toString number.num.toNat)
    | .str text => some text
    | .date none => some "Invalid Date"
    | .obj _ => some "[object Object]"
    | .symbol _ => none
    | _ => some ""
  text_nat number := by simp [Value.nat]
  error2String error := if serialisable error then some error else none
  typeError := .obj [("message",.str "Do not know how to serialize a BigInt")]
  parseDate _ := none

theorem standard_json : Standard json := ⟨fun _ => rfl,by decide⟩

/-- The first entry is done; the second one, in a cluster of its own, is reported with this value. -/
def secondReported (value : Value) : Handling where
  payloads _ := .value
  clusters := [("e1",["e1"]),("e2",["e2"])]
  reactions key := if key = "e1" then .returned [("e1",.nat EventProcessingStatus.Done)] else .returned [("e2",value)]

theorem secondReported_fits {value : Value} (status : (reportedStatus value).isSome = true) :
    (secondReported value).Fits ["e1","e2"] := by
  refine ⟨rfl,?_⟩
  intro cluster listed reports reaction report member
  simp only [secondReported,List.mem_cons,List.not_mem_nil,or_false] at listed
  rcases listed with rfl | rfl
  · cases reaction
    cases List.mem_singleton.mp member
    decide
  · cases reaction
    cases List.mem_singleton.mp member
    exact status

def bigintError : Value := .obj [("status",.nat EventProcessingStatus.Error),("error",.bigint 1)]

theorem bigintError_contained : (secondReported bigintError).Contained json ["e1","e2"] := by
  refine ⟨fun id _ error thrown => (by cases thrown),?_,?_,?_⟩
  · intro cluster listed error reaction
    simp only [secondReported] at reaction
    split at reaction <;> cases reaction
  · intro cluster listed reports reaction accepted report member data normal
    simp only [secondReported,List.mem_cons,List.not_mem_nil,or_false] at listed
    rcases listed with rfl | rfl
    · cases reaction
      cases List.mem_singleton.mp member
      cases normal
      exact persistable_ofStatus _
    · cases reaction
      exact absurd accepted (by decide)
  · intro cluster listed reports reaction refused
    simp only [secondReported,List.mem_cons,List.not_mem_nil,or_false] at listed
    rcases listed with rfl | rfl
    · cases reaction
      exact absurd refused (by decide)
    · cases reaction
      exact ⟨by decide,by decide⟩

def sharedReports (handling : Handling) : List (Nat × Action) :=
  [(100,.preprocess handling.payloads),(100,.cluster (some handling.clusters)),(100,.launch 0),(100,.processEvent 0 true),
    (101,.report 0 (handling.outcomes "e1")),(101,.launch 1),(101,.processEvent 1 true),
    (102,.report 1 (handling.outcomes "e2")),(102,.endMap true),(103,.persistOpen),(103,.persistWrite true),
    (103,.persistWrite true),(103,.persistCommit true)]

/-- The second report cannot be logged, and its cluster alone is set to error. -/
theorem reports_kept_bigint :
    ∃ chunk, Transition.run (timed json committingAll) (Chunk.selected ["e1","e2"] [] [] 100)
        (sharedReports (secondReported bigintError)) = some chunk ∧ chunk.phase = .finished ∧
      rowStatus chunk.committed "e1" = EventProcessingStatus.Done ∧
      rowStatus chunk.committed "e2" = EventProcessingStatus.Error := by
  have computed : (Transition.run (timed json committingAll) (Chunk.selected ["e1","e2"] [] [] 100)
      (sharedReports (secondReported bigintError))).map (fun chunk => isFinished chunk.phase) = some true := by decide
  obtain ⟨chunk,reached,finished⟩ := Option.map_eq_some_iff.mp computed
  have phase := (isFinished_iff chunk.phase).mp finished
  have follows : Transition.Along (timed json committingAll) (Follows (secondReported bigintError))
      (Chunk.selected ["e1","e2"] [] [] 100) (sharedReports (secondReported bigintError)) := by
    repeat first
      | refine Transition.along_cons rfl rfl ?_
      | refine Transition.along_cons trivial rfl ?_
      | refine Transition.along_cons (fun _ found => by cases found; rfl) rfl ?_
    trivial
  have kept := reports_kept json committingAll (secondReported bigintError) ["e1","e2"] [] [] 100 _ chunk standard_json
    (by decide) (secondReported_fits (by decide)) bigintError_contained follows reached
  exact ⟨chunk,reached,phase,kept.persisted phase "e1" (by decide) _ (by decide) (by decide),
    kept.persisted phase "e2" (by decide) _ (by decide) (by decide)⟩

def invalidStart : Value := .obj [("status",.nat EventProcessingStatus.Error),("startAfter",.date none)]

/-- Each entry in a transaction of its own; the update of the second one cannot be built. -/
def isolatedReports (handling : Handling) : List (Nat × Action) :=
  [(100,.preprocess handling.payloads),(100,.cluster (some handling.clusters)),(100,.launch 0),(100,.processEvent 0 true),
    (101,.report 0 (handling.outcomes "e1")),(101,.settle 0 false true),(101,.write 0 true),(101,.commit 0 true),
    (101,.launch 1),(101,.processEvent 1 true),(102,.report 1 (handling.outcomes "e2")),(102,.settle 1 false true),
    (102,.write 1 true),(102,.endMap true),(103,.persistOpen),(103,.persistWrite true),(103,.persistCommit true)]

/-- A start date that is invalid rejects its cluster, and the entry that is done becomes an error. -/
theorem invalid_start_overwrites_done :
    Standard json ∧ (secondReported invalidStart).Fits ["e1","e2"] ∧
    (secondReported invalidStart).wanted json "e1" = [EventProcessingStatus.Done] ∧
    ∃ chunk, Transition.Along (timed json isolatedChunk) (Follows (secondReported invalidStart))
        (Chunk.selected ["e1","e2"] [] [] 100) (isolatedReports (secondReported invalidStart)) ∧
      Transition.run (timed json isolatedChunk) (Chunk.selected ["e1","e2"] [] [] 100)
        (isolatedReports (secondReported invalidStart)) = some chunk ∧ chunk.phase = .finished ∧
      rowStatus chunk.committed "e1" = EventProcessingStatus.Error := by
  have computed : (Transition.run (timed json isolatedChunk) (Chunk.selected ["e1","e2"] [] [] 100)
      (isolatedReports (secondReported invalidStart))).map
        (fun chunk => (isFinished chunk.phase,rowStatus chunk.committed "e1")) =
      some (true,EventProcessingStatus.Error) := by decide
  obtain ⟨chunk,reached,same⟩ := Option.map_eq_some_iff.mp computed
  obtain ⟨finished,status⟩ := Prod.mk.inj same
  refine ⟨standard_json,secondReported_fits (by decide),by decide,chunk,?_,reached,
    (isFinished_iff chunk.phase).mp finished,status⟩
  repeat first
    | refine Transition.along_cons rfl rfl ?_
    | refine Transition.along_cons trivial rfl ?_
    | refine Transition.along_cons (fun _ found => by cases found; rfl) rfl ?_
  trivial

end EventQueue.Chunk

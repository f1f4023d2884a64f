import EventQueue.ChunkIsolated

/-! The open status transactions of a chunk, the rows they lock and what a step commits. -/
namespace EventQueue.Chunk
open Js (Value)

variable {env : Environment} {setting : Setting}

def openTx (cluster : Cluster) : Option StatusTx :=
  match cluster.state with
  | .writing tx => some tx
  | _ => none

theorem openTx_iff {cluster : Cluster} {tx : StatusTx} : tx ∈ openTx cluster ↔ cluster.state = .writing tx := by
  unfold openTx
  cases cluster.state <;> simp

def openTxs (chunk : Chunk) : List StatusTx :=
  chunk.clusters.filterMap openTx ++
  match chunk.phase with
    | .exceededTx _ _ tx _ => [tx]
    | .persistTx tx => [tx]
    | _ => []

def lockedIds (chunk : Chunk) : List String := chunk.openTxs.flatMap (fun tx => written tx.updates)

/-- The updates a successful commit makes visible. -/
def commits (chunk : Chunk) : Action → List Update
  | .exceededCommit true =>
    match chunk.phase with
    | .exceededTx _ _ tx _ => tx.updates
    | _ => []
  | .commit index true =>
    match (chunk.clusters[index]?).map Cluster.state with
    | some (.writing tx) => tx.updates
    | _ => []
  | .persistCommit true =>
    match chunk.phase with
    | .persistTx tx => tx.updates
    | _ => []
  | _ => []

theorem mem_openTxs (chunk : Chunk) (tx : StatusTx) :
    tx ∈ chunk.openTxs ↔ (∃ cluster ∈ chunk.clusters, cluster.state = .writing tx) ∨
      (∃ job hookThrew jobs, chunk.phase = .exceededTx job hookThrew tx jobs) ∨ chunk.phase = .persistTx tx := by
  unfold openTxs
  rw [List.mem_append,List.mem_filterMap]
  refine or_congr ?_ ?_
  · exact exists_congr (fun cluster => and_congr_right (fun _ => openTx_iff))
  · cases chunk.phase <;> simp [eq_comm]

/-- A transaction of the next state: an old one, an old one with one more group written, or a new one. -/
inductive TxOrigin (env : Environment) (chunk : Chunk) (now : Nat) (tx : StatusTx) : Prop
  | kept (member : tx ∈ chunk.openTxs)
  | advanced (old : StatusTx) (member : old ∈ chunk.openTxs) (same : tx.writes = old.writes)
  | checked (statusMap : Dict Value)
      (opened : (persistChecked chunk.selectedEventMap statusMap).bind (StatusTx.open env now) = some tx)
  | filled (phase : chunk.phase = .persisting)
      (opened : (persistFilled chunk.selectedEventMap chunk.queueEntries chunk.commitedStatusMap
        chunk.outdatedEventMap chunk.statusMap).bind (StatusTx.open env now) = some tx)

/-- How a transaction of the next state came about. -/
inductive TxSource (env : Environment) (setting : Setting) (chunk : Chunk) (now : Nat) (tx : StatusTx) : Prop
  | kept (member : tx ∈ chunk.openTxs)
  | moved (old : StatusTx) (ok : Bool) (member : old ∈ chunk.openTxs) (written : advance env setting now ok old = some tx)
  | checked (statusMap : Dict Value)
      (opened : (persistChecked chunk.selectedEventMap statusMap).bind (StatusTx.open env now) = some tx)
  | filled (phase : chunk.phase = .persisting)
      (opened : (persistFilled chunk.selectedEventMap chunk.queueEntries chunk.commitedStatusMap
        chunk.outdatedEventMap chunk.statusMap).bind (StatusTx.open env now) = some tx)

/-- The steps that may begin a status transaction; they read the clock for it. -/
def Action.begins : Action → Bool
  | .exceededOpen _ | .exceededWrite _ | .settle _ _ _ | .persistOpen => true
  | _ => false

/-- Only a step that begins transactions has new ones. -/
inductive TxChange (env : Environment) (setting : Setting) (chunk : Chunk) (now : Nat) (action : Action)
    (tx : StatusTx) : Prop
  | kept (member : tx ∈ chunk.openTxs)
  | moved (old : StatusTx) (ok : Bool) (member : old ∈ chunk.openTxs) (written : advance env setting now ok old = some tx)
  | begun (begins : action.begins = true) (source : TxSource env setting chunk now tx)

theorem TxChange.source {chunk : Chunk} {now : Nat} {action : Action} {tx : StatusTx}
    (change : TxChange env setting chunk now action tx) : TxSource env setting chunk now tx := by
  cases change with
  | kept member => exact .kept member
  | moved old ok member written => exact .moved old ok member written
  | begun _ source => exact source

theorem TxSource.origin {chunk : Chunk} {now : Nat} {tx : StatusTx} (source : TxSource env setting chunk now tx) :
    TxOrigin env chunk now tx := by
  cases source with
  | kept member => exact .kept member
  | moved old ok member written => exact .advanced old member (advance_writes written)
  | checked statusMap opened => exact .checked statusMap opened
  | filled phase opened => exact .filled phase opened

theorem openTxs_setCluster (chunk : Chunk) (state : ClusterState) {next : Chunk} {index : Nat} {cluster : Cluster}
    {tx : StatusTx} (member : tx ∈ next.openTxs) (phase : next.phase = .processing)
    (changed : next.clusters = (chunk.setCluster index cluster state).clusters) :
    tx ∈ chunk.openTxs ∨ state = .writing tx := by
  rcases (mem_openTxs _ _).mp member with ⟨other,inside,same⟩ | ⟨job,hookThrew,jobs,same⟩ | same
  · rw [changed] at inside
    rcases mem_setCluster inside with rfl | old
    · exact Or.inr same
    · exact Or.inl ((mem_openTxs _ _).mpr (Or.inl ⟨other,old,same⟩))
  · simp [phase] at same
  · simp [phase] at same

def PlainPhase : Phase → Prop
  | .exceededTx _ _ _ _ | .persistTx _ => False
  | .preprocessing | .exceeding _ | .processing | .persisting | .finished | .aborted => True

theorem openTxs_plain (chunk : Chunk) {next : Chunk} {tx : StatusTx} (member : tx ∈ next.openTxs)
    (same : next.clusters = chunk.clusters) (plain : PlainPhase next.phase) : tx ∈ chunk.openTxs := by
  rcases (mem_openTxs _ _).mp member with inside | ⟨job,hookThrew,jobs,phase⟩ | phase
  · exact (mem_openTxs _ _).mpr (Or.inl (same ▸ inside))
  · simp [phase,PlainPhase] at plain
  · simp [phase,PlainPhase] at plain

theorem openTxs_phase (chunk : Chunk) {next : Chunk} {tx other : StatusTx} (member : other ∈ next.openTxs)
    (clusters : next.clusters = chunk.clusters)
    (phase : (∃ job hookThrew jobs, next.phase = .exceededTx job hookThrew tx jobs) ∨ next.phase = .persistTx tx) :
    other ∈ chunk.openTxs ∨ other = tx := by
  rcases (mem_openTxs _ _).mp member with inside | ⟨_,_,_,same⟩ | same
  · exact Or.inl ((mem_openTxs _ _).mpr (Or.inl (clusters ▸ inside)))
  · rcases phase with ⟨_,_,_,phase⟩ | phase
    · rw [phase] at same
      cases same
      exact Or.inr rfl
    · rw [phase] at same
      cases same
  · rcases phase with ⟨_,_,_,phase⟩ | phase
    · rw [phase] at same
      cases same
    · rw [phase] at same
      cases same
      exact Or.inr rfl

theorem source_openExceeded (chunk : Chunk) {next : Chunk} {now : Nat} {job : ExceededJob} {hookThrew : Bool}
    {jobs : List ExceededJob} {tx : StatusTx} (member : tx ∈ (next.openExceeded env now job hookThrew jobs).openTxs)
    (same : next.clusters = chunk.clusters) (selected : next.selectedEventMap = chunk.selectedEventMap) :
    TxSource env setting chunk now tx := by
  unfold Chunk.openExceeded at member
  simp only at member
  split at member
  · exact .kept (openTxs_plain chunk member same trivial)
  · rename_i current opened
    rcases (mem_openTxs _ _).mp member with inside | ⟨_,_,_,phase⟩ | phase
    · exact .kept ((mem_openTxs _ _).mpr (Or.inl (same ▸ inside)))
    · cases phase
      exact .checked _ (selected ▸ opened)
    · cases phase

theorem plain_handleErrorOfChunk (chunk : Chunk) : PlainPhase (chunk.handleErrorOfChunk env).phase := by
  simp only [Chunk.handleErrorOfChunk]
  split <;> trivial

theorem openTxs_handleErrorDuringProcessing (chunk : Chunk) {next : Chunk} {index : Nat} {cluster : Cluster}
    {error : Value}
    {tx : StatusTx} (member : tx ∈ (next.handleErrorDuringProcessing env setting index cluster error).openTxs)
    (phase : next.phase = .processing) (same : next.clusters = chunk.clusters) : tx ∈ chunk.openTxs := by
  have kept : next.openTxs ⊆ chunk.openTxs :=
    fun _ inside => openTxs_plain chunk inside same (by simp [phase,PlainPhase])
  rcases openTxs_setCluster next _ member phase rfl with old | new
  · exact kept old
  · split at new
    · split at new <;> cases new
    · cases new

theorem openTxs_setOther {chunk next : Chunk} {index : Nat} {cluster : Cluster} (state : ClusterState)
    {tx : StatusTx} (member : tx ∈ next.openTxs) (phase : next.phase = .processing)
    (changed : next.clusters = (chunk.setCluster index cluster state).clusters)
    (plain : ∀ other, state ≠ .writing other) : tx ∈ chunk.openTxs := by
  rcases openTxs_setCluster chunk state member phase changed with old | new
  · exact old
  · exact absurd new (plain tx)

theorem Taken.change {chunk next : Chunk} {now : Nat} {action : Action}
    (taken : Taken env setting chunk now action next)
    {tx : StatusTx} (member : tx ∈ next.openTxs) : TxChange env setting chunk now action tx := by
  cases taken with
  | preprocess payloads phase =>
    refine .kept (openTxs_plain chunk member rfl ?_)
    simp only [Chunk.preprocess]
    split <;> trivial
  | exceededOpen hookThrew job jobs phase => exact .begun rfl (source_openExceeded chunk member rfl rfl)
  | exceededWrite ok job hookThrew current jobs phase more =>
    have old : current ∈ chunk.openTxs := (mem_openTxs _ _).mpr (Or.inr (Or.inl ⟨_,_,_,phase⟩))
    unfold Chunk.exceededWrite at member
    split at member
    · rename_i other result moved
      rcases (mem_openTxs _ _).mp member with inside | ⟨_,_,_,same⟩ | same
      · exact .kept ((mem_openTxs _ _).mpr (Or.inl inside))
      · cases same
        exact .moved current ok old moved
      · cases same
    · exact .kept (openTxs_plain chunk member rfl trivial)
    · split at member
      · exact .kept (openTxs_plain chunk member rfl trivial)
      · exact .begun rfl (source_openExceeded chunk member rfl rfl)
  | exceededCommit ok job hookThrew current jobs phase written =>
    unfold Chunk.exceededCommit at member
    split at member
    · exact .kept (openTxs_plain chunk member rfl trivial)
    · exact .kept (openTxs_plain chunk member rfl trivial)
  | noPayload phase none => exact .kept (openTxs_plain chunk member rfl trivial)
  | clusterError phase => exact .kept (openTxs_plain chunk member rfl (plain_handleErrorOfChunk chunk))
  | cluster clusters phase valid =>
    rcases (mem_openTxs _ _).mp member with ⟨cluster,inside,same⟩ | ⟨_,_,_,same⟩ | same
    · obtain ⟨given,_,rfl⟩ := List.mem_map.mp inside
      cases same
    · cases same
    · cases same
  | launch index cluster phase found state =>
    exact .kept (openTxs_setOther _ member phase rfl (by simp))
  | processEvent index ok cluster phase found state failed =>
    unfold Chunk.processEvent at member
    split at member
    · exact .kept (openTxs_setOther _ member phase rfl (by simp))
    · split at member
      · refine .kept (openTxs_setOther _ member phase rfl ?_)
        split <;> simp
      · exact .kept (openTxs_setOther .running member phase rfl (by simp))
  | report index outcome cluster phase found state =>
    unfold Chunk.report at member
    split at member
    · exact .kept (openTxs_handleErrorDuringProcessing chunk member phase rfl)
    · simp only at member
      split at member
      · split at member
        · exact .kept (openTxs_setOther _ member phase rfl (by simp))
        · exact .kept (openTxs_handleErrorDuringProcessing chunk member phase rfl)
      · split at member
        · exact .kept (openTxs_setOther .fulfilled member phase rfl (by simp))
        · exact .kept (openTxs_handleErrorDuringProcessing chunk member phase rfl)
  | settle index shouldRollback rollbackOk cluster statusMap phase found state =>
    unfold Chunk.settle at member
    split at member
    · exact .kept (openTxs_setOther _ member phase rfl (by simp))
    · split at member
      · exact .kept (openTxs_setOther _ member phase rfl (by simp))
      · split at member
        · exact .kept (openTxs_setOther _ member phase rfl (by simp))
        · rename_i current opened
          rcases openTxs_setCluster chunk _ member phase rfl with old | new
          · exact .kept old
          · cases new
            exact .begun rfl (.checked statusMap opened)
  | write index ok cluster current phase found state more =>
    have own : current ∈ chunk.openTxs :=
      (mem_openTxs _ _).mpr (Or.inl ⟨cluster,List.mem_of_getElem? found,state⟩)
    rcases openTxs_setCluster chunk _ member phase rfl with old | new
    · exact .kept old
    · split at new
      · cases new
      · rename_i result moved
        cases new
        exact .moved current ok own moved
  | commit index ok cluster current phase found state written =>
    unfold Chunk.commit at member
    split at member
    · exact .kept (openTxs_setOther .fulfilled member phase rfl (by simp))
    · exact .kept (openTxs_setOther _ member phase rfl (by simp))
  | tick found ok phase own =>
    refine .kept (openTxs_plain chunk member ?_ ?_)
    · unfold Chunk.tick
      split <;> rfl
    · unfold Chunk.tick
      split <;> simp [phase,PlainPhase]
  | endMapFailed phase settled => exact .kept (openTxs_plain chunk member rfl trivial)
  | endMapRejected phase settled rejected =>
    exact .kept (openTxs_plain chunk member rfl (plain_handleErrorOfChunk chunk))
  | endMap phase settled fulfilled => exact .kept (openTxs_plain chunk member rfl trivial)
  | persistOpen phase =>
    unfold Chunk.persistOpen at member
    split at member
    · exact .kept (openTxs_plain chunk member rfl trivial)
    · rename_i current opened
      rcases (mem_openTxs _ _).mp member with inside | ⟨_,_,_,same⟩ | same
      · exact .kept ((mem_openTxs _ _).mpr (Or.inl inside))
      · cases same
      · cases same
        exact .begun rfl (.filled phase opened)
  | persistWrite ok current phase more =>
    have own : current ∈ chunk.openTxs := (mem_openTxs _ _).mpr (Or.inr (Or.inr phase))
    unfold Chunk.persistWrite at member
    split at member
    · exact .kept (openTxs_plain chunk member rfl trivial)
    · rename_i result moved
      rcases (mem_openTxs _ _).mp member with inside | ⟨_,_,_,same⟩ | same
      · exact .kept ((mem_openTxs _ _).mpr (Or.inl inside))
      · cases same
      · cases same
        exact .moved current ok own moved
  | persistCommit ok current phase written =>
    unfold Chunk.persistCommit at member
    split at member
    · exact .kept (openTxs_plain chunk member rfl trivial)
    · exact .kept (openTxs_plain chunk member rfl trivial)

theorem Taken.source {chunk next : Chunk} {now : Nat} {action : Action}
    (taken : Taken env setting chunk now action next)
    {tx : StatusTx} (member : tx ∈ next.openTxs) : TxSource env setting chunk now tx :=
  (taken.change member).source

theorem Taken.origin {chunk next : Chunk} {now : Nat} {action : Action}
    (taken : Taken env setting chunk now action next)
    {tx : StatusTx} (member : tx ∈ next.openTxs) : TxOrigin env chunk now tx :=
  (taken.source member).origin

theorem Taken.committed {chunk next : Chunk} {now : Nat} {action : Action}
    (taken : Taken env setting chunk now action next) :
    next.committed = chunk.committed ++ chunk.commits action := by
  cases taken with
  | exceededOpen hookThrew job jobs phase =>
    unfold Chunk.openExceeded
    simp only
    split <;> simp [commits]
  | exceededWrite ok job hookThrew tx jobs phase more =>
    unfold Chunk.exceededWrite
    split
    · simp [commits,Chunk.mark]
    · simp [commits,Chunk.mark]
    · split
      · simp [commits,Chunk.mark]
      · unfold Chunk.openExceeded
        simp only
        split <;> simp [commits,Chunk.mark]
  | exceededCommit ok job hookThrew tx jobs phase written =>
    cases ok <;> simp [Chunk.exceededCommit,commits,phase]
  | processEvent index ok cluster phase found state isolated =>
    unfold Chunk.processEvent
    split
    · simp [commits,Chunk.setCluster]
    · split <;> simp [commits,Chunk.setCluster]
  | report index outcome cluster phase found state =>
    have kept : ∀ (middle : Chunk) (error : Value),
        (middle.handleErrorDuringProcessing env setting index cluster error).committed = middle.committed :=
      fun _ _ => rfl
    unfold Chunk.report
    split
    · simp [commits,kept]
    · simp only
      split <;> split <;> simp [commits,kept,Chunk.setCluster,Chunk.withAdded]
  | settle index shouldRollback rollbackOk cluster statusMap phase found state =>
    unfold Chunk.settle
    split
    · simp [commits,Chunk.setCluster]
    · split
      · simp [commits,Chunk.setCluster]
      · split <;> simp [commits,Chunk.setCluster]
  | commit index ok cluster tx phase found state written =>
    cases ok <;> simp [Chunk.commit,commits,found,state,Chunk.setCluster]
  | tick found ok phase own =>
    unfold Chunk.tick
    split <;> simp [commits]
  | persistOpen phase =>
    unfold Chunk.persistOpen
    split <;> simp [commits]
  | persistWrite ok tx phase more =>
    unfold Chunk.persistWrite
    split <;> simp [commits,Chunk.mark]
  | persistCommit ok tx phase written =>
    cases ok <;> simp [Chunk.persistCommit,commits,phase]
  | preprocess payloads phase => simp [Chunk.preprocess,Chunk.withAdded,commits]
  | clusterError phase => simp [Chunk.handleErrorOfChunk,Chunk.withAdded,commits]
  | endMapRejected phase settled rejected => simp [Chunk.handleErrorOfChunk,Chunk.withAdded,commits]
  | write index ok cluster tx phase found state more => simp [Chunk.write,Chunk.setCluster,Chunk.mark,commits]
  | _ => simp [commits,Chunk.setCluster]

theorem commits_open {chunk : Chunk} {action : Action} {update : Update} (member : update ∈ chunk.commits action) :
    ∃ tx ∈ chunk.openTxs, update ∈ tx.updates := by
  unfold commits at member
  split at member
  · split at member
    · rename_i tx _ phase
      exact ⟨tx,(mem_openTxs _ _).mpr (Or.inr (Or.inl ⟨_,_,_,phase⟩)),member⟩
    · cases member
  · split at member
    · rename_i tx given
      obtain ⟨cluster,found,state⟩ := Option.map_eq_some_iff.mp given
      exact ⟨tx,(mem_openTxs _ _).mpr (Or.inl ⟨cluster,List.mem_of_getElem? found,state⟩),member⟩
    · cases member
  · split at member
    · rename_i tx phase
      exact ⟨tx,(mem_openTxs _ _).mpr (Or.inr (Or.inr phase)),member⟩
    · cases member
  · cases member

/-- Status transactions write selected entries only. -/
structure WritesSelected (chunk : Chunk) : Prop where
  entries : chunk.queueEntries ⊆ chunk.selectedEventMap
  writes : ∀ tx ∈ chunk.openTxs, ∀ id status, (id,status) ∈ tx.writes → id ∈ chunk.selectedEventMap

theorem WritesSelected.step {chunk next : Chunk} (selected : WritesSelected chunk) {now : Nat} {action : Action}
    (taken : Taken env setting chunk now action next) : WritesSelected next := by
  obtain ⟨entries,map⟩ := taken.selection
  refine ⟨by rw [entries,map]; exact selected.entries,?_⟩
  intro tx member id status planned
  rw [map]
  rcases taken.origin member with kept | ⟨old,kept,same⟩ | ⟨statusMap,opened⟩ | ⟨_,opened⟩
  · exact selected.writes tx kept id status planned
  · exact selected.writes old kept id status (same ▸ planned)
  · exact (opened_writes opened planned).1
  · obtain ⟨listed,_⟩ | ⟨_,listed,_⟩ := (filled_written_iff selected.entries opened id).mp ⟨status,planned⟩
    · exact listed
    · exact selected.entries listed

theorem WritesSelected.commits {chunk : Chunk} (selected : WritesSelected chunk) {action : Action} {update : Update}
    (member : update ∈ chunk.commits action) {id : String} (listed : id ∈ update.ids) :
    id ∈ chunk.selectedEventMap := by
  obtain ⟨tx,inside,own⟩ := commits_open member
  obtain ⟨status,planned⟩ := written_writes tx id (List.mem_flatMap.mpr ⟨update,own,listed⟩)
  exact selected.writes tx inside id status planned

theorem writesSelected_selected (openEvents exceededTriesExceeded exceededTries : List String) (timestamp : Nat) :
    WritesSelected (Chunk.selected openEvents exceededTriesExceeded exceededTries timestamp) :=
  ⟨(base_selected openEvents exceededTriesExceeded exceededTries timestamp).selected,
    by simp [openTxs,Chunk.selected]⟩

end EventQueue.Chunk

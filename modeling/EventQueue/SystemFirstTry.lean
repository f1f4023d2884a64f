import EventQueue.SystemAttempts

/-! The first try of an event. With retries left, a row that was never selected before is an open
entry, so `processEvent` is called before its status can become exceeded. Values of `retryAttempts`
below one leave no retries: the row is given up at its first selection. -/
namespace EventQueue
open Js (Value)

variable {env : Environment} {setting : Setting} {config : SelectConfig}

def setsExceeded (value : Value) : Bool :=
  match normalizeEntry value with
  | some data => data.hasStatus [EventProcessingStatus.Exceeded]
  | none => false

theorem setsExceeded_of_stands {value : Value} (stands : Stands EventProcessingStatus.Exceeded value) :
    setsExceeded value = true := by
  obtain ⟨data,normalized,status⟩ := stands
  simp [setsExceeded,normalized,UpdateData.hasStatus,status,Js.isOneOf_nat]

def reportsExceeded (env : Environment) (id : String) (statusTuple : Value) : Bool :=
  (reportsOf env statusTuple).1.any (fun report =>
    decide (report.id = id) && setsExceeded (updateDataOf report.statusOrUpdateData report.error))

namespace Chunk

def ReportsExceeded (env : Environment) (id : String) : Action → Prop
  | .report _ (.returned statusTuple) => reportsExceeded env id statusTuple = true
  | _ => False

/-- No status map and no transaction of the chunk gives the entry up. -/
structure Unexceeded (id : String) (chunk : Chunk) : Prop where
  selected : WritesSelected chunk
  exceeding : Exceeding chunk
  unlisted : id ∉ chunk.exceededTriesExceeded ∧ id ∉ chunk.eventsWithExceededTries
  entries : id ∈ chunk.selectedEventMap → id ∈ chunk.queueEntries
  statusMap : ∀ value, chunk.statusMap.get? id = some value → ¬Stands EventProcessingStatus.Exceeded value
  reported : ∀ cluster ∈ chunk.clusters, ∀ statusMap, cluster.state = .reported statusMap →
    ∀ value, statusMap.get? id = some value → ¬Stands EventProcessingStatus.Exceeded value
  writing : ∀ cluster ∈ chunk.clusters, ∀ tx, cluster.state = .writing tx → (id,EventProcessingStatus.Exceeded) ∉ tx.writes
  persistTx : ∀ tx, chunk.phase = .persistTx tx → (id,EventProcessingStatus.Exceeded) ∉ tx.writes

theorem Unexceeded.writes {id : String} {chunk : Chunk} (clean : Unexceeded id chunk) {tx : StatusTx}
    (member : tx ∈ chunk.openTxs) : (id,EventProcessingStatus.Exceeded) ∉ tx.writes := by
  rcases (mem_openTxs chunk tx).mp member with ⟨cluster,inside,state⟩ | ⟨job,hookThrew,jobs,phase⟩ | phase
  · exact clean.writing cluster inside tx state
  · intro planned
    have own := ((clean.exceeding.writes job hookThrew tx jobs phase _ _).mp planned).1
    have left : job ∈ chunk.exceededJobs := clean.exceeding.left (by simp [jobsLeft,phase])
    rcases mem_exceededJobs.mp left with ⟨_,rfl⟩ | ⟨other,listed,rfl⟩
    · exact clean.unlisted.1 own
    · exact clean.unlisted.2 (List.mem_singleton.mp own ▸ listed)
  · exact clean.persistTx tx phase

theorem not_stands_exceeded {status : Nat} {value : Value} (stands : Stands status value)
    (other : status ≠ EventProcessingStatus.Exceeded) : ¬Stands EventProcessingStatus.Exceeded value :=
  fun exceeded => other (stands_unique stands exceeded)

theorem not_exceeded_of_report {id : String} {action : Action} {index : Nat} {statusTuple value : Value} {report : Report}
    (quiet : ¬ReportsExceeded env id action) (given : action = .report index (.returned statusTuple))
    (member : report ∈ (reportsOf env statusTuple).1) (same : report.id = id)
    (reported : value = updateDataOf report.statusOrUpdateData report.error) :
    ¬Stands EventProcessingStatus.Exceeded value := by
  intro exceeded
  subst given reported
  refine quiet (List.any_eq_true.mpr ⟨report,member,?_⟩)
  simp [same,setsExceeded_of_stands exceeded]

theorem Unexceeded.step {id : String} {chunk next : Chunk} (clean : Unexceeded id chunk) {now : Nat} {action : Action}
    (quiet : ¬ReportsExceeded env id action) (taken : Taken env setting chunk now action next) : Unexceeded id next := by
  obtain ⟨entries,selected,tries,exceeded⟩ := taken.fixed
  refine ⟨clean.selected.step taken,clean.exceeding.step taken,?_,?_,?_,?_,?_,?_⟩
  · rw [tries,exceeded]
    exact clean.unlisted
  · rw [entries,selected]
    exact clean.entries
  · intro value found
    cases taken.values id value found with
    | kept old => exact clean.statusMap value old
    | own stands =>
      rcases stands with error | done
      · exact not_stands_exceeded error (by decide)
      · exact not_stands_exceeded done (by decide)
    | returned index statusTuple report given member same reported =>
      exact not_exceeded_of_report quiet given member same reported
  · intro cluster member statusMap state value found
    cases taken.states cluster member with
    | kept old => exact clean.reported cluster old statusMap state value found
    | idle quietState => simp [state,Idle] at quietState
    | skipped isolated empty =>
      cases state.symm.trans empty
      cases found
    | failed isolated error given =>
      cases state.symm.trans given
      exact not_stands_exceeded (errorStatusMap_get _ _ _ _ found).2 (by decide)
    | returned isolated index statusTuple old given there same own =>
      cases state.symm.trans own
      rcases setEventStatus_value env _ _ _ _ _ found with before | failed | ⟨report,listed,key,reported⟩
      · cases before
      · exact not_stands_exceeded failed.2 (by decide)
      · exact not_exceeded_of_report quiet given listed key reported
    | opened old before tx inside state' same opened =>
      subst same
      cases state
    | advanced old tx moved inside before same writes =>
      subst same
      cases state
  · intro cluster member tx state planned
    cases taken.states cluster member with
    | kept old => exact clean.writing cluster old tx state planned
    | idle quietState => simp [state,Idle] at quietState
    | skipped isolated empty => cases state.symm.trans empty
    | failed isolated error given => cases state.symm.trans given
    | returned isolated index statusTuple old given there same own => cases state.symm.trans own
    | opened old statusMap started inside before same opened =>
      subst same
      cases state
      obtain ⟨_,_,value,found,stands⟩ := opened_writes opened planned
      exact clean.reported old inside statusMap before value found stands
    | advanced old current moved inside before same writes =>
      subst same
      cases state
      exact clean.writing old inside current before (writes ▸ planned)
  · intro tx phase planned
    rcases taken.persisting phase with ⟨old,before,writes⟩ | opened
    · exact clean.persistTx old before (writes ▸ planned)
    · rcases filled_writes clean.selected.entries opened planned with ⟨value,found,stands⟩ | ⟨done,_⟩
      · exact clean.statusMap value found stands
      · cases done

theorem unexceeded_selected {id : String} {openEvents exceededTriesExceeded exceededTries : List String} (timestamp : Nat)
    (first : id ∉ exceededTriesExceeded) (second : id ∉ exceededTries) :
    Unexceeded id (Chunk.selected openEvents exceededTriesExceeded exceededTries timestamp) where
  selected := writesSelected_selected _ _ _ _
  exceeding := exceeding_selected _ _ _ _
  unlisted := ⟨first,second⟩
  entries := by
    intro chosen
    simpa [Chunk.selected,first,second] using chosen
  statusMap := by simp [Chunk.selected,Dict.empty,Dict.get?]
  reported := by simp [Chunk.selected]
  writing := by simp [Chunk.selected]
  persistTx := by simp [Chunk.selected]

end Chunk

theorem apply_status_cases (updates : List Update) (row : Row) :
    (updates.foldl (fun row update => update.apply row) row).status = row.status ∨
      ∃ update ∈ updates, row.ID ∈ update.ids ∧
        (updates.foldl (fun row update => update.apply row) row).status = update.status := by
  induction updates generalizing row with
  | nil => exact Or.inl rfl
  | cons update rest ih =>
    have key : (update.apply row).ID = row.ID := by
      unfold Update.apply
      split <;> rfl
    rw [List.foldl_cons]
    rcases ih (update.apply row) with same | ⟨later,member,listed,status⟩
    · by_cases own : row.ID ∈ update.ids
      · refine Or.inr ⟨update,by simp,own,?_⟩
        rw [same,Update.apply,if_pos own]
      · left
        rw [same,Update.apply,if_neg own]
    · exact Or.inr ⟨later,by simp [member],key ▸ listed,status⟩

namespace System

/-- A step changes the status of a row by an update for it only, and without one its attempts stay. -/
theorem tableAfter_row {table : Table} {chunk : Chunk} {now : Nat} {action : Chunk.Action} {row : Row}
    (member : row ∈ (tableAfter table chunk now action).rows) :
    ∃ old ∈ table.rows, old.ID = row.ID ∧
      (row.status = old.status ∨ ∃ update ∈ chunk.commits action, row.ID ∈ update.ids ∧ row.status = update.status) ∧
      ((∀ update ∈ chunk.commits action, row.ID ∉ update.ids) → row.attempts = old.attempts) := by
  unfold tableAfter at member
  split at member
  · split at member
    · exact ⟨row,member,rfl,Or.inl rfl,fun _ => rfl⟩
    · obtain ⟨old,inside,rfl⟩ := List.mem_map.mp member
      refine ⟨old,inside,?_⟩
      split
      · exact ⟨rfl,Or.inl rfl,fun _ => rfl⟩
      · exact ⟨rfl,Or.inl rfl,fun _ => rfl⟩
  · obtain ⟨old,inside,rfl⟩ := List.mem_map.mp member
    refine ⟨old,inside,(apply_ID _ _).symm,?_,?_⟩
    · rw [apply_ID]
      exact apply_status_cases _ old
    · rw [apply_ID]
      intro other
      rw [apply_other _ old other]

/-- The row is created open without an attempt, and it is selected again only after `processEvent` was
called for it. -/
def EveryClusterProcessed (id : String) (system : System) (entry : Nat × Move) : Prop :=
  match entry.2 with
  | .publish _ row => row.ID = id → row.attempts = 0 ∧ row.status = EventProcessingStatus.Open
  | .select _ _ _ => ∀ proc ∈ system.procs, id ∈ proc.chunk.queueEntries → id ∈ proc.chunk.invoked
  | .act _ _ => True

/-- No handler gives the entry up before it was handed to `processEvent`. -/
def ExceededByOwn (env : Environment) (id : String) (system : System) (entry : Nat × Move) : Prop :=
  match entry.2 with
  | .act _ (.report _ (.returned statusTuple)) => reportsExceeded env id statusTuple = true → 0 < system.invocations id
  | _ => True

/-- As long as `processEvent` was not called, nothing gives the row up and an unselected row has no attempt. -/
structure FirstTry (id : String) (system : System) : Prop where
  clean : ∀ proc ∈ system.procs, Chunk.Unexceeded id proc.chunk
  status : ∀ row ∈ system.table.rows, row.ID = id → row.status ≠ EventProcessingStatus.Exceeded
  attempts : (∀ proc ∈ system.procs, id ∉ proc.chunk.queueEntries) → ∀ row ∈ system.table.rows, row.ID = id →
    row.attempts = 0

theorem invocations_pos {id : String} {system : System} {proc : Proc} (member : proc ∈ system.procs)
    (invoked : id ∈ proc.chunk.invoked) : 0 < system.invocations id := by
  have counted : proc.chunk.invoked.count id ≤ system.invocations id :=
    List.single_le_sum (by simp) _ (List.mem_map_of_mem member)
  exact lt_of_lt_of_le (List.count_pos_iff.mpr invoked) counted

theorem FirstTry.publish {id : String} {system : System} (first : FirstTry id system) (now position : Nat)
    (row : Row) (fresh : row.ID ∉ system.table.ids)
    (created : row.ID = id → row.attempts = 0 ∧ row.status = EventProcessingStatus.Open) :
    FirstTry id {system with now := now,table := system.table.insert position row fresh} where
  clean := first.clean
  status other member same := by
    rcases (Table.mem_insert fresh).mp member with rfl | old
    · rw [(created same).2]
      decide
    · exact first.status other old same
  attempts unselected other member same := by
    rcases (Table.mem_insert fresh).mp member with rfl | old
    · exact (created same).1
    · exact first.attempts unselected other old same

/-- A row without attempts is no exceeded entry while there are retries. -/
theorem selection_unexceeded (table : Table) (now startTime baseDate : Nat) (delayed : List String) (id : String)
    (retries : 1 ≤ config.retryAttempts) (attempts : ∀ row ∈ table.rows, row.ID = id → row.attempts = 0) :
    Chunk.Unexceeded id (selection config table now startTime baseDate delayed) := by
  have untried : ∀ row ∈ table.entries config false startTime baseDate delayed, row.ID = id →
      eventKind config baseDate row ≠ .exceededTriesExceeded ∧ eventKind config baseDate row ≠ .exceededTries := by
    intro row inside same
    have zero := attempts row (mem_entries_rows config inside).1 same
    have below : row.attempts ≠ config.retryAttempts + TRIES_FOR_EXCEEDED_EVENTS := by
      unfold TRIES_FOR_EXCEEDED_EVENTS
      omega
    have left : ¬config.retryAttempts ≤ row.attempts := by omega
    unfold eventKind
    rw [if_neg below,if_neg left]
    split
    · simp
    · split <;> simp
  apply Chunk.unexceeded_selected
  · intro listed
    obtain ⟨row,inside,kind,same⟩ := (mem_idsOfKind config).mp listed
    exact (untried row inside same).1 kind
  · intro listed
    obtain ⟨row,inside,kind,same⟩ := (mem_idsOfKind config).mp listed
    exact (untried row inside same).2 kind

theorem FirstTry.select {id : String} {system : System} (first : FirstTry id system) (now startTime baseDate : Nat)
    (delayed : List String) (retries : 1 ≤ config.retryAttempts)
    (unselected : ∀ proc ∈ system.procs, id ∉ proc.chunk.queueEntries) :
    FirstTry id ⟨now,system.table.setToInProgress
        (selection config system.table now startTime baseDate delayed).selectedEventMap now,
      system.procs ++ [⟨selection config system.table now startTime baseDate delayed,now⟩]⟩ := by
  have attempts := first.attempts unselected
  have clean := selection_unexceeded system.table now startTime baseDate delayed id retries attempts
  generalize selection config system.table now startTime baseDate delayed = chunk at clean
  refine ⟨?_,?_,?_⟩
  · intro proc member
    rcases List.mem_append.mp member with old | new
    · exact first.clean proc old
    · rw [List.mem_singleton] at new
      subst new
      exact clean
  · intro row member same
    obtain ⟨old,inside,key,changed⟩ := Table.mem_setToInProgress member
    split at changed
    · subst changed
      simp only [Row.toInProgress]
      decide
    · subst changed
      exact first.status row inside same
  · intro still row member same
    obtain ⟨old,inside,key,changed⟩ := Table.mem_setToInProgress member
    have spared : old.ID ∉ chunk.selectedEventMap := by
      intro chosen
      rw [key,same] at chosen
      exact still ⟨chunk,now⟩ (by simp) (clean.entries chosen)
    rw [if_neg spared] at changed
    subst changed
    exact attempts row inside same

theorem FirstTry.act {id : String} {system : System} (first : FirstTry id system) {now index : Nat}
    {action : Chunk.Action} {proc : Proc} {next : Chunk} (found : system.procs[index]? = some proc)
    (quiet : ¬Chunk.ReportsExceeded env id action) (moved : Chunk.Taken env setting proc.chunk now action next) :
    FirstTry id ⟨now,tableAfter system.table proc.chunk now action,
      system.procs.set index ⟨next,tickAfter proc now action⟩⟩ := by
  have member := List.mem_of_getElem? found
  have mine := first.clean proc member
  refine ⟨?_,?_,?_⟩
  · exact Parties.forall_mem_moved first.clean (mine.step quiet moved)
  · intro row inside same
    obtain ⟨old,before,key,status,_⟩ := tableAfter_row inside
    rcases status with kept | ⟨update,listed,own,given⟩
    · rw [kept]
      exact first.status old before (key.trans same)
    · intro exceeded
      obtain ⟨tx,open_,written⟩ := Chunk.commits_open listed
      refine mine.writes open_ ?_
      have planned : (row.ID,update.status) ∈ tx.updates.flatMap Update.writes :=
        List.mem_flatMap.mpr ⟨update,written,List.mem_map_of_mem own⟩
      rw [same,← given,exceeded] at planned
      exact List.mem_append_left _ planned
  · intro unselected row inside same
    obtain ⟨old,before,key,_,kept⟩ := tableAfter_row inside
    have still : ∀ other ∈ system.procs, id ∉ other.chunk.queueEntries := by
      intro other listed
      rcases Parties.mem_moved ⟨next,tickAfter proc now action⟩ found listed with rfl | stays
      · have mineNow := unselected ⟨next,tickAfter other now action⟩
          (List.mem_set (List.getElem?_eq_some_iff.mp found).1 _)
        rwa [moved.selection.1] at mineNow
      · exact unselected other stays
    rw [kept ?_]
    · exact first.attempts still old before (key.trans same)
    · intro update listed own
      rw [same] at own
      exact still proc member (mine.entries (mine.selected.commits listed own))

theorem invocations_act (id : String) {system : System} {now index : Nat} {action : Chunk.Action} {proc : Proc}
    {next : Chunk} (found : system.procs[index]? = some proc) (moved : Chunk.Taken env setting proc.chunk now action next) :
    system.invocations id ≤ System.invocations ⟨now,tableAfter system.table proc.chunk now action,
      system.procs.set index ⟨next,tickAfter proc now action⟩⟩ id := by
  have counted := Parties.sum_moved (fun proc : Proc => proc.chunk.invoked.count id)
    ⟨next,tickAfter proc now action⟩ found
  have grown : proc.chunk.invoked.count id ≤ next.invoked.count id := by
    cases moved.shift with
    | still early clusters invoked => rw [invoked]
    | clustered clusters given early phase set invoked => rw [invoked]
    | moved index cluster state found phase set later invoked => rw [invoked]
    | started index cluster found launched phase set invoked =>
      rw [invoked,List.count_append]
      omega
  simp only [System.invocations] at counted ⊢
  omega

def TriedFirst (id : String) (system : System) : Prop := 0 < system.invocations id ∨ FirstTry id system

theorem TriedFirst.step {id : String} {system next : System} (tried : TriedFirst id system)
    (retries : 1 ≤ config.retryAttempts) (entry : Nat × Move) (processed : EveryClusterProcessed id system entry)
    (own : ExceededByOwn env id system entry) (taken : system.step env setting config entry = some next) :
    TriedFirst id next := by
  obtain ⟨now,move⟩ := entry
  obtain ⟨_,change⟩ := step_taken env setting config system next now move taken
  cases change with
  | publish position row fresh =>
    rcases tried with done | first
    · exact Or.inl done
    · exact Or.inr (first.publish now position row fresh processed)
  | select startTime baseDate delayed earlier free =>
    by_cases done : 0 < system.invocations id
    · left
      simp only [System.invocations,Parties.sum_joined] at done ⊢
      omega
    · have first := tried.resolve_left done
      refine Or.inr (first.select now startTime baseDate delayed retries ?_)
      intro proc member listed
      exact done (invocations_pos member (processed proc member listed))
  | act index action proc chunk found reads moved =>
    have grown := invocations_act id found moved
    by_cases done : 0 < system.invocations id
    · exact Or.inl (lt_of_lt_of_le done grown)
    · have first := tried.resolve_left done
      refine Or.inr (first.act found ?_ moved)
      intro exceeded
      unfold Chunk.ReportsExceeded at exceeded
      split at exceeded
      · exact done (own exceeded)
      · exact exceeded

instance (id : String) (system : System) : (entry : Nat × Move) → Decidable (EveryClusterProcessed id system entry)
  | (_,.publish _ row) => inferInstanceAs (Decidable
      (row.ID = id → row.attempts = 0 ∧ row.status = EventProcessingStatus.Open))
  | (_,.select _ _ _) => inferInstanceAs (Decidable
      (∀ proc ∈ system.procs, id ∈ proc.chunk.queueEntries → id ∈ proc.chunk.invoked))
  | (_,.act _ _) => .isTrue trivial

def handlerReportsExceeded (env : Environment) (id : String) (entry : Nat × Move) : Bool :=
  match entry.2 with
  | .act _ (.report _ (.returned statusTuple)) => reportsExceeded env id statusTuple
  | _ => false

/-- An exceeded row was handed to `processEvent`, and infinite retries end only by a handler. -/
def TriedBeforeExceeded (env : Environment) (config : SelectConfig) (id : String) (moves : List (Nat × Move))
    (system : System) : Prop :=
  ∀ row ∈ system.table.rows, row.ID = id → row.status = EventProcessingStatus.Exceeded →
    0 < system.invocations id ∧
      (config.retryAttempts = -1 → ∃ entry ∈ moves, handlerReportsExceeded env id entry = true)

theorem tried_before_exceeded (env : Environment) (setting : Setting) (config : SelectConfig) (table : Table)
    (id : String) (now : Nat) (moves : List (Nat × Move)) (system : System)
    (created : ∀ row ∈ table.rows, row.ID = id → row.attempts = 0 ∧ row.status = EventProcessingStatus.Open)
    (processed : Transition.Along (step env setting config) (EveryClusterProcessed id) ⟨now,table,[]⟩ moves)
    (retries : 1 ≤ config.retryAttempts)
    (own : Transition.Along (step env setting config) (ExceededByOwn env id) ⟨now,table,[]⟩ moves)
    (reached : Transition.run (step env setting config) ⟨now,table,[]⟩ moves = some system) :
    TriedBeforeExceeded env config id moves system := by
  have initial : TriedFirst id ⟨now,table,[]⟩ := by
    refine Or.inr ⟨by simp,?_,fun _ row member same => (created row member same).1⟩
    intro row member same
    rw [(created row member same).2]
    decide
  have tried := Transition.invariant (step env setting config)
    (fun system entry => EveryClusterProcessed id system entry ∧ ExceededByOwn env id system entry) (TriedFirst id)
    (fun system entry next tried guards taken => tried.step retries entry guards.1 guards.2 taken)
    _ system moves initial (Transition.along_and _ _ _ _ _ processed own) reached
  intro row member same exceeded
  refine ⟨?_,?_⟩
  · rcases tried with done | first
    · exact done
    · exact absurd exceeded (first.status row member same)
  · intro infinite
    omega

instance (env : Environment) (id : String) (system : System) :
    (entry : Nat × Move) → Decidable (ExceededByOwn env id system entry)
  | (_,.act _ (.report _ (.returned statusTuple))) => inferInstanceAs (Decidable
      (reportsExceeded env id statusTuple = true → 0 < system.invocations id))
  | (_,.act _ (.report _ (.thrown _))) | (_,.publish _ _) | (_,.select _ _ _)
  | (_,.act _ (.preprocess _)) | (_,.act _ (.exceededOpen _)) | (_,.act _ (.exceededWrite _))
  | (_,.act _ (.exceededCommit _)) | (_,.act _ (.cluster _)) | (_,.act _ .noPayload) | (_,.act _ (.launch _))
  | (_,.act _ (.processEvent _ _)) | (_,.act _ (.settle _ _ _)) | (_,.act _ (.write _ _)) | (_,.act _ (.commit _ _))
  | (_,.act _ (.tick _ _)) | (_,.act _ (.endMap _)) | (_,.act _ .persistOpen) | (_,.act _ (.persistWrite _))
  | (_,.act _ (.persistCommit _)) => .isTrue trivial

def oneEntry : Table := ⟨[⟨"e1",0,none,0,none⟩],by decide⟩

/-- A selection of the entry that ends with status exceeded. -/
def givenUpAt (time index : Nat) : List (Nat × Move) :=
  [(time,.select time time []),(time,.act index (.preprocess (fun _ => .value))),
    (time,.act index (.exceededOpen false)),(time,.act index (.exceededWrite true)),
    (time,.act index (.exceededCommit true))]

/-- One try that ends in error, then the retries are used up. -/
def triedOnce : List (Nat × Move) :=
  [(1,.select 1 1 []),(1,.act 0 (.preprocess (fun _ => .value))),(1,.act 0 (.cluster (some [("e1",["e1"])]))),
    (1,.act 0 (.launch 0)),(1,.act 0 (.processEvent 0 true)),
    (2,.act 0 (.report 0 (.returned (.arr [.arr [.str "e1",.nat 3]])))),(2,.act 0 (.settle 0 false true)),
    (2,.act 0 (.write 0 true)),(2,.act 0 (.commit 0 true)),(3,.act 0 (.endMap true)),(3,.act 0 .persistOpen),
    (3,.act 0 (.persistCommit true))] ++ givenUpAt 400000 1

def isExceeded (id : String) (system : System) : Bool :=
  system.table.rows.any (fun row => decide (row.ID = id) && decide (row.status = EventProcessingStatus.Exceeded))

theorem tried_before_exceeded_once :
    ∃ system, Transition.run (step .plain twoAtATime ⟨100,24,100,1⟩) ⟨0,oneEntry,[]⟩ triedOnce = some system ∧
      isExceeded "e1" system = true ∧ TriedBeforeExceeded .plain ⟨100,24,100,1⟩ "e1" triedOnce system := by
  have computed : ((Transition.run (step .plain twoAtATime ⟨100,24,100,1⟩) ⟨0,oneEntry,[]⟩ triedOnce).map
      (isExceeded "e1")) = some true := by decide
  obtain ⟨system,reached,exceeded⟩ := Option.map_eq_some_iff.mp computed
  refine ⟨system,reached,exceeded,?_⟩
  exact tried_before_exceeded .plain twoAtATime ⟨100,24,100,1⟩ oneEntry "e1" 0 triedOnce system (by decide) (by decide)
    (by decide) (by decide) reached

/-- With -1 and with 0 the entry is given up at its first selection. -/
theorem given_up_untried :
    (∃ system, Transition.run (step .plain twoAtATime ⟨100,24,100,-1⟩) ⟨0,oneEntry,[]⟩ (givenUpAt 1 0) = some system ∧
      Transition.Along (step .plain twoAtATime ⟨100,24,100,-1⟩) (EveryClusterProcessed "e1") ⟨0,oneEntry,[]⟩
        (givenUpAt 1 0) ∧ ¬TriedBeforeExceeded .plain ⟨100,24,100,-1⟩ "e1" (givenUpAt 1 0) system) ∧
    ∃ system, Transition.run (step .plain twoAtATime ⟨100,24,100,0⟩) ⟨0,oneEntry,[]⟩ (givenUpAt 1 0) = some system ∧
      Transition.Along (step .plain twoAtATime ⟨100,24,100,0⟩) (EveryClusterProcessed "e1") ⟨0,oneEntry,[]⟩
        (givenUpAt 1 0) ∧ ¬TriedBeforeExceeded .plain ⟨100,24,100,0⟩ "e1" (givenUpAt 1 0) system := by
  have untried : ∀ config system, isExceeded "e1" system = true → system.invocations "e1" = 0 →
      ¬TriedBeforeExceeded .plain config "e1" (givenUpAt 1 0) system := by
    intro config system exceeded none tried
    obtain ⟨row,member,facts⟩ := List.any_eq_true.mp exceeded
    simp only [Bool.and_eq_true,decide_eq_true_eq] at facts
    have some := (tried row member facts.1 facts.2).1
    omega
  have found : ∀ retries : Int, retries = -1 ∨ retries = 0 →
      ((Transition.run (step .plain twoAtATime ⟨100,24,100,retries⟩) ⟨0,oneEntry,[]⟩ (givenUpAt 1 0)).map
        (fun system => isExceeded "e1" system && decide (system.invocations "e1" = 0))) = some true := by
    rintro retries (rfl | rfl)
    · decide
    · decide
  have fails : ∀ retries : Int, retries = -1 ∨ retries = 0 →
      ∃ system, Transition.run (step .plain twoAtATime ⟨100,24,100,retries⟩) ⟨0,oneEntry,[]⟩ (givenUpAt 1 0) = some system ∧
        ¬TriedBeforeExceeded .plain ⟨100,24,100,retries⟩ "e1" (givenUpAt 1 0) system := by
    intro retries special
    obtain ⟨system,reached,facts⟩ := Option.map_eq_some_iff.mp (found retries special)
    simp only [Bool.and_eq_true,decide_eq_true_eq] at facts
    exact ⟨system,reached,untried _ system facts.1 facts.2⟩
  obtain ⟨first,reached,bad⟩ := fails (-1) (Or.inl rfl)
  obtain ⟨second,arrived,worse⟩ := fails 0 (Or.inr rfl)
  exact ⟨⟨first,reached,by decide,bad⟩,second,arrived,by decide,worse⟩

end System

end EventQueue

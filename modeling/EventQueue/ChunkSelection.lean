import EventQueue.ChunkFrame
import EventQueue.System

/-! What one iteration of `processEventQueue` can write: whatever the handlers report, an update
addresses entries this iteration has selected and sets an allowed status. The table holds the
rows of all events. -/
namespace EventQueue
open Js (Value)

/-- The columns of a row that no statement of a processor changes. -/
structure EventKey where
  type : String
  subType : String
  nameSpace : String
  deriving DecidableEq

/-- The event table, with the event of each row. -/
structure EventStore where
  table : Table
  eventOf : String → EventKey

/-- The rows the selection of a processor can see. -/
def EventStore.rowsOf (store : EventStore) (event : EventKey) : Table :=
  ⟨store.table.rows.filter (fun row => store.eventOf row.ID = event),
    store.table.nodup.sublist (List.filter_sublist.map Row.ID)⟩

namespace Chunk

variable {env : Environment} {setting : Setting}

/-- The group whose update is sent next; one without a status is passed over. -/
def nextGroup (tx : StatusTx) : Option Group := tx.groups.head?.filter (fun group => group.data.status.isSome)

/-- The status update the step issues, whether or not the database accepts it. -/
def issued (chunk : Chunk) : Action → Option Group
  | .exceededWrite _ =>
    match chunk.phase with
    | .exceededTx _ _ tx _ => nextGroup tx
    | _ => none
  | .write index _ =>
    match (chunk.clusterAt index).map Cluster.state with
    | some (.writing tx) => nextGroup tx
    | _ => none
  | .persistWrite _ =>
    match chunk.phase with
    | .persistTx tx => nextGroup tx
    | _ => none
  | _ => none

theorem issued_open {chunk : Chunk} {action : Action} {group : Group} (sent : chunk.issued action = some group) :
    ∃ tx ∈ chunk.openTxs, group ∈ tx.groups := by
  have member : ∀ tx, nextGroup tx = some group → group ∈ tx.groups := by
    intro tx next
    exact List.mem_of_head? (Option.filter_eq_some_iff.mp next).1
  unfold issued at sent
  split at sent
  · split at sent
    · rename_i tx _ phase
      exact ⟨tx,(mem_openTxs _ _).mpr (Or.inr (Or.inl ⟨_,_,_,phase⟩)),member tx sent⟩
    · cases sent
  · split at sent
    · rename_i tx given
      obtain ⟨cluster,found,state⟩ := Option.map_eq_some_iff.mp given
      obtain ⟨_,found⟩ := clusterAt_some chunk _ cluster found
      exact ⟨tx,(mem_openTxs _ _).mpr (Or.inl ⟨cluster,List.mem_of_getElem? found,state⟩),member tx sent⟩
    · cases sent
  · split at sent
    · rename_i tx phase
      exact ⟨tx,(mem_openTxs _ _).mpr (Or.inr (Or.inr phase)),member tx sent⟩
    · cases sent
  · cases sent

/-- A group of a status update: selected entries and an allowed status. -/
def Permitted (selectedEventMap : List String) (group : Group) : Prop :=
  group.ids ⊆ selectedEventMap ∧ group.data.hasStatus allowedStatuses = true

theorem open_permitted {now : Nat} {checked : Dict UpdateData} {tx : StatusTx} {selectedEventMap : List String}
    (opened : StatusTx.open env now checked = some tx)
    (fits : ∀ id data, checked.get? id = some data → id ∈ selectedEventMap ∧ data.hasStatus allowedStatuses = true) :
    ∀ group ∈ tx.groups, Permitted selectedEventMap group := by
  obtain ⟨groups,grouped,rfl⟩ := Option.map_eq_some_iff.mp opened
  have collected : Collected env checked.entries groups := by
    simpa using groupUpdates_collected env checked.entries [] [] groups ⟨by simp,by simp,by simp⟩ grouped
  intro group member
  constructor
  · intro id listed
    obtain ⟨data,here,_⟩ := collected.ids group member id listed
    exact (fits id data (Dict.mem_entries.mp here)).1
  · obtain ⟨id,here,_⟩ := collected.data group member
    exact (fits id _ (Dict.mem_entries.mp here)).2

theorem advance_groups {now : Nat} {ok : Bool} {tx next : StatusTx}
    (moved : advance env setting now ok tx = some next) : next.groups ⊆ tx.groups := by
  unfold advance at moved
  split at moved
  · obtain ⟨timestamp,groups,updates⟩ := tx
    cases groups with
    | nil => cases moved
    | cons group rest =>
      simp only [StatusTx.writeNext] at moved
      split at moved
      · cases moved
        exact List.subset_cons_self _ _
      · obtain ⟨update,_,rfl⟩ := Option.map_eq_some_iff.mp moved
        exact List.subset_cons_self _ _
  · cases moved

/-- What the instance may still write lies in its selection. -/
structure WithinSelection (chunk : Chunk) : Prop where
  selected : WritesSelected chunk
  groups : ∀ tx ∈ chunk.openTxs, ∀ group ∈ tx.groups, Permitted chunk.selectedEventMap group
  notCommited : chunk.notCommitedStatusMap ⊆ chunk.selectedEventMap

theorem WithinSelection.step {chunk next : Chunk} (within : WithinSelection chunk) {now : Nat} {action : Action}
    (taken : Taken env setting chunk now action next) : WithinSelection next := by
  obtain ⟨entries,map⟩ := taken.selection
  have refreshed : next.notCommitedStatusMap ⊆ next.selectedEventMap := by
    rw [map]
    exact fun id listed => within.notCommited (taken.notCommited listed)
  refine ⟨within.selected.step taken,?_,refreshed⟩
  intro tx member group planned
  rw [map]
  rcases taken.source member with kept | ⟨old,ok,kept,moved⟩ | ⟨statusMap,opened⟩ | ⟨_,opened⟩
  · exact within.groups tx kept group planned
  · exact within.groups old kept group (advance_groups moved planned)
  · obtain ⟨checked,known,opened⟩ := Option.bind_eq_some_iff.mp opened
    refine open_permitted opened ?_ group planned
    intro id data found
    obtain ⟨listed,allowed,_⟩ := (persistChecked_get _ _ _ known id data).mp found
    exact ⟨listed,allowed⟩
  · obtain ⟨filled,known,opened⟩ := Option.bind_eq_some_iff.mp opened
    refine open_permitted opened ?_ group planned
    intro id data found
    refine ⟨?_,filled_allowed within.selected.entries known id data found⟩
    rcases (persistFilled_get _ _ _ _ _ _ known within.selected.entries id data).mp found with
      ⟨listed,_,_⟩ | ⟨_,listed,_⟩
    · exact listed
    · exact within.selected.entries listed

theorem withinSelection_selected (openEvents exceededTriesExceeded exceededTries : List String) (timestamp : Nat) :
    WithinSelection (Chunk.selected openEvents exceededTriesExceeded exceededTries timestamp) := by
  have selected := writesSelected_selected openEvents exceededTriesExceeded exceededTries timestamp
  exact ⟨selected,by simp [openTxs,Chunk.selected],selected.entries⟩

theorem WithinSelection.run {chunk final : Chunk} (within : WithinSelection chunk) (actions : List (Nat × Action))
    (reached : Transition.run (Chunk.timed env setting) chunk actions = some final) :
    WithinSelection final ∧ final.selectedEventMap = chunk.selectedEventMap := by
  refine Transition.invariant (Chunk.timed env setting) (fun _ _ => True)
    (fun state => WithinSelection state ∧ state.selectedEventMap = chunk.selectedEventMap) ?_ _ _ _ ⟨within,rfl⟩
    (Transition.along_true _ _ _) reached
  rintro state entry next ⟨current,same⟩ _ taken
  have known := step_taken env setting state next entry.1 entry.2 taken
  exact ⟨current.step known,known.selection.2.trans same⟩

theorem WithinSelection.issued {chunk : Chunk} (within : WithinSelection chunk) {action : Action} {group : Group}
    (sent : chunk.issued action = some group) :
    group.ids ⊆ chunk.selectedEventMap ∧ ∃ status ∈ allowedStatuses, group.data.status = some (.nat status) := by
  obtain ⟨tx,member,listed⟩ := issued_open sent
  obtain ⟨ids,allowed⟩ := within.groups tx member group listed
  exact ⟨ids,(hasStatus_iff _ _).mp allowed⟩

/-- Whatever the table is by now, a step keeps the rows outside the selection. -/
theorem WithinSelection.keeps {chunk next : Chunk} (within : WithinSelection chunk) {now : Nat} {action : Action}
    (taken : chunk.step env setting now action = some next) {table : Table} {row : Row} (member : row ∈ table.rows)
    (outside : row.ID ∉ chunk.selectedEventMap) : row ∈ (System.tableAfter table chunk now action).rows := by
  unfold System.tableAfter
  split
  · rename_i found
    split
    · exact member
    · have own : row.ID ∉ chunk.valid found := by
        intro valid
        obtain ⟨entry,inside,same⟩ := List.mem_map.mp valid
        cases step_taken env setting chunk next now _ taken with
        | tick _ _ phase read =>
          exact outside (within.notCommited (same ▸ read entry (List.mem_filter.mp inside).1))
      exact List.mem_map.mpr ⟨row,member,if_neg own⟩
  · refine List.mem_map.mpr ⟨row,member,?_⟩
    exact apply_other _ _ (fun update listed inside => outside (within.selected.commits listed inside))

end Chunk

variable (config : SelectConfig)

theorem EventStore.mem_rowsOf {store : EventStore} {event : EventKey} {row : Row} :
    row ∈ (store.rowsOf event).rows ↔ row ∈ store.table.rows ∧ store.eventOf row.ID = event := by
  simp [EventStore.rowsOf]

theorem Table.row_unique {table : Table} {row other : Row} (one : row ∈ table.rows) (two : other ∈ table.rows)
    (same : row.ID = other.ID) : row = other :=
  List.inj_on_of_nodup_map table.nodup one two same

theorem System.valid_row {system : System} {chunk : Chunk} {found : List (String × Option Nat)} {ok : Bool}
    (reads : system.tickReads chunk (.tick found ok) = true) {row : Row} (member : row ∈ system.table.rows)
    (valid : row.ID ∈ chunk.valid found) :
    row.status = EventProcessingStatus.InProgress ∧ chunk.etagMap.get? row.ID = row.lastAttemptTimestamp := by
  obtain ⟨entry,listed,name⟩ := List.mem_map.mp valid
  obtain ⟨read,matching⟩ := List.mem_filter.mp listed
  simp only [tickReads,Bool.and_eq_true,decide_eq_true_eq] at reads
  rw [reads.1] at read
  obtain ⟨other,inside,rfl⟩ := List.mem_map.mp read
  obtain ⟨stored,fits⟩ := List.mem_filter.mp inside
  have unique := Table.row_unique stored member name
  subst unique
  simp only [Bool.and_eq_true,decide_eq_true_eq,beq_iff_eq] at fits matching
  exact ⟨fits.2,matching.2⟩

theorem selection_row {table : Table} {now startTime baseDate : Nat} {delayed : List String} {id : String}
    (chosen : id ∈ (System.selection config table now startTime baseDate delayed).selectedEventMap) :
    ∃ row ∈ table.entries config false startTime baseDate delayed,
      row.ID = id ∧ eventKind config baseDate row ≠ .delayedEvent := by
  simp only [System.selection,Chunk.selected,List.mem_append,mem_idsOfKind] at chosen
  rcases chosen with (⟨row,member,kind,same⟩ | ⟨row,member,kind,same⟩) | ⟨row,member,kind,same⟩ <;>
    exact ⟨row,member,same,by simp [kind]⟩

theorem Table.keeps_setToInProgress {table : Table} {ids : List String} {now : Nat} {row : Row}
    (member : row ∈ table.rows) (spared : row.ID ∉ ids) : row ∈ (table.setToInProgress ids now).rows :=
  List.mem_map.mpr ⟨row,member,if_neg spared⟩

theorem Table.setToInProgress_row {table : Table} {ids : List String} {now : Nat} {row : Row}
    (member : row ∈ table.rows) (chosen : row.ID ∈ ids) :
    row.toInProgress now ∈ (table.setToInProgress ids now).rows :=
  List.mem_map.mpr ⟨row,member,if_pos chosen⟩

theorem status_writes_stay_in_selection (env : Environment) (setting : Setting) (store : EventStore)
    (event : EventKey) (now startTime baseDate : Nat) (delayed : List String)
    (actions : List (Nat × Chunk.Action)) (chunk : Chunk)
    (reached : Transition.run (Chunk.timed env setting)
      (System.selection config (store.rowsOf event) now startTime baseDate delayed) actions = some chunk) :
    let chosen := (System.selection config (store.rowsOf event) now startTime baseDate delayed).selectedEventMap
    let selected := store.table.setToInProgress chosen now
    (∀ action group, chunk.issued action = some group →
      (∀ id ∈ group.ids, id ∈ chosen ∧ store.eventOf id = event ∧
        ∃ row ∈ selected.rows, row.ID = id ∧ row.status = EventProcessingStatus.InProgress) ∧
      ∃ status ∈ allowedStatuses, group.data.status = some (.nat status)) ∧
    (∀ row ∈ store.table.rows, store.eventOf row.ID ≠ event → row.ID ∉ chosen) ∧
    (∀ row ∈ (store.rowsOf event).entries config false startTime baseDate delayed,
      eventKind config baseDate row = .delayedEvent → row.ID ∉ chosen) ∧
    (∀ row ∈ store.table.rows, row.ID ∉ chosen → row ∈ selected.rows) ∧
    ∀ time action next, chunk.step env setting time action = some next → ∀ (table : Table), ∀ row ∈ table.rows,
      row.ID ∉ chosen → row ∈ (System.tableAfter table chunk time action).rows := by
  intro chosen selected
  obtain ⟨within,same⟩ := (Chunk.withinSelection_selected _ _ _ _).run actions reached
  change chunk.selectedEventMap = chosen at same
  have listed : ∀ id ∈ chosen, ∃ row ∈ store.table.rows, row.ID = id ∧ store.eventOf id = event ∧
      row ∈ (store.rowsOf event).rows ∧ eventKind config baseDate row ≠ .delayedEvent := by
    intro id inside
    obtain ⟨row,member,name,kind⟩ := selection_row config inside
    have own := (mem_entries_rows config member).1
    obtain ⟨stored,belongs⟩ := EventStore.mem_rowsOf.mp own
    exact ⟨row,stored,name,name ▸ belongs,own,kind⟩
  refine ⟨?_,?_,?_,?_,?_⟩
  · intro action group sent
    obtain ⟨ids,allowed⟩ := within.issued sent
    refine ⟨?_,allowed⟩
    intro id inside
    have own : id ∈ chosen := same ▸ ids inside
    obtain ⟨row,stored,rfl,belongs,_⟩ := listed id own
    exact ⟨own,belongs,row.toInProgress now,Table.setToInProgress_row stored own,rfl,rfl⟩
  · intro row _ foreign inside
    obtain ⟨_,_,_,belongs,_⟩ := listed row.ID inside
    exact foreign belongs
  · intro row member kind inside
    obtain ⟨other,_,name,_,own,open_⟩ := listed row.ID inside
    have unique := Table.row_unique own (mem_entries_rows config member).1 name
    exact open_ (unique ▸ kind)
  · intro row member spared
    exact Table.keeps_setToInProgress member spared
  · intro time action next taken table row member spared
    exact within.keeps taken member (same ▸ spared)

def mixedStore : EventStore :=
  ⟨System.twoEntries,fun id => if id = "e1" then ⟨"Mail","send","default"⟩ else ⟨"Mail","receive","default"⟩⟩

/-- The handler of the first row also reports a status for the second one. -/
def foreignReport : List (Nat × Chunk.Action) :=
  [(1,.preprocess (fun _ => .value)),(1,.cluster (some [("e1",["e1"])])),(2,.launch 0),(3,.processEvent 0 true),
    (4,.report 0 (.returned (.arr [.arr [.str "e1",.nat EventProcessingStatus.Done],
      .arr [.str "e2",.nat EventProcessingStatus.Done]]))),(5,.settle 0 false true)]

theorem status_writes_stay_in_selection_foreign_report :
    ∃ chunk, Transition.run (Chunk.timed .plain System.twoAtATime)
        (System.selection System.window (mixedStore.rowsOf ⟨"Mail","send","default"⟩) 1 1 1 []) foreignReport =
          some chunk ∧
      ∃ group, chunk.issued (.write 0 true) = some group ∧ group.ids = ["e1"] ∧
        ∃ status ∈ allowedStatuses, group.data.status = some (.nat status) := by
  have computed : ((Transition.run (Chunk.timed .plain System.twoAtATime)
      (System.selection System.window (mixedStore.rowsOf ⟨"Mail","send","default"⟩) 1 1 1 []) foreignReport).bind
      (fun chunk => chunk.issued (.write 0 true))).map Group.ids = some ["e1"] := by decide
  obtain ⟨group,sent,ids⟩ := Option.map_eq_some_iff.mp computed
  obtain ⟨chunk,reached,issued⟩ := Option.bind_eq_some_iff.mp sent
  obtain ⟨permitted,_⟩ := status_writes_stay_in_selection System.window .plain System.twoAtATime mixedStore
    ⟨"Mail","send","default"⟩ 1 1 1 [] foreignReport chunk reached
  exact ⟨chunk,reached,group,issued,ids,(permitted (.write 0 true) group issued).2⟩

end EventQueue

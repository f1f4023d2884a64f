import EventQueue.PersistEventStatus

/-! The rows of one ad-hoc event in the event table: the selection of
`getQueueEntriesAndSetToInProgress`, the refresh of a keep-alive tick and status updates.
Rows stand in the order of `createdAt` and `ID`. -/
namespace EventQueue

structure Row where
  ID : String
  status : Nat
  lastAttemptTimestamp : Option Nat
  attempts : Int
  startAfter : Option Int
  deriving DecidableEq

/-- `ID` is the key of the table. -/
structure Table where
  rows : List Row
  nodup : (rows.map Row.ID).Nodup

structure SelectConfig where
  selectMaxChunkSize : Nat
  /-- `runInterval * 1.2` in milliseconds. -/
  lookahead : Nat
  keepAliveMaxInProgressTime : Nat
  retryAttempts : Int

def TRIES_FOR_EXCEEDED_EVENTS : Int := 3
def EVENT_START_AFTER_HEADROOM : Int := 3 * 1000

namespace Table

def ids (table : Table) : List String := table.rows.map Row.ID

def change (table : Table) (f : Row → Row) (same : ∀ row, (f row).ID = row.ID) : Table :=
  ⟨table.rows.map f,by
    rw [List.map_map]
    exact (List.map_congr_left (fun row _ => same row)).symm ▸ table.nodup⟩

def insert (table : Table) (position : Nat) (row : Row) (fresh : row.ID ∉ table.ids) : Table :=
  ⟨table.rows.take position ++ row::table.rows.drop position,by
    have moved : (table.rows.take position ++ row::table.rows.drop position).Perm (row::table.rows) := by
      refine List.perm_middle.trans ?_
      rw [List.take_append_drop]
    refine (moved.map Row.ID).nodup_iff.mpr ?_
    exact List.nodup_cons.mpr ⟨fresh,table.nodup⟩⟩

end Table

variable (config : SelectConfig)

/-- The `where` clause of the selection; a periodic event leaves out errors. -/
def selectable (isPeriodic : Bool) (startTime baseDate : Nat) (row : Row) : Bool :=
  (match row.startAfter with
    | none => true
    | some startAfter => decide (startAfter ≤ baseDate + config.lookahead)) &&
  (decide (row.status = EventProcessingStatus.Open) &&
      (match row.lastAttemptTimestamp with
        | none => true
        | some last => decide (last ≤ startTime)) ||
    !isPeriodic && decide (row.status = EventProcessingStatus.Error) &&
      (match row.lastAttemptTimestamp with
        | none => false
        | some last => decide (last ≤ startTime)) ||
    decide (row.status = EventProcessingStatus.InProgress) &&
      (match row.lastAttemptTimestamp with
        | none => false
        | some last => decide (last + config.keepAliveMaxInProgressTime ≤ baseDate)))

/-- The entries the selection reads, without those it has put off before. -/
def Table.entries (table : Table) (isPeriodic : Bool) (startTime baseDate : Nat)
    (selectedDelayedEventIds : List String) : List Row :=
  (table.rows.filter (fun row => selectable config isPeriodic startTime baseDate row &&
    !selectedDelayedEventIds.contains row.ID)).take config.selectMaxChunkSize

inductive EventKind
  | exceededTriesExceeded
  | exceededTries
  | delayedEvent
  | openEvent
  deriving DecidableEq

def eventKind (baseDate : Nat) (row : Row) : EventKind :=
  if row.attempts = config.retryAttempts + TRIES_FOR_EXCEEDED_EVENTS then .exceededTriesExceeded
  else if config.retryAttempts ≤ row.attempts then .exceededTries
  else match row.startAfter with
    | none => .openEvent
    | some startAfter => if startAfter ≤ baseDate + EVENT_START_AFTER_HEADROOM then .openEvent else .delayedEvent

def idsOfKind (baseDate : Nat) (kind : EventKind) (entries : List Row) : List String :=
  (entries.filter (fun row => eventKind config baseDate row = kind)).map Row.ID

def Row.toInProgress (now : Nat) (row : Row) : Row :=
  {row with status := EventProcessingStatus.InProgress,lastAttemptTimestamp := some now,attempts := row.attempts + 1}

def Table.setToInProgress (table : Table) (eventsForProcessing : List String) (now : Nat) : Table :=
  table.change (fun row => if row.ID ∈ eventsForProcessing then row.toInProgress now else row)
    (fun row => by split <;> rfl)

def Table.refresh (table : Table) (validEventIds : List String) (newTs : Nat) : Table :=
  table.change (fun row => if row.ID ∈ validEventIds then {row with lastAttemptTimestamp := some newTs} else row)
    (fun row => by split <;> rfl)

def Update.apply (update : Update) (row : Row) : Row :=
  if row.ID ∈ update.ids then
    {row with
      status := update.status
      lastAttemptTimestamp := some update.lastAttemptTimestamp
      startAfter := update.startAfter.or row.startAfter
      attempts := if update.attemptTakenBack then row.attempts - 1 else row.attempts}
  else row

theorem apply_ID (updates : List Update) (row : Row) :
    (updates.foldl (fun row update => update.apply row) row).ID = row.ID := by
  induction updates generalizing row with
  | nil => rfl
  | cons update rest ih =>
    rw [List.foldl_cons,ih]
    unfold Update.apply
    split <;> rfl

def Table.update (table : Table) (updates : List Update) : Table :=
  table.change (fun row => updates.foldl (fun row update => update.apply row) row) (apply_ID updates)

def Table.inProgress (table : Table) (ids : List String) : List (String × Option Nat) :=
  (table.rows.filter (fun row => ids.contains row.ID && decide (row.status = EventProcessingStatus.InProgress))).map
    (fun row => (row.ID,row.lastAttemptTimestamp))

theorem Table.ids_change (table : Table) (f : Row → Row) (same : ∀ row, (f row).ID = row.ID) :
    (table.change f same).ids = table.ids := by
  unfold Table.ids Table.change
  rw [List.map_map]
  exact List.map_congr_left (fun row _ => same row)

theorem apply_other (updates : List Update) (row : Row) (other : ∀ update ∈ updates, row.ID ∉ update.ids) :
    updates.foldl (fun row update => update.apply row) row = row := by
  induction updates with
  | nil => rfl
  | cons update rest ih =>
    have first : update.apply row = row := if_neg (other update (by simp))
    rw [List.foldl_cons,first]
    exact ih (fun later member => other later (by simp [member]))

theorem apply_status (updates : List Update) (row : Row) (status : Nat)
    (agree : ∀ update ∈ updates, row.ID ∈ update.ids → update.status = status)
    (some : row.status = status ∨ ∃ update ∈ updates, row.ID ∈ update.ids) :
    (updates.foldl (fun row update => update.apply row) row).status = status := by
  induction updates generalizing row with
  | nil => simpa using some
  | cons update rest ih =>
    rw [List.foldl_cons]
    have key : (update.apply row).ID = row.ID := by
      unfold Update.apply
      split <;> rfl
    apply ih
    · intro later member listed
      exact agree later (by simp [member]) (key ▸ listed)
    · by_cases listed : row.ID ∈ update.ids
      · have new : (update.apply row).status = update.status := by simp [Update.apply,listed]
        exact Or.inl (new.trans (agree update (by simp) listed))
      · have kept : update.apply row = row := if_neg listed
        rw [kept]
        rcases some with old | ⟨later,member,inside⟩
        · exact Or.inl old
        · rcases List.mem_cons.mp member with rfl | rest
          · exact absurd inside listed
          · exact Or.inr ⟨later,rest,inside⟩

theorem Table.insert_perm (table : Table) (position : Nat) (row : Row) (fresh : row.ID ∉ table.ids) :
    (table.insert position row fresh).rows.Perm (row::table.rows) := by
  refine List.perm_middle.trans ?_
  rw [List.take_append_drop]

theorem Table.mem_insert {table : Table} {position : Nat} {row other : Row} (fresh : row.ID ∉ table.ids) :
    other ∈ (table.insert position row fresh).rows ↔ other = row ∨ other ∈ table.rows := by
  rw [(table.insert_perm position row fresh).mem_iff,List.mem_cons]

theorem Table.mem_setToInProgress {table : Table} {ids : List String} {now : Nat} {row : Row}
    (member : row ∈ (table.setToInProgress ids now).rows) :
    ∃ old ∈ table.rows, old.ID = row.ID ∧ (if old.ID ∈ ids then row = old.toInProgress now else row = old) := by
  obtain ⟨old,inside,rfl⟩ := List.mem_map.mp member
  refine ⟨old,inside,?_⟩
  split
  · exact ⟨rfl,rfl⟩
  · exact ⟨rfl,rfl⟩

theorem mem_entries_rows {table : Table} {isPeriodic : Bool} {startTime baseDate : Nat} {delayed : List String}
    {row : Row} (member : row ∈ table.entries config isPeriodic startTime baseDate delayed) :
    row ∈ table.rows ∧ selectable config isPeriodic startTime baseDate row = true := by
  have inside := List.mem_of_mem_take member
  obtain ⟨listed,fits⟩ := List.mem_filter.mp inside
  simp only [Bool.and_eq_true] at fits
  exact ⟨listed,fits.1⟩

theorem mem_idsOfKind {baseDate : Nat} {kind : EventKind} {entries : List Row} {id : String} :
    id ∈ idsOfKind config baseDate kind entries ↔
      ∃ row ∈ entries, eventKind config baseDate row = kind ∧ row.ID = id := by
  simp [idsOfKind,and_assoc]

theorem idsOfKind_nodup (table : Table) (isPeriodic : Bool) (startTime baseDate : Nat) (delayed : List String) :
    let entries := table.entries config isPeriodic startTime baseDate delayed
    (idsOfKind config baseDate .openEvent entries ++ idsOfKind config baseDate .exceededTriesExceeded entries ++
      idsOfKind config baseDate .exceededTries entries).Nodup := by
  intro entries
  have distinct : (entries.map Row.ID).Nodup :=
    table.nodup.sublist (((List.take_sublist _ _).trans List.filter_sublist).map Row.ID)
  have each : ∀ kind, (idsOfKind config baseDate kind entries).Nodup :=
    fun kind => distinct.sublist (List.filter_sublist.map Row.ID)
  have apart : ∀ first second, first ≠ second → ∀ id ∈ idsOfKind config baseDate first entries,
      ∀ other ∈ idsOfKind config baseDate second entries, id ≠ other := by
    intro first second differ id one other two equal
    obtain ⟨row,member,kind,rfl⟩ := (mem_idsOfKind config).mp one
    obtain ⟨again,inside,other,same⟩ := (mem_idsOfKind config).mp two
    have unique := List.inj_on_of_nodup_map distinct member inside (equal.trans same.symm)
    subst unique
    exact differ (kind.symm.trans other)
  rw [List.nodup_append,List.nodup_append]
  refine ⟨⟨each _,each _,apart _ _ (by simp)⟩,each _,?_⟩
  intro id one other two
  rcases List.mem_append.mp one with first | second
  · exact apart _ _ (by simp) id first other two
  · exact apart _ _ (by simp) id second other two

theorem selectable_inProgress {isPeriodic : Bool} {startTime baseDate : Nat} {row : Row}
    (fits : selectable config isPeriodic startTime baseDate row = true)
    (status : row.status = EventProcessingStatus.InProgress)
    {last : Nat} (known : row.lastAttemptTimestamp = some last) :
    last + config.keepAliveMaxInProgressTime ≤ baseDate := by
  simp only [selectable,status,known,Bool.and_eq_true,Bool.or_eq_true,decide_eq_true_eq] at fits
  rcases fits.2 with (⟨impossible,_⟩ | ⟨⟨_,impossible⟩,_⟩) | ⟨_,stale⟩
  · cases impossible
  · cases impossible
  · exact stale

theorem selectable_status {isPeriodic : Bool} {startTime baseDate : Nat} {row : Row}
    (fits : selectable config isPeriodic startTime baseDate row = true) :
    row.status ≠ EventProcessingStatus.Done ∧ row.status ≠ EventProcessingStatus.Exceeded := by
  simp only [selectable,Bool.and_eq_true,Bool.or_eq_true,decide_eq_true_eq] at fits
  rcases fits.2 with (⟨status,_⟩ | ⟨⟨_,status⟩,_⟩) | ⟨status,_⟩ <;> rw [status] <;> decide

theorem selectable_periodic {startTime baseDate : Nat} {row : Row}
    (fits : selectable config true startTime baseDate row = true) :
    row.status = EventProcessingStatus.Open ∨ row.status = EventProcessingStatus.InProgress := by
  simp only [selectable,Bool.and_eq_true,Bool.or_eq_true,decide_eq_true_eq] at fits
  rcases fits.2 with (⟨status,_⟩ | ⟨⟨impossible,_⟩,_⟩) | ⟨status,_⟩
  · exact Or.inl status
  · cases impossible
  · exact Or.inr status

end EventQueue

import EventQueue.PeriodicEvent
import EventQueue.Lib.Parties

/-! A periodic event never dies out as long as no selection gives up a row whose successor has not
been inserted: some row is open, or some row in progress still waits for its successor. -/
namespace EventQueue

def Table.Holds (table : Table) (id : String) (property : Nat → Prop) : Prop :=
  id ∈ table.ids ∧ ∀ row ∈ table.rows, row.ID = id → property row.status

theorem Table.Holds.change {table : Table} {id : String} {property later : Nat → Prop}
    (holds : table.Holds id property) (f : Row → Row) (same : ∀ row, (f row).ID = row.ID)
    (kept : ∀ row, row.ID = id → property row.status → later (f row).status) :
    (table.change f same).Holds id later := by
  refine ⟨by rw [Table.ids_change]; exact holds.1,?_⟩
  intro row member key
  obtain ⟨old,inside,rfl⟩ := List.mem_map.mp member
  rw [same] at key
  exact kept old key (holds.2 old inside key)

theorem Table.Holds.changeListed {table : Table} {id : String} {property later : Nat → Prop}
    (holds : table.Holds id property) {ids : List String} {f : Row → Row} {status : Nat}
    (statuses : ∀ row, (f row).status = status) (given : id ∈ ids → later status)
    (kept : id ∉ ids → ∀ old, property old → later old)
    (same : ∀ row, (if row.ID ∈ ids then f row else row).ID = row.ID) :
    (table.change (fun row => if row.ID ∈ ids then f row else row) same).Holds id later := by
  refine holds.change _ same ?_
  rintro row rfl old
  split
  · rename_i listed
    rw [statuses]
    exact given listed
  · rename_i other
    exact kept other row.status old

theorem Table.Holds.setPeriodicEventStatus {table : Table} {id : String} {property later : Nat → Prop}
    (holds : table.Holds id property) {ids : List String} {status : Nat} (given : id ∈ ids → later status)
    (kept : ∀ old, property old → later old) : (table.setPeriodicEventStatus ids status).Holds id later := by
  refine holds.changeListed ?_ given (fun _ => kept) _
  exact fun _ => rfl

theorem Table.Holds.setToError {table : Table} {id : String} {property later : Nat → Prop}
    (holds : table.Holds id property) {ids : List String} {now : Nat}
    (given : id ∈ ids → later EventProcessingStatus.Error) (kept : ∀ old, property old → later old) :
    (table.setToError ids now).Holds id later := by
  refine holds.changeListed ?_ given (fun _ => kept) _
  exact fun _ => rfl

theorem Table.Holds.setToInProgress {table : Table} {id : String} {property later : Nat → Prop}
    (holds : table.Holds id property) {ids : List String} {now : Nat}
    (given : id ∈ ids → later EventProcessingStatus.InProgress) (kept : id ∉ ids → ∀ old, property old → later old) :
    (table.setToInProgress ids now).Holds id later := by
  refine holds.changeListed ?_ given kept _
  exact fun _ => rfl

theorem Table.Holds.insert {table : Table} {id : String} {property : Nat → Prop} (holds : table.Holds id property)
    {position : Nat} {row : Row} (fresh : row.ID ∉ table.ids) :
    (table.insert position row fresh).Holds id property := by
  constructor
  · obtain ⟨old,member,rfl⟩ := List.mem_map.mp holds.1
    exact List.mem_map_of_mem ((Table.mem_insert fresh).mpr (Or.inr member))
  · intro other member key
    rcases (Table.mem_insert fresh).mp member with rfl | old
    · exact absurd holds.1 (key ▸ fresh)
    · exact holds.2 other old key

theorem Table.unique {table : Table} {one other : Row} (first : one ∈ table.rows) (second : other ∈ table.rows)
    (same : one.ID = other.ID) : one = other :=
  List.inj_on_of_nodup_map table.nodup first second same

def PeriodicRun.ids (run : PeriodicRun) : List String :=
  run.unscheduled.map Row.ID ++ (run.queueEntry.map Row.ID).toList

theorem PeriodicRun.mem_ids_unscheduled {run : PeriodicRun} {entry : Row} (member : entry ∈ run.unscheduled) :
    entry.ID ∈ run.ids := List.mem_append_left _ (List.mem_map_of_mem member)

/-- An execution that has no scheduling under way has no entry without successor, unless it failed. -/
def PeriodicRun.Staged (run : PeriodicRun) : Prop :=
  match run.stage with
  | .scheduling | .stopped => True
  | .selecting | .processing => run.unscheduled = []
  | .settingStatus status => run.unscheduled = [] ∧ status ≠ EventProcessingStatus.Open ∧
      status ≠ EventProcessingStatus.InProgress

@[simp] theorem PeriodicRun.track_unscheduled (run : PeriodicRun) (openEvents : List Row)
    (eventsForProcessing : List String) (now : Nat) :
    (run.track openEvents eventsForProcessing now).unscheduled = run.unscheduled := by
  unfold PeriodicRun.track
  split <;> rfl

@[simp] theorem PeriodicRun.track_queueEntry (run : PeriodicRun) (openEvents : List Row)
    (eventsForProcessing : List String) (now : Nat) :
    (run.track openEvents eventsForProcessing now).queueEntry = run.queueEntry := by
  unfold PeriodicRun.track
  split <;> rfl

theorem PeriodicRun.selected_unscheduled {run : PeriodicRun} (none : run.unscheduled = []) (openEvents : List Row)
    (eventsForProcessing : List String) (now : Nat) :
    (run.selected openEvents eventsForProcessing now).unscheduled = openEvents := by
  cases openEvents with
  | nil => simp [PeriodicRun.selected,none]
  | cons row rest => rfl

theorem PeriodicRun.selected_queueEntry (run : PeriodicRun) (openEvents : List Row)
    (eventsForProcessing : List String) (now : Nat) :
    (run.selected openEvents eventsForProcessing now).queueEntry = run.queueEntry := by
  cases openEvents <;> simp [PeriodicRun.selected]

theorem PeriodicRun.selected_staged {run : PeriodicRun} (none : run.unscheduled = []) (openEvents : List Row)
    (eventsForProcessing : List String) (now : Nat) : (run.selected openEvents eventsForProcessing now).Staged := by
  cases openEvents with
  | nil => cases entry : run.queueEntry <;> simp [PeriodicRun.selected,PeriodicRun.Staged,none,entry]
  | cons row rest => trivial

namespace PeriodicSystem

variable {config : PeriodicConfig}

/-- No selection turns a row into an error whose successor has not been inserted. -/
def SuccessorFirst (config : PeriodicConfig) (system : PeriodicSystem) (entry : Nat × PeriodicMove) : Prop :=
  match entry.2 with
  | .select _ startTime baseDate selectedDelayedEventIds true => ∀ run ∈ system.runs, ∀ entry ∈ run.unscheduled,
      entry.ID ∉ (system.rowsOfKind config startTime baseDate selectedDelayedEventIds .exceededTries).map Row.ID
  | _ => True

instance (config : PeriodicConfig) (system : PeriodicSystem) :
    (entry : Nat × PeriodicMove) → Decidable (SuccessorFirst config system entry)
  | (_,.select _ startTime baseDate selectedDelayedEventIds true) => inferInstanceAs (Decidable
      (∀ run ∈ system.runs, ∀ entry ∈ run.unscheduled, entry.ID ∉
        (system.rowsOfKind config startTime baseDate selectedDelayedEventIds .exceededTries).map Row.ID))
  | (_,.select _ _ _ _ false) | (_,.start) | (_,.schedule _ _ _ _ _ _ _) | (_,.process _ _ _) | (_,.keepAlive _ _)
  | (_,.setStatus _ _) | (_,.crash _) => .isTrue trivial

/-- Rows start without an attempt and have one as soon as they are in progress. -/
def Counted (row : Row) : Prop :=
  (row.status = EventProcessingStatus.Open → row.attempts = 0) ∧
    (row.status = EventProcessingStatus.InProgress → 1 ≤ row.attempts)

structure Alive (system : PeriodicSystem) : Prop where
  counted : ∀ row ∈ system.table.rows, Counted row
  waiting : ∀ run ∈ system.runs, ∀ entry ∈ run.unscheduled,
    system.table.Holds entry.ID (· = EventProcessingStatus.InProgress)
  taken : ∀ run ∈ system.runs, ∀ id ∈ run.ids,
    system.table.Holds id (· ≠ EventProcessingStatus.Open)
  apart : ∀ (first second : Nat) (one other : PeriodicRun), system.runs[first]? = some one →
    system.runs[second]? = some other → first ≠ second → ∀ entry ∈ one.unscheduled, entry.ID ∉ other.ids
  staged : ∀ run ∈ system.runs, run.Staged
  live : (∃ row ∈ system.table.rows, row.status = EventProcessingStatus.Open) ∨
    ∃ run ∈ system.runs, run.unscheduled ≠ []

theorem Alive.start {system : PeriodicSystem} (alive : Alive system) :
    Alive {system with runs := system.runs ++ [.started]} where
  counted := alive.counted
  waiting run member := by
    rcases List.mem_append.mp member with old | new
    · exact alive.waiting run old
    · rw [List.mem_singleton] at new
      subst new
      simp [PeriodicRun.started]
  taken run member := by
    rcases List.mem_append.mp member with old | new
    · exact alive.taken run old
    · rw [List.mem_singleton] at new
      subst new
      simp [PeriodicRun.started,PeriodicRun.ids]
  apart := by
    intro first second one other atFirst atSecond differ
    rcases Parties.getElem?_joined atFirst with oneOld | ⟨_,rfl⟩
    · rcases Parties.getElem?_joined atSecond with otherOld | ⟨_,rfl⟩
      · exact alive.apart first second one other oneOld otherOld differ
      · simp [PeriodicRun.started,PeriodicRun.ids]
    · simp [PeriodicRun.started]
  staged run member := by
    rcases List.mem_append.mp member with old | new
    · exact alive.staged run old
    · rw [List.mem_singleton] at new
      subst new
      rfl
  live := alive.live.imp_right (fun ⟨run,member,waits⟩ => ⟨run,List.mem_append_left _ member,waits⟩)

/-- One execution moves on; what the others wait for and have taken stays as it was. -/
theorem Alive.moved {system : PeriodicSystem} (alive : Alive system) {index : Nat} {run : PeriodicRun}
    (found : system.runs[index]? = some run) (table : Table) (changed : PeriodicRun)
    (counted : ∀ row ∈ table.rows, Counted row)
    (waiting : ∀ position other, system.runs[position]? = some other → position ≠ index → ∀ entry ∈ other.unscheduled,
      table.Holds entry.ID (· = EventProcessingStatus.InProgress))
    (own : ∀ entry ∈ changed.unscheduled,
      table.Holds entry.ID (· = EventProcessingStatus.InProgress))
    (taken : ∀ id, system.table.Holds id (· ≠ EventProcessingStatus.Open) →
      table.Holds id (· ≠ EventProcessingStatus.Open))
    (grown : ∀ id ∈ changed.ids, id ∈ run.ids ∨
      system.table.Holds id (· = EventProcessingStatus.Open) ∧
        table.Holds id (· ≠ EventProcessingStatus.Open))
    (kept : ∀ entry ∈ changed.unscheduled, entry ∈ run.unscheduled ∨
      system.table.Holds entry.ID (· = EventProcessingStatus.Open))
    (staged : changed.Staged)
    (live : (∃ row ∈ table.rows, row.status = EventProcessingStatus.Open) ∨ changed.unscheduled ≠ [] ∨
      ∃ position other, system.runs[position]? = some other ∧ position ≠ index ∧ other.unscheduled ≠ []) :
    Alive ⟨table,system.runs.set index changed⟩ := by
  have clash : ∀ {id : String}, system.table.Holds id (· = EventProcessingStatus.Open) →
      ¬ system.table.Holds id (· ≠ EventProcessingStatus.Open) := by
    rintro id ⟨listed,opened⟩ ⟨_,closed⟩
    obtain ⟨row,member,same⟩ := List.mem_map.mp listed
    exact closed row member same (opened row member same)
  have small := (List.getElem?_eq_some_iff.mp found).1
  refine ⟨counted,?_,?_,?_,?_,?_⟩
  · intro other member entry listed
    obtain ⟨position,at_⟩ := List.mem_iff_getElem?.mp member
    rcases Parties.getElem?_moved found at_ with ⟨_,rfl⟩ | ⟨differ,old⟩
    · exact own entry listed
    · exact waiting position other old differ entry listed
  · intro other member id listed
    rcases List.mem_or_eq_of_mem_set member with old | rfl
    · exact taken id (alive.taken other old id listed)
    · rcases grown id listed with before | ⟨_,closed⟩
      · exact taken id (alive.taken run (List.mem_of_getElem? found) id before)
      · exact closed
  · intro first second one other atFirst atSecond differ entry listed inside
    rcases Parties.getElem?_moved found atFirst with ⟨rfl,rfl⟩ | ⟨_,oneOld⟩
    · rcases Parties.getElem?_moved found atSecond with ⟨rfl,_⟩ | ⟨_,otherOld⟩
      · exact differ rfl
      · rcases kept entry listed with before | opened
        · exact alive.apart first second run other found otherOld differ entry before inside
        · exact clash opened (alive.taken other (List.mem_of_getElem? otherOld) entry.ID inside)
    · rcases Parties.getElem?_moved found atSecond with ⟨rfl,rfl⟩ | ⟨_,otherOld⟩
      · rcases grown entry.ID inside with before | ⟨opened,_⟩
        · exact alive.apart first second one run oneOld found differ entry listed before
        · exact clash opened (alive.taken one (List.mem_of_getElem? oneOld) entry.ID
            (PeriodicRun.mem_ids_unscheduled listed))
      · exact alive.apart first second one other oneOld otherOld differ entry listed inside
  · exact Parties.forall_mem_moved alive.staged staged
  · rcases live with opened | waits | ⟨position,other,at_,differ,waits⟩
    · exact Or.inl opened
    · exact Or.inr ⟨changed,List.mem_set small _,waits⟩
    · refine Or.inr ⟨other,List.mem_of_getElem? (i := position) ?_,waits⟩
      rw [List.getElem?_set_ne (fun equal => differ equal.symm)]
      exact at_

theorem Alive.live_at {system : PeriodicSystem} (alive : Alive system) (index : Nat) :
    (∃ row ∈ system.table.rows, row.status = EventProcessingStatus.Open) ∨
      (∃ run, system.runs[index]? = some run ∧ run.unscheduled ≠ []) ∨
      ∃ position other, system.runs[position]? = some other ∧ position ≠ index ∧ other.unscheduled ≠ [] := by
  rcases alive.live with opened | ⟨run,member,waits⟩
  · exact Or.inl opened
  · obtain ⟨position,at_⟩ := List.mem_iff_getElem?.mp member
    by_cases same : position = index
    · exact Or.inr (Or.inl ⟨run,same ▸ at_,waits⟩)
    · exact Or.inr (Or.inr ⟨position,run,at_,same,waits⟩)

theorem Alive.steady {system : PeriodicSystem} (alive : Alive system) {index : Nat} {run : PeriodicRun}
    (found : system.runs[index]? = some run) (f : Row → Row) (same : ∀ row, (f row).ID = row.ID)
    (status : ∀ row, (f row).status = row.status) (attempts : ∀ row, (f row).attempts = row.attempts)
    (changed : PeriodicRun) (entries : changed.unscheduled = run.unscheduled)
    (entry : changed.queueEntry = run.queueEntry) (staged : changed.Staged) :
    Alive ⟨system.table.change f same,system.runs.set index changed⟩ := by
  have kept : ∀ {property : Nat → Prop} {id : String}, system.table.Holds id property →
      (system.table.change f same).Holds id property := by
    intro property id holds
    exact holds.change f same (fun row _ old => (status row).symm ▸ old)
  refine alive.moved found _ changed ?_ ?_ ?_ ?_ ?_ ?_ staged ?_
  · intro row member
    obtain ⟨old,inside,rfl⟩ := List.mem_map.mp member
    unfold Counted
    rw [status,attempts]
    exact alive.counted old inside
  · intro position other at_ _ entry listed
    exact kept (alive.waiting other (List.mem_of_getElem? at_) entry listed)
  · intro entry listed
    exact kept (alive.waiting run (List.mem_of_getElem? found) entry (entries ▸ listed))
  · exact fun id holds => kept holds
  · intro id listed
    simp only [PeriodicRun.ids,entries,entry] at listed
    exact Or.inl listed
  · exact fun entry listed => Or.inl (entries ▸ listed)
  · rcases alive.live_at index with ⟨row,member,opened⟩ | ⟨same,at_,waits⟩ | elsewhere
    · exact Or.inl ⟨f row,List.mem_map_of_mem member,(status row).trans opened⟩
    · rw [found] at at_
      cases at_
      exact Or.inr (Or.inl (entries ▸ waits))
    · exact Or.inr (Or.inr elsewhere)

theorem Alive.setRun {system : PeriodicSystem} (alive : Alive system) {index : Nat} {run : PeriodicRun}
    (found : system.runs[index]? = some run) (changed : PeriodicRun)
    (entries : changed.unscheduled = run.unscheduled)
    (entry : changed.queueEntry = run.queueEntry) (staged : changed.Staged) :
    Alive (system.setRun index changed) := by
  have unchanged : system.table.change id (fun _ => rfl) = system.table := by simp [Table.change]
  have steady := alive.steady found id (fun _ => rfl) (fun _ => rfl) (fun _ => rfl) changed entries entry staged
  rw [unchanged] at steady
  exact steady

theorem Alive.keepAlive {system : PeriodicSystem} (alive : Alive system) {index : Nat} {run : PeriodicRun}
    (found : system.runs[index]? = some run) (now : Nat) (ok : Bool) :
    Alive (system.keepAlive index run now ok) := by
  have staged : (run.tick now (system.table.inProgress run.notCommitedStatusMap)).Staged :=
    alive.staged run (List.mem_of_getElem? found)
  unfold PeriodicSystem.keepAlive
  cases ok with
  | false => exact alive.setRun found _ rfl rfl staged
  | true =>
    refine alive.steady found _ (fun row => ?_) (fun row => ?_) (fun row => ?_) _ rfl rfl staged
    · split <;> rfl
    · split <;> rfl
    · split <;> rfl

theorem Alive.setStatus {system : PeriodicSystem} (alive : Alive system) {index : Nat} {run : PeriodicRun}
    {queueEntry : Row} {status : Nat} (found : system.runs[index]? = some run)
    (stage : run.stage = .settingStatus status) (entry : run.queueEntry = some queueEntry) :
    Alive (system.setStatus index run queueEntry status) := by
  have member := List.mem_of_getElem? found
  have staged := alive.staged run member
  simp only [PeriodicRun.Staged,stage] at staged
  obtain ⟨none,notOpen,notInProgress⟩ := staged
  have own : queueEntry.ID ∈ run.ids := by simp [PeriodicRun.ids,entry]
  refine alive.moved found _ _ ?_ ?_ ?_ ?_ ?_ ?_ ?_ ?_
  · intro row inside
    obtain ⟨old,listed,rfl⟩ := List.mem_map.mp inside
    split
    · exact ⟨fun same => absurd same notOpen,fun same => absurd same notInProgress⟩
    · exact alive.counted old listed
  · intro position other at_ differ waits listed
    refine (alive.waiting other (List.mem_of_getElem? at_) waits listed).setPeriodicEventStatus ?_ (fun _ old => old)
    intro own_
    rw [List.mem_singleton] at own_
    exact absurd (own_ ▸ own) (alive.apart position index other run at_ found differ waits listed)
  · simp [none]
  · exact fun id holds => holds.setPeriodicEventStatus (fun _ => notOpen) (fun _ old => old)
  · exact fun id listed => Or.inl listed
  · exact fun entry listed => Or.inl listed
  · cases more : run.processNext <;> simp [PeriodicRun.Staged,none]
  · rcases alive.live_at index with ⟨row,inside,opened⟩ | ⟨same,at_,waits⟩ | elsewhere
    · refine Or.inl ⟨row,List.mem_map.mpr ⟨row,inside,if_neg ?_⟩,opened⟩
      simp only [List.mem_singleton]
      intro equal
      exact (alive.taken run member queueEntry.ID own).2 row inside equal opened
    · rw [found] at at_
      cases at_
      exact absurd none waits
    · exact Or.inr (Or.inr elsewhere)

theorem Alive.schedule {system : PeriodicSystem} (alive : Alive system) {index : Nat} {run : PeriodicRun}
    {queueEntry : Row} {obsoleteEntries : List Row} (found : system.runs[index]? = some run)
    (entries : run.unscheduled = queueEntry::obsoleteEntries) (now : Nat) {ID : String} (position : Nat)
    (next : Int) (randomOffset later : Nat) (fresh : ID ∉ system.table.ids) :
    Alive (system.schedule config index run queueEntry obsoleteEntries now ID position next randomOffset later
      fresh) := by
  have obsolete : ∀ id ∈ obsoleteEntries.map Row.ID, id ∈ run.ids := by
    intro id listed
    exact List.mem_append_left _ (by rw [entries,List.map_cons]; exact List.mem_cons_of_mem _ listed)
  refine alive.moved found _ _ ?_ ?_ ?_ ?_ ?_ ?_ ?_ ?_
  · intro row inside
    rcases (Table.mem_insert _).mp inside with rfl | old
    · exact ⟨fun _ => rfl,fun same => (by cases same)⟩
    · obtain ⟨before,listed,rfl⟩ := List.mem_map.mp old
      split
      · exact ⟨fun same => (by cases same),fun same => (by cases same)⟩
      · exact alive.counted before listed
  · intro place other at_ differ waits listed
    have apart := alive.apart place index other run at_ found differ waits listed
    have holds := alive.waiting other (List.mem_of_getElem? at_) waits listed
    exact (holds.setPeriodicEventStatus (fun inside => absurd (obsolete _ inside) apart) (fun _ old => old)).insert _
  · simp
  · exact fun id holds => (holds.setPeriodicEventStatus (fun _ => by decide) (fun _ old => old)).insert _
  · intro id listed
    left
    simp only [PeriodicRun.ids,List.map_nil,List.nil_append,Option.map_some,Option.toList_some,
      List.mem_singleton] at listed
    simp [PeriodicRun.ids,entries,listed]
  · simp
  · rfl
  · exact Or.inl ⟨_,(Table.mem_insert _).mpr (Or.inl rfl),rfl⟩

theorem mem_rowsOfKind {system : PeriodicSystem} {startTime baseDate : Nat} {delayed : List String}
    {kind : EventKind} {row : Row} (member : row ∈ system.rowsOfKind config startTime baseDate delayed kind) :
    row ∈ system.table.rows ∧
      (row.status = EventProcessingStatus.Open ∨ row.status = EventProcessingStatus.InProgress) ∧
      eventKind config.select baseDate row = kind := by
  obtain ⟨listed,same⟩ := List.mem_filter.mp member
  obtain ⟨inside,fits⟩ := mem_entries_rows config.select listed
  exact ⟨inside,selectable_periodic config.select fits,of_decide_eq_true same⟩

theorem eventKind_fresh (config : PeriodicConfig) (baseDate : Nat) {row : Row} (attempts : row.attempts = 0) :
    eventKind config.select baseDate row = .openEvent ∨ eventKind config.select baseDate row = .delayedEvent := by
  simp only [eventKind,PeriodicConfig.select,attempts,TRIES_FOR_EXCEEDED_EVENTS]
  cases row.startAfter with
  | none => exact Or.inl rfl
  | some startAfter =>
    simp only
    split
    · rename_i impossible
      cases impossible
    · split
      · rename_i impossible
        cases impossible
      · split
        · exact Or.inl rfl
        · exact Or.inr rfl

theorem eventKind_openEvent {baseDate : Nat} {row : Row}
    (kind : eventKind config.select baseDate row = .openEvent) :
    row.attempts < 1 := by
  unfold eventKind at kind
  split at kind
  · cases kind
  · split at kind
    · cases kind
    · rename_i few
      exact Int.lt_of_not_ge few

theorem Alive.opened {system : PeriodicSystem} (alive : Alive system) {startTime baseDate : Nat}
    {delayed : List String}
    {row : Row} (member : row ∈ system.rowsOfKind config startTime baseDate delayed .openEvent) :
    system.table.Holds row.ID (· = EventProcessingStatus.Open) := by
  obtain ⟨inside,status,kind⟩ := mem_rowsOfKind member
  refine ⟨List.mem_map_of_mem inside,?_⟩
  intro other listed same
  have equal := Table.unique listed inside same
  subst equal
  rcases status with opened | inProgress
  · exact opened
  · have attempted := (alive.counted other inside).2 inProgress
    have few := eventKind_openEvent kind
    omega

theorem Alive.unread {system : PeriodicSystem} (alive : Alive system) {startTime baseDate : Nat}
    {delayed : List String}
    {row : Row} (inside : row ∈ system.table.rows) (opened : row.status = EventProcessingStatus.Open)
    (kind : EventKind) (notOpen : kind ≠ .openEvent) (notDelayed : kind ≠ .delayedEvent) :
    row.ID ∉ (system.rowsOfKind config startTime baseDate delayed kind).map Row.ID := by
  intro listed
  obtain ⟨entry,member,same⟩ := List.mem_map.mp listed
  obtain ⟨read,_,known⟩ := mem_rowsOfKind member
  have equal := Table.unique read inside same
  subst equal
  rcases eventKind_fresh config baseDate ((alive.counted entry inside).1 opened) with fresh | late
  · exact notOpen (known.symm.trans fresh)
  · exact notDelayed (known.symm.trans late)

theorem Alive.attempted {system : PeriodicSystem} (alive : Alive system) {startTime baseDate : Nat}
    {delayed : List String} {row : Row} (inside : row ∈ system.table.rows) {kind : EventKind}
    (listed : row.ID ∈ (system.rowsOfKind config startTime baseDate delayed kind).map Row.ID) : 0 ≤ row.attempts := by
  obtain ⟨entry,member,same⟩ := List.mem_map.mp listed
  obtain ⟨read,status,_⟩ := mem_rowsOfKind member
  have equal := Table.unique read inside same
  subst equal
  rcases status with opened | inProgress
  · exact Int.le_of_eq ((alive.counted entry read).1 opened).symm
  · exact Int.le_trans (by decide) ((alive.counted entry read).2 inProgress)

theorem Alive.selectedCounted {system : PeriodicSystem} (alive : Alive system) (index : Nat) (run : PeriodicRun)
    (now startTime baseDate : Nat) (delayed : List String) (row : Row)
    (member : row ∈ (system.select config index run now startTime baseDate delayed).table.rows) : Counted row := by
  obtain ⟨middle,between,rfl⟩ := List.mem_map.mp member
  obtain ⟨old,inside,rfl⟩ := List.mem_map.mp between
  by_cases chosen : old.ID ∈ (system.rowsOfKind config startTime baseDate delayed .openEvent).map Row.ID ++
      (system.rowsOfKind config startTime baseDate delayed .exceededTriesExceeded).map Row.ID
  · have counted : 0 ≤ old.attempts :=
      (List.mem_append.mp chosen).elim (alive.attempted inside) (alive.attempted inside)
    have more : 1 ≤ old.attempts + 1 := by omega
    split
    · exact ⟨fun same => (by cases same),fun _ => more⟩
    · exact ⟨fun same => (by cases same),fun _ => more⟩
  · split
    · exact ⟨fun same => (by cases same),fun same => (by cases same)⟩
    · exact alive.counted old inside

theorem Alive.started {system : PeriodicSystem} (alive : Alive system) (index : Nat) (run : PeriodicRun)
    (now startTime baseDate : Nat) (delayed : List String) (entry : Row)
    (member : entry ∈ system.rowsOfKind config startTime baseDate delayed .openEvent) :
    (system.select config index run now startTime baseDate delayed).table.Holds entry.ID
      (· = EventProcessingStatus.InProgress) := by
  have chosen : entry.ID ∈ (system.rowsOfKind config startTime baseDate delayed .openEvent).map Row.ID ++
      (system.rowsOfKind config startTime baseDate delayed .exceededTriesExceeded).map Row.ID :=
    List.mem_append_left _ (List.mem_map_of_mem member)
  have listed : system.table.Holds entry.ID (fun _ => True) := ⟨(alive.opened member).1,fun _ _ _ => trivial⟩
  exact (listed.setToError (fun _ => trivial) (fun _ _ => trivial)).setToInProgress (fun _ => rfl)
    (fun other => absurd chosen other)

theorem Alive.select {system : PeriodicSystem} (alive : Alive system) {index : Nat} {run : PeriodicRun}
    (found : system.runs[index]? = some run) (stage : run.stage = .selecting) (now : Nat) {startTime baseDate : Nat}
    {delayed : List String}
    (successorFirst : ∀ run ∈ system.runs, ∀ entry ∈ run.unscheduled,
      entry.ID ∉ (system.rowsOfKind config startTime baseDate delayed .exceededTries).map Row.ID) :
    Alive (system.select config index run now startTime baseDate delayed) := by
  have none : run.unscheduled = [] := by
    have staged := alive.staged run (List.mem_of_getElem? found)
    simpa only [PeriodicRun.Staged,stage] using staged
  have started := @Alive.started config system alive index run now startTime baseDate delayed
  refine alive.moved found _ _ ?_ ?_ ?_ ?_ ?_ ?_ (PeriodicRun.selected_staged none _ _ _) ?_
  · exact alive.selectedCounted index run now startTime baseDate delayed
  · intro position other at_ _ entry listed
    have inside := List.mem_of_getElem? at_
    exact ((alive.waiting other inside entry listed).setToError
      (fun given => absurd given (successorFirst other inside entry listed)) (fun _ old => old)).setToInProgress
      (fun _ => rfl) (fun _ _ old => old)
  · rw [PeriodicRun.selected_unscheduled none]
    exact started
  · intro id holds
    exact (holds.setToError (fun _ => by decide) (fun _ old => old)).setToInProgress (fun _ => by decide)
      (fun _ _ old => old)
  · intro id listed
    rw [PeriodicRun.ids,PeriodicRun.selected_unscheduled none,PeriodicRun.selected_queueEntry] at listed
    rcases List.mem_append.mp listed with new | old
    · obtain ⟨entry,member,rfl⟩ := List.mem_map.mp new
      refine Or.inr ⟨alive.opened member,(started entry member).1,?_⟩
      intro row inside same opened
      rw [(started entry member).2 row inside same] at opened
      cases opened
    · exact Or.inl (List.mem_append_right _ old)
  · rw [PeriodicRun.selected_unscheduled none]
    exact fun entry member => Or.inr (alive.opened member)
  · rw [PeriodicRun.selected_unscheduled none]
    by_cases nothing : system.rowsOfKind config startTime baseDate delayed .openEvent = []
    · rcases alive.live_at index with ⟨row,inside,opened⟩ | ⟨same,at_,waits⟩ | elsewhere
      · refine Or.inl ⟨row,List.mem_map.mpr ⟨row,List.mem_map.mpr ⟨row,inside,?_⟩,?_⟩,opened⟩
        · exact if_neg (alive.unread inside opened .exceededTries (by simp) (by simp))
        · refine if_neg ?_
          rw [nothing]
          exact alive.unread inside opened .exceededTriesExceeded (by simp) (by simp)
      · rw [found] at at_
        cases at_
        exact absurd none waits
      · exact Or.inr (Or.inr elsewhere)
    · exact Or.inr (Or.inl nothing)

theorem Alive.step {system next : PeriodicSystem} (alive : Alive system) {now : Nat} {move : PeriodicMove}
    (successorFirst : SuccessorFirst config system (now,move)) (taken : Taken config system now move next) :
    Alive next := by
  cases taken with
  | start => exact alive.start
  | select index startTime baseDate delayed run found stage => exact alive.select found stage now successorFirst
  | schedule index ID position date randomOffset later run queueEntry obsoleteEntries found stage entries fresh =>
    exact alive.schedule found entries now position date randomOffset later fresh
  | process index thrown run found stage =>
    have staged := alive.staged run (List.mem_of_getElem? found)
    simp only [PeriodicRun.Staged,stage] at staged
    refine alive.setRun found _ rfl rfl ⟨staged,?_⟩
    cases thrown <;> decide
  | keepAlive index ok run found running => exact alive.keepAlive found now ok
  | setStatus index run queueEntry status found stage entry => exact alive.setStatus found stage entry
  | stop move index run found => exact alive.setRun found run.stop rfl rfl trivial

/-- The first row of the event is inserted when no row of it is open or in progress. -/
theorem alive_initial (old : Table) (position : Nat) (ID : String) (startAfter : Int) (fresh : ID ∉ old.ids)
    (missing : ∀ row ∈ old.rows,
      row.status ≠ EventProcessingStatus.Open ∧ row.status ≠ EventProcessingStatus.InProgress) :
    Alive ⟨old.insert position (newEvent ID startAfter) fresh,[]⟩ where
  counted row member := by
    rcases (Table.mem_insert fresh).mp member with rfl | inside
    · exact ⟨fun _ => rfl,fun same => (by cases same)⟩
    · exact ⟨fun same => absurd same (missing row inside).1,fun same => absurd same (missing row inside).2⟩
  waiting := by simp
  taken := by simp
  apart := by simp
  staged := by simp
  live := Or.inl ⟨_,(Table.mem_insert fresh).mpr (Or.inl rfl),rfl⟩

/-- In every run in which no selection gives up a row without successor, a row of the event is open
or in progress. -/
theorem periodic_event_lives (config : PeriodicConfig) (old : Table) (position : Nat) (ID : String)
    (startAfter : Int) (fresh : ID ∉ old.ids)
    (missing : ∀ row ∈ old.rows,
      row.status ≠ EventProcessingStatus.Open ∧ row.status ≠ EventProcessingStatus.InProgress)
    (moves : List (Nat × PeriodicMove)) (system : PeriodicSystem)
    (guarded : Transition.Along (step config) (SuccessorFirst config)
      ⟨old.insert position (newEvent ID startAfter) fresh,[]⟩ moves)
    (reached : Transition.run (step config) ⟨old.insert position (newEvent ID startAfter) fresh,[]⟩ moves =
      some system) :
    ∃ row ∈ system.table.rows,
      row.status = EventProcessingStatus.Open ∨ row.status = EventProcessingStatus.InProgress := by
  have alive : Alive system := by
    refine Transition.invariant (step config) _ Alive ?_ _ _ _
      (alive_initial old position ID startAfter fresh missing) guarded reached
    rintro state ⟨now,move⟩ next alive successorFirst taken
    exact alive.step successorFirst (step_taken config state next now move taken)
  rcases alive.live with ⟨row,member,opened⟩ | ⟨run,member,waits⟩
  · exact ⟨row,member,Or.inl opened⟩
  · obtain ⟨entry,listed⟩ := List.exists_mem_of_ne_nil _ waits
    obtain ⟨present,inProgress⟩ := alive.waiting run member entry listed
    obtain ⟨row,inside,same⟩ := List.mem_map.mp present
    exact ⟨row,inside,Or.inr (inProgress row inside same)⟩

/-- An event every minute and a keep-alive window of 210 seconds. -/
def everyMinute : PeriodicConfig := ⟨100,25 * 60 * 1000,210 * 1000,false,60⟩

/-- The event ran once in an earlier deployment. -/
def earlierRow : Table := ⟨[⟨"p0",EventProcessingStatus.Done,some 10,1,some 5⟩],by decide⟩

/-- A first instance selects the row and inserts its successor or fails to; the second one comes after
the keep-alive window. -/
def twoRounds (ok : Bool) : List (Nat × PeriodicMove) :=
  [(1000,.start),(1000,.select 0 1000 1000 [] true),(1001,.schedule 0 "p2" 2 0 0 1001 ok),
    (212000,.start),(212000,.select 1 212000 212000 [] true)]

theorem periodic_event_lives_two_rounds :
    ∃ system ∈ Transition.run (step everyMinute) ⟨earlierRow.insert 1 (newEvent "p1" 900) (by decide),[]⟩
        (twoRounds true),
      system.table.rows.map Row.status = [2,3,1] ∧ ∃ row ∈ system.table.rows,
        row.status = EventProcessingStatus.Open ∨ row.status = EventProcessingStatus.InProgress := by
  have computed : ∃ system ∈ Transition.run (step everyMinute)
      ⟨earlierRow.insert 1 (newEvent "p1" 900) (by decide),[]⟩ (twoRounds true),
      system.table.rows.map Row.status = [2,3,1] := by decide
  obtain ⟨system,reached,statuses⟩ := computed
  exact ⟨system,reached,statuses,periodic_event_lives everyMinute earlierRow 1 "p1" 900 (by decide) (by decide) _ system
    (by decide) reached⟩

/-- The insertion of the successor fails: the next selection gives up the row and no other one is left. -/
theorem periodic_event_dies_out :
    ∃ system ∈ Transition.run (step everyMinute) ⟨earlierRow.insert 1 (newEvent "p1" 900) (by decide),[]⟩
        (twoRounds false),
      ¬ ∃ row ∈ system.table.rows,
        row.status = EventProcessingStatus.Open ∨ row.status = EventProcessingStatus.InProgress := by
  decide

end PeriodicSystem

end EventQueue

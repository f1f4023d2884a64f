import EventQueue.EventTable
import Mathlib.Data.List.Sort
import Mathlib.Tactic

/-! One call of `getQueueEntriesAndSetToInProgress` on the whole event table: the query, the four classes of
`#clusterEvents`, the update, the exclusion list of the run and the scheduler. Times are in milliseconds. -/
namespace EventQueue.Selection

/-- A row of `sap.eventqueue.Event`. -/
structure Row where
  ID : String
  type : String
  subType : String
  referenceEntity : Option String
  referenceEntityKey : Option String
  status : Nat
  payload : Option String
  attempts : Int
  lastAttemptTimestamp : Option Int
  createdAt : Option Int
  startAfter : Option Int
  context : Option String
  error : Option String
  nameSpace : Option String
  deriving DecidableEq

structure Table where
  rows : List Row
  nodup : (rows.map Row.ID).Nodup

/-- The number a date is built from loses its fraction. -/
def newDate (time : Rat) : Int := time.num.tdiv time.den

def digits (width : Nat) (number : Nat) : String :=
  let text := toString number
  String.ofList (List.replicate (width - text.length) '0') ++ text

/-- Year, month and day of a day counted from 1970, in the proleptic Gregorian calendar. -/
def civil (day : Int) : Int × Nat × Nat :=
  let shifted := day + 719468
  let era := shifted.fdiv 146097
  let dayOfEra := (shifted - era * 146097).toNat
  let yearOfEra := (dayOfEra - dayOfEra / 1460 + dayOfEra / 36524 - dayOfEra / 146096) / 365
  let dayOfYear := dayOfEra - (365 * yearOfEra + yearOfEra / 4 - yearOfEra / 100)
  let march := (5 * dayOfYear + 2) / 153
  let month := if march < 10 then march + 3 else march - 9
  (yearOfEra + era * 400 + (if month ≤ 2 then 1 else 0),month,dayOfYear - (153 * march + 2) / 5 + 1)

def toISOString (date : Int) : String :=
  let (year,month,day) := civil (date.fdiv 86400000)
  let inDay := (date.fmod 86400000).toNat
  let yearText := if 0 ≤ year ∧ year ≤ 9999 then digits 4 year.toNat
    else (if year < 0 then "-" else "+") ++ digits 6 year.natAbs
  yearText ++ "-" ++ digits 2 month ++ "-" ++ digits 2 day ++ "T" ++ digits 2 (inDay / 3600000) ++ ":" ++
    digits 2 (inDay / 60000 % 60) ++ ":" ++ digits 2 (inDay / 1000 % 60) ++ "." ++ digits 3 (inDay % 1000) ++ "Z"

example : toISOString 1709208123045 = "2024-02-29T12:02:03.045Z" := by decide

structure Processor where
  tenant : Option String
  eventType : String
  eventSubType : String
  nameSpace : String
  isPeriodic : Bool
  retryAttempts : Int
  selectMaxChunkSize : Nat
  runInterval : Nat
  /-- In seconds. -/
  keepAliveMaxInProgressTime : Rat
  startTime : Int

structure Clock where
  baseDate : Nat
  scheduledAt : Nat
  failedAt : Nat
  timestamp : Nat

section
variable (processor : Processor)

def refDateStartAfter (baseDate : Nat) : Int := newDate (baseDate + processor.runInterval * (6 / 5 : Rat))

def stuckDate (baseDate : Nat) : Int := newDate (baseDate - processor.keepAliveMaxInProgressTime * 1000)

/-- `column <= value`; a comparison with null does not hold. -/
def atMost (column : Option Int) (value : Int) : Bool := column.any (fun time => decide (time ≤ value))

/-- The `where` clause of the selection; a periodic event leaves out errors. -/
def whereClause (baseDate : Nat) (row : Row) : Bool :=
  decide (row.type = processor.eventType) && decide (row.subType = processor.eventSubType) &&
    decide (row.nameSpace = some processor.nameSpace) &&
    (row.startAfter.isNone || atMost row.startAfter (refDateStartAfter processor baseDate)) &&
    (decide (row.status = EventProcessingStatus.Open) &&
        (atMost row.lastAttemptTimestamp processor.startTime || row.lastAttemptTimestamp.isNone) ||
      !processor.isPeriodic && decide (row.status = EventProcessingStatus.Error) &&
        atMost row.lastAttemptTimestamp processor.startTime ||
      decide (row.status = EventProcessingStatus.InProgress) &&
        atMost row.lastAttemptTimestamp (stuckDate processor baseDate))

/-- `orderBy("createdAt", "ID")`, null first. -/
def before (first second : Row) : Bool :=
  match first.createdAt,second.createdAt with
  | none,none => decide (first.ID ≤ second.ID)
  | none,some _ => true
  | some _,none => false
  | some earlier,some later => decide (earlier < later) || decide (earlier = later) && decide (first.ID ≤ second.ID)

def entries (baseDate : Nat) (selectedDelayedEventIds : List String) (table : Table) : List Row :=
  ((table.rows.filter (fun row => whereClause processor baseDate row &&
    !selectedDelayedEventIds.contains row.ID)).insertionSort (fun first second => before first second = true)).take
      processor.selectMaxChunkSize

structure Clustered where
  exceededTries : List Row
  openEvents : List Row
  exceededTriesExceeded : List Row
  delayedEvents : List Row

def refDate (refDateStartAfter : Int) : Int :=
  newDate (refDateStartAfter - processor.runInterval * (6 / 5 : Rat) + EVENT_START_AFTER_HEADROOM)

def isDelayedEvent (event : Row) (refDate : Int) : Bool :=
  match event.startAfter with
  | none => false
  | some startAfter => !decide (startAfter ≤ refDate)

/-- One step of the `reduce` in `#clusterEvents`. -/
def clusterEvent (refDate : Int) (result : Clustered) (event : Row) : Clustered :=
  if event.attempts = processor.retryAttempts + TRIES_FOR_EXCEEDED_EVENTS then
    {result with exceededTriesExceeded := result.exceededTriesExceeded ++ [event]}
  else if processor.retryAttempts ≤ event.attempts then
    {result with exceededTries := result.exceededTries ++ [event]}
  else if isDelayedEvent event refDate then {result with delayedEvents := result.delayedEvents ++ [event]}
  else {result with openEvents := result.openEvents ++ [event]}

def clusterEvents (events : List Row) (refDateStartAfter : Int) : Clustered :=
  events.foldl (clusterEvent processor (refDate processor refDateStartAfter)) ⟨[],[],[],[]⟩

end

structure Timer where
  tenantId : Option String
  type : String
  subType : String
  nameSpace : Option String
  date : Int
  relative : Int

def scheduleKey (tenantId : Option String) (type subType : String) (nameSpace : Option String) (date : Int) : String :=
  "##".intercalate [tenantId.getD "",type,subType,nameSpace.getD "",toISOString date]

def Timer.key (timer : Timer) : String :=
  scheduleKey timer.tenantId timer.type timer.subType timer.nameSpace timer.date

structure Scheduler where
  scheduledEvents : List String
  timers : List Timer

def Scheduler.scheduleEvent (now : Nat) (tenantId : Option String) (type subType : String) (nameSpace : Option String)
    (startAfter : Int) (scheduler : Scheduler) : Scheduler :=
  let key := scheduleKey tenantId type subType nameSpace startAfter
  if scheduler.scheduledEvents.contains key then scheduler
  else ⟨scheduler.scheduledEvents ++ [key],
    scheduler.timers ++ [⟨tenantId,type,subType,nameSpace,startAfter,startAfter - now⟩]⟩

/-- What a call leaves behind: the table, the entries it returns, and the fields of the processor, its run and the
scheduler. -/
structure Result where
  table : Table
  openEvents : List Row
  eventsWithExceededTries : List Row
  exceededTriesExceeded : List Row
  selectedEventMap : List String
  queueEntries : List String
  notCommitedStatusMap : List String
  etagMap : List (String × Option Int)
  emptyChunkSelected : Bool
  selectedDelayedEventIds : List String
  scheduler : Scheduler

/-- The exclusion list and the scheduler after `#handleDelayedEvents`; a delayed event has a `startAfter`. -/
def handleDelayedEvent (processor : Processor) (now : Nat) (state : List String × Scheduler) (delayedEvent : Row) :
    List String × Scheduler :=
  (state.1 ++ [delayedEvent.ID],match delayedEvent.startAfter with
    | none => state.2
    | some startAfter => state.2.scheduleEvent now processor.tenant processor.eventType processor.eventSubType
        delayedEvent.nameSpace startAfter)

def Row.toInProgress (timestamp : Nat) (row : Row) : Row :=
  {row with
    status := EventProcessingStatus.InProgress
    lastAttemptTimestamp := some timestamp
    attempts := row.attempts + 1}

def Row.toError (timestamp : Nat) (row : Row) : Row :=
  {row with status := EventProcessingStatus.Error,lastAttemptTimestamp := some timestamp}

def Table.updateWhere (ids : List String) (set : Row → Row) (same : ∀ row, (set row).ID = row.ID) (table : Table) :
    Table :=
  ⟨table.rows.map (fun row => if row.ID ∈ ids then set row else row),by
    rw [List.map_map]
    have kept : table.rows.map (Row.ID ∘ fun row => if row.ID ∈ ids then set row else row) = table.rows.map Row.ID := by
      apply List.map_congr_left
      intro row _
      simp only [Function.comp_apply]
      split
      · exact same row
      · rfl
    rw [kept]
    exact table.nodup⟩

/-- An entry as it is returned: with the new timestamp, and without a null payload. -/
def Row.handedOut (timestamp : Nat) (row : Row) : Row :=
  {row with lastAttemptTimestamp := some timestamp,payload := some (row.payload.getD "")}

def getQueueEntriesAndSetToInProgress (processor : Processor) (clock : Clock) (selectedDelayedEventIds : List String)
    (scheduler : Scheduler) (table : Table) : Result :=
  let found := entries processor clock.baseDate selectedDelayedEventIds table
  if found.isEmpty then ⟨table,[],[],[],[],[],[],[],true,selectedDelayedEventIds,scheduler⟩
  else
    let clustered := clusterEvents processor found (refDateStartAfter processor clock.baseDate)
    let eventsForProcessing := clustered.openEvents ++ clustered.exceededTriesExceeded ++
      (if processor.isPeriodic then [] else clustered.exceededTries)
    let ids := eventsForProcessing.map Row.ID
    let delayed := clustered.delayedEvents.foldl (handleDelayedEvent processor clock.scheduledAt)
      (selectedDelayedEventIds,scheduler)
    let failed := if processor.isPeriodic then
        table.updateWhere (clustered.exceededTries.map Row.ID) (Row.toError clock.failedAt) (fun _ => rfl)
      else table
    let openEvents := clustered.openEvents.map (Row.handedOut clock.timestamp)
    ⟨failed.updateWhere ids (Row.toInProgress clock.timestamp) (fun _ => rfl),openEvents,
      if processor.isPeriodic then [] else clustered.exceededTries.map (Row.handedOut clock.timestamp),
      clustered.exceededTriesExceeded.map (Row.handedOut clock.timestamp),ids,openEvents.map Row.ID,
      openEvents.map Row.ID,openEvents.map (fun event => (event.ID,event.lastAttemptTimestamp)),false,delayed.1,delayed.2⟩

def Clustered.ofKind (clustered : Clustered) : EventKind → List Row
  | .exceededTriesExceeded => clustered.exceededTriesExceeded
  | .exceededTries => clustered.exceededTries
  | .delayedEvent => clustered.delayedEvents
  | .openEvent => clustered.openEvents

def kindOf (processor : Processor) (refDate : Int) (event : Row) : EventKind :=
  if event.attempts = processor.retryAttempts + TRIES_FOR_EXCEEDED_EVENTS then .exceededTriesExceeded
  else if processor.retryAttempts ≤ event.attempts then .exceededTries
  else if isDelayedEvent event refDate then .delayedEvent
  else .openEvent

/-- The scheduler has a run for the combination of the processor at the given date, with a timer unless it was
scheduled before. -/
def Registered (scheduler result : Scheduler) (processor : Processor) (startAfter : Int) : Prop :=
  let key := scheduleKey processor.tenant processor.eventType processor.eventSubType (some processor.nameSpace) startAfter
  key ∈ result.scheduledEvents ∧ (key ∈ scheduler.scheduledEvents ∨ ∃ timer ∈ result.timers, timer.key = key)

theorem newDate_eq_floor {time : Rat} (positive : 0 ≤ time) : newDate time = ⌊time⌋ := by
  rw [newDate,Int.tdiv_eq_ediv_of_nonneg (Rat.num_nonneg.mpr positive),Rat.floor_def']

section
variable (processor : Processor)

theorem scaled_eq (runInterval : Nat) :
    (runInterval : Rat) * (6 / 5) = (6 * runInterval / 5 : Nat) + ((6 * runInterval % 5 : Nat) : Rat) / 5 := by
  have parts := Nat.div_add_mod (6 * runInterval) 5
  have cast : (5 : Rat) * (6 * runInterval / 5 : Nat) + (6 * runInterval % 5 : Nat) = 6 * runInterval := by
    exact_mod_cast parts
  linarith

theorem refDateStartAfter_eq (baseDate : Nat) :
    refDateStartAfter processor baseDate = baseDate + (6 * processor.runInterval / 5 : Nat) := by
  have rest : ((6 * processor.runInterval % 5 : Nat) : Rat) < 5 := by
    exact_mod_cast Nat.mod_lt _ (by decide)
  have nonnegative : (0 : Rat) ≤ (6 * processor.runInterval % 5 : Nat) := by positivity
  rw [refDateStartAfter,newDate_eq_floor (by positivity),scaled_eq,Int.floor_eq_iff]
  generalize 6 * processor.runInterval / 5 = whole
  push_cast
  constructor
  · linarith
  · linarith

/-- Without a fraction the way forward and back is exact, otherwise it loses a millisecond. -/
theorem refDate_eq (baseDate : Nat) :
    refDate processor (refDateStartAfter processor baseDate) =
      if 5 ∣ processor.runInterval then baseDate + EVENT_START_AFTER_HEADROOM
      else baseDate + EVENT_START_AFTER_HEADROOM - 1 := by
  have base : (0 : Rat) ≤ baseDate := by positivity
  have small : 6 * processor.runInterval % 5 < 5 := Nat.mod_lt _ (by decide)
  have rest : ((6 * processor.runInterval % 5 : Nat) : Rat) < 5 := by exact_mod_cast small
  rw [refDateStartAfter_eq,refDate,scaled_eq,EVENT_START_AFTER_HEADROOM]
  generalize 6 * processor.runInterval / 5 = whole
  push_cast
  rw [newDate_eq_floor (by linarith),Int.floor_eq_iff]
  split
  · rename_i divides
    have exact : 6 * processor.runInterval % 5 = 0 := by omega
    rw [exact]
    push_cast
    constructor
    · linarith
    · linarith
  · rename_i fraction
    have some : (1 : Rat) ≤ (6 * processor.runInterval % 5 : Nat) := by
      have positive : 1 ≤ 6 * processor.runInterval % 5 := by omega
      exact_mod_cast positive
    push_cast
    constructor
    · linarith
    · linarith

theorem clusterEvent_ofKind (refDate : Int) (result : Clustered) (event : Row) (kind : EventKind) :
    (clusterEvent processor refDate result event).ofKind kind =
      result.ofKind kind ++ if kindOf processor refDate event = kind then [event] else [] := by
  unfold clusterEvent kindOf
  split_ifs <;> cases kind <;> simp_all [Clustered.ofKind]

theorem clusterEvents_ofKind (events : List Row) (refDateStartAfter : Int) (kind : EventKind) :
    (clusterEvents processor events refDateStartAfter).ofKind kind =
      events.filter (fun event => kindOf processor (refDate processor refDateStartAfter) event = kind) := by
  have general : ∀ result : Clustered,
      (events.foldl (clusterEvent processor (refDate processor refDateStartAfter)) result).ofKind kind =
        result.ofKind kind ++
          events.filter (fun event => kindOf processor (refDate processor refDateStartAfter) event = kind) := by
    induction events with
    | nil => simp
    | cons event rest ih =>
      intro result
      rw [List.foldl_cons,ih,clusterEvent_ofKind,List.append_assoc]
      by_cases own : kindOf processor (refDate processor refDateStartAfter) event = kind
      · simp [own]
      · simp [own]
  have start := general ⟨[],[],[],[]⟩
  cases kind <;> simpa [clusterEvents,Clustered.ofKind] using start

theorem mem_ofKind {events : List Row} {refDateStartAfter : Int} {kind : EventKind} {row : Row} :
    row ∈ (clusterEvents processor events refDateStartAfter).ofKind kind ↔
      row ∈ events ∧ kindOf processor (refDate processor refDateStartAfter) row = kind := by
  rw [clusterEvents_ofKind,List.mem_filter,decide_eq_true_eq]

theorem mem_entries {baseDate : Nat} {selectedDelayedEventIds : List String} {table : Table} {row : Row}
    (member : row ∈ entries processor baseDate selectedDelayedEventIds table) :
    row ∈ table.rows ∧ whereClause processor baseDate row = true ∧ row.ID ∉ selectedDelayedEventIds := by
  have sorted := List.mem_of_mem_take member
  rw [List.mem_insertionSort,List.mem_filter] at sorted
  simpa using sorted

theorem whereClause_nameSpace {baseDate : Nat} {row : Row} (selected : whereClause processor baseDate row = true) :
    row.nameSpace = some processor.nameSpace := by
  simp only [whereClause,Bool.and_eq_true,decide_eq_true_eq] at selected
  exact selected.1.1.2

end

theorem kindOf_delayed {processor : Processor} {refDate : Int} {row : Row}
    (own : kindOf processor refDate row = .delayedEvent) : ∃ startAfter, row.startAfter = some startAfter := by
  unfold kindOf at own
  split_ifs at own with final exceeded delayed
  unfold isDelayedEvent at delayed
  cases startAfter : row.startAfter with
  | none => simp [startAfter] at delayed
  | some time => exact ⟨time,rfl⟩

theorem kindOf_open {processor : Processor} {refDate : Int} {row : Row} (own : kindOf processor refDate row = .openEvent)
    {startAfter : Int} (given : row.startAfter = some startAfter) : startAfter ≤ refDate := by
  unfold kindOf at own
  split_ifs at own with final exceeded delayed
  simpa [isDelayedEvent,given] using delayed

def Timed (scheduler result : Scheduler) : Prop :=
  (∀ key ∈ scheduler.scheduledEvents, key ∈ result.scheduledEvents) ∧
    ∀ key ∈ result.scheduledEvents, key ∈ scheduler.scheduledEvents ∨ ∃ timer ∈ result.timers, timer.key = key

theorem Timed.scheduleEvent {scheduler result : Scheduler} (timed : Timed scheduler result) (now : Nat)
    (tenantId : Option String) (type subType : String) (nameSpace : Option String) (startAfter : Int) :
    let next := result.scheduleEvent now tenantId type subType nameSpace startAfter
    Timed scheduler next ∧ scheduleKey tenantId type subType nameSpace startAfter ∈ next.scheduledEvents ∧
      ∀ key ∈ result.scheduledEvents, key ∈ next.scheduledEvents := by
  simp only [Scheduler.scheduleEvent]
  split
  · rename_i known
    exact ⟨timed,by simpa using known,fun _ listed => listed⟩
  · refine ⟨⟨fun key listed => List.mem_append_left _ (timed.1 key listed),fun key listed => ?_⟩,by simp,
      fun key listed => List.mem_append_left _ listed⟩
    obtain old | new := List.mem_append.mp listed
    · obtain before | ⟨timer,started,same⟩ := timed.2 key old
      · exact Or.inl before
      · exact Or.inr ⟨timer,List.mem_append_left _ started,same⟩
    · rw [List.mem_singleton] at new
      exact Or.inr ⟨_,List.mem_append_right _ (List.mem_singleton.mpr rfl),new.symm⟩

theorem handleDelayedEvents_spec (processor : Processor) (now : Nat) (scheduler : Scheduler) (delayedEvents : List Row)
    (ids : List String) (result : Scheduler) (timed : Timed scheduler result) :
    let final := delayedEvents.foldl (handleDelayedEvent processor now) (ids,result)
    final.1 = ids ++ delayedEvents.map Row.ID ∧ Timed scheduler final.2 ∧
      (∀ key ∈ result.scheduledEvents, key ∈ final.2.scheduledEvents) ∧
      ∀ event ∈ delayedEvents, ∀ startAfter, event.startAfter = some startAfter →
        scheduleKey processor.tenant processor.eventType processor.eventSubType event.nameSpace startAfter ∈
          final.2.scheduledEvents := by
  induction delayedEvents generalizing ids result with
  | nil => simpa using timed
  | cons event rest ih =>
    have step : Timed scheduler (handleDelayedEvent processor now (ids,result) event).2 ∧
        (∀ key ∈ result.scheduledEvents, key ∈ (handleDelayedEvent processor now (ids,result) event).2.scheduledEvents) ∧
        ∀ startAfter, event.startAfter = some startAfter →
          scheduleKey processor.tenant processor.eventType processor.eventSubType event.nameSpace startAfter ∈
            (handleDelayedEvent processor now (ids,result) event).2.scheduledEvents := by
      unfold handleDelayedEvent
      cases event.startAfter with
      | none => exact ⟨timed,fun _ listed => listed,fun _ impossible => by cases impossible⟩
      | some startAfter =>
        obtain ⟨kept,placed,grown⟩ := timed.scheduleEvent now processor.tenant processor.eventType
          processor.eventSubType event.nameSpace startAfter
        refine ⟨kept,grown,fun other same => ?_⟩
        cases same
        exact placed
    obtain ⟨kept,grown,placed⟩ := step
    obtain ⟨listed,final,more,others⟩ := ih _ _ kept
    simp only [List.foldl_cons]
    refine ⟨listed.trans ?_,final,fun key before => more key (grown key before),?_⟩
    · simp
    · intro other member startAfter own
      obtain rfl | later := List.mem_cons.mp member
      · exact more _ (placed startAfter own)
      · exact others other later startAfter own

section
variable (processor : Processor) (clock : Clock) (selectedDelayedEventIds : List String) (scheduler : Scheduler)
  (table : Table)

def classes : Clustered :=
  clusterEvents processor (entries processor clock.baseDate selectedDelayedEventIds table)
    (refDateStartAfter processor clock.baseDate)

/-- A call of an ad-hoc event, without the case of an empty query. -/
theorem getQueueEntries_adHoc (adHoc : processor.isPeriodic = false) :
    let clustered := classes processor clock selectedDelayedEventIds table
    let result := getQueueEntriesAndSetToInProgress processor clock selectedDelayedEventIds scheduler table
    let delayed := clustered.delayedEvents.foldl (handleDelayedEvent processor clock.scheduledAt)
      (selectedDelayedEventIds,scheduler)
    let ids := (clustered.openEvents ++ clustered.exceededTriesExceeded ++ clustered.exceededTries).map Row.ID
    result.openEvents = clustered.openEvents.map (Row.handedOut clock.timestamp) ∧
      result.table.rows = table.rows.map (fun row => if row.ID ∈ ids then row.toInProgress clock.timestamp else row) ∧
      result.selectedDelayedEventIds = delayed.1 ∧ result.scheduler = delayed.2 := by
  simp only [getQueueEntriesAndSetToInProgress,classes]
  split
  · rename_i nothing
    rw [List.isEmpty_iff] at nothing
    simp [nothing,clusterEvents]
  · simp [adHoc,Table.updateWhere]

theorem Table.unique {table : Table} {first second : Row} (one : first ∈ table.rows) (other : second ∈ table.rows)
    (same : first.ID = second.ID) : first = second :=
  List.inj_on_of_nodup_map table.nodup one other same

theorem ID_ofKind_iff {kind : EventKind} {row : Row} (member : row ∈ table.rows) :
    row.ID ∈ ((classes processor clock selectedDelayedEventIds table).ofKind kind).map Row.ID ↔
      row ∈ (classes processor clock selectedDelayedEventIds table).ofKind kind := by
  constructor
  · intro named
    obtain ⟨other,own,same⟩ := List.mem_map.mp named
    have stored := (mem_entries processor ((mem_ofKind processor).mp own).1).1
    rwa [table.unique stored member same] at own
  · exact List.mem_map_of_mem

theorem ids_iff_rows {row : Row} (member : row ∈ table.rows) :
    let clustered := classes processor clock selectedDelayedEventIds table
    row.ID ∈ (clustered.openEvents ++ clustered.exceededTriesExceeded ++ clustered.exceededTries).map Row.ID ↔
      row ∈ clustered.openEvents ∨ row ∈ clustered.exceededTries ∨ row ∈ clustered.exceededTriesExceeded := by
  intro clustered
  have ofOpen : row.ID ∈ clustered.openEvents.map Row.ID ↔ row ∈ clustered.openEvents :=
    @ID_ofKind_iff processor clock selectedDelayedEventIds table .openEvent row member
  have ofExceeded : row.ID ∈ clustered.exceededTries.map Row.ID ↔ row ∈ clustered.exceededTries :=
    @ID_ofKind_iff processor clock selectedDelayedEventIds table .exceededTries row member
  have ofFinal : row.ID ∈ clustered.exceededTriesExceeded.map Row.ID ↔ row ∈ clustered.exceededTriesExceeded :=
    @ID_ofKind_iff processor clock selectedDelayedEventIds table .exceededTriesExceeded row member
  rw [List.map_append,List.map_append,List.mem_append,List.mem_append,ofOpen,ofExceeded,ofFinal,or_assoc,
    or_comm (a := row ∈ clustered.exceededTries)]

/-- A call puts each row that the query returns into exactly one class, changes the rows it hands out and no other,
excludes and schedules the delayed rows, and returns no event more than three seconds early. -/
theorem selection_changes_exactly_what_it_hands_out (adHoc : processor.isPeriodic = false) :
    let found := entries processor clock.baseDate selectedDelayedEventIds table
    let clustered := classes processor clock selectedDelayedEventIds table
    let result := getQueueEntriesAndSetToInProgress processor clock selectedDelayedEventIds scheduler table
    (∀ row ∈ found, ∃! kind, row ∈ clustered.ofKind kind) ∧
      (∀ kind, ∀ row ∈ clustered.ofKind kind, row ∈ found) ∧
      result.openEvents = clustered.openEvents.map (Row.handedOut clock.timestamp) ∧
      result.table.rows = table.rows.map (fun row =>
        if row ∈ clustered.openEvents ∨ row ∈ clustered.exceededTries ∨ row ∈ clustered.exceededTriesExceeded then
          {row with
            status := EventProcessingStatus.InProgress
            lastAttemptTimestamp := some clock.timestamp
            attempts := row.attempts + 1}
        else row) ∧
      result.selectedDelayedEventIds = selectedDelayedEventIds ++ clustered.delayedEvents.map Row.ID ∧
      (∀ row ∈ clustered.delayedEvents, ∃ startAfter, row.startAfter = some startAfter ∧
        Registered scheduler result.scheduler processor startAfter) ∧
      ∀ event ∈ result.openEvents, ∀ startAfter, event.startAfter = some startAfter →
        startAfter ≤ clock.baseDate + 3 * 1000 := by
  intro found clustered result
  obtain ⟨returned,changed,excluded,scheduled⟩ :=
    getQueueEntries_adHoc processor clock selectedDelayedEventIds scheduler table adHoc
  have start : Timed scheduler scheduler := ⟨fun _ listed => listed,fun _ listed => Or.inl listed⟩
  obtain ⟨listed,timed,_,placed⟩ := handleDelayedEvents_spec processor clock.scheduledAt scheduler
    clustered.delayedEvents selectedDelayedEventIds scheduler start
  refine ⟨?_,?_,returned,?_,excluded.trans listed,?_,?_⟩
  · intro row member
    exact ⟨_,(mem_ofKind processor).mpr ⟨member,rfl⟩,fun kind own => ((mem_ofKind processor).mp own).2.symm⟩
  · intro kind row own
    exact ((mem_ofKind processor).mp own).1
  · rw [changed]
    apply List.map_congr_left
    intro row member
    exact if_congr (ids_iff_rows processor clock selectedDelayedEventIds table member) rfl rfl
  · intro row member
    obtain ⟨queried,own⟩ := (mem_ofKind processor).mp (show row ∈ clustered.ofKind .delayedEvent from member)
    obtain ⟨startAfter,given⟩ := kindOf_delayed own
    have key := placed row member startAfter given
    rw [whereClause_nameSpace processor (mem_entries processor queried).2.1,← scheduled] at key
    rw [← scheduled] at timed
    exact ⟨startAfter,given,key,timed.2 _ key⟩
  · intro event member startAfter given
    rw [returned] at member
    obtain ⟨row,listed,rfl⟩ := List.mem_map.mp member
    obtain ⟨_,own⟩ := (mem_ofKind processor).mp (show row ∈ clustered.ofKind .openEvent from listed)
    have early := kindOf_open own given
    rw [refDate_eq,EVENT_START_AFTER_HEADROOM] at early
    split at early
    · omega
    · omega

/-- The row of one event's table in which only the columns of the selection are kept. -/
def Row.project (row : Row) : EventQueue.Row :=
  ⟨row.ID,row.status,row.lastAttemptTimestamp.map Int.toNat,row.attempts,row.startAfter⟩

/-- The settings with whole milliseconds. -/
def Processor.project (stuckAfter : Nat) : SelectConfig :=
  ⟨processor.selectMaxChunkSize,6 * processor.runInterval / 5,stuckAfter,processor.retryAttempts⟩

theorem stuckDate_eq {stuckAfter baseDate : Nat} (whole : processor.keepAliveMaxInProgressTime * 1000 = stuckAfter)
    (later : stuckAfter ≤ baseDate) : stuckDate processor baseDate = (baseDate - stuckAfter : Nat) := by
  rw [stuckDate,whole,← Nat.cast_sub later]
  simp [newDate]

theorem whereClause_project {stuckAfter baseDate startTime : Nat} {row : Row}
    (whole : processor.keepAliveMaxInProgressTime * 1000 = stuckAfter) (later : stuckAfter ≤ baseDate)
    (started : processor.startTime = startTime) (type : row.type = processor.eventType)
    (subType : row.subType = processor.eventSubType) (nameSpace : row.nameSpace = some processor.nameSpace)
    (dated : ∀ last, row.lastAttemptTimestamp = some last → 0 ≤ last) :
    whereClause processor baseDate row =
      selectable (processor.project stuckAfter) processor.isPeriodic startTime baseDate row.project := by
  simp only [whereClause,selectable,Row.project,Processor.project,type,subType,nameSpace,decide_true,Bool.true_and]
  rw [stuckDate_eq processor whole later,refDateStartAfter_eq,started]
  cases given : row.lastAttemptTimestamp with
  | none => cases row.startAfter <;> simp [atMost] <;> rfl
  | some last =>
    have natural := dated last given
    have first : decide (last ≤ (startTime : Int)) = decide (last.toNat ≤ startTime) := by
      rw [decide_eq_decide]
      omega
    have stuck : decide (last ≤ ((baseDate - stuckAfter : Nat) : Int)) = decide (last.toNat + stuckAfter ≤ baseDate) := by
      rw [decide_eq_decide]
      omega
    cases row.startAfter <;> simp [atMost,first,stuck] <;> rfl

/-- With a run interval without a fraction the classes are those of the event's table. -/
theorem kindOf_project {baseDate : Nat} (stuckAfter : Nat) (divides : 5 ∣ processor.runInterval) (row : Row) :
    kindOf processor (refDate processor (refDateStartAfter processor baseDate)) row =
      eventKind (processor.project stuckAfter) baseDate row.project := by
  rw [refDate_eq,if_pos divides]
  obtain ⟨ID,type,subType,_,_,status,payload,attempts,last,createdAt,startAfter,_,_,nameSpace⟩ := row
  cases startAfter with
  | none => rfl
  | some startAfter =>
    by_cases due : startAfter ≤ baseDate + EVENT_START_AFTER_HEADROOM
    · simp only [kindOf,eventKind,isDelayedEvent,Row.project,Processor.project,due,decide_true,if_true]
      rfl
    · simp only [kindOf,eventKind,isDelayedEvent,Row.project,Processor.project,due,decide_false,if_false]
      rfl

end

def notifications : Processor where
  tenant := some "t1"
  eventType := "Notifications"
  eventSubType := "Task"
  nameSpace := "default"
  isPeriodic := false
  retryAttempts := 3
  selectMaxChunkSize := 10
  runInterval := 25 * 60 * 1000
  keepAliveMaxInProgressTime := 210
  startTime := 1000000

def openRow (ID : String) (attempts : Int) (startAfter : Option Int) : Row :=
  ⟨ID,"Notifications","Task",none,none,EventProcessingStatus.Open,none,attempts,none,some 900000,startAfter,none,none,
    some "default"⟩

def queue : Table :=
  ⟨[openRow "due" 0 (some 1003000),openRow "later" 0 (some 1003001),openRow "tried" 3 none,openRow "given up" 6 none],
    by decide⟩

theorem selection_changes_exactly_what_it_hands_out_four_classes :
    let clock : Clock := ⟨1000000,1000001,1000001,1000002⟩
    let result := getQueueEntriesAndSetToInProgress notifications clock [] ⟨[],[]⟩ queue
    result.openEvents.map Row.ID = ["due"] ∧ result.selectedDelayedEventIds = ["later"] ∧
      result.table.rows.map Row.attempts = [1,0,4,7] ∧
      result.scheduler.scheduledEvents = ["t1##Notifications##Task##default##1970-01-01T00:16:43.001Z"] ∧
      ∀ event ∈ result.openEvents, ∀ startAfter, event.startAfter = some startAfter → startAfter ≤ 1000000 + 3 * 1000 := by
  intro clock result
  refine ⟨by decide +kernel,by decide +kernel,by decide +kernel,by decide +kernel,?_⟩
  exact (selection_changes_exactly_what_it_hands_out notifications clock [] ⟨[],[]⟩ queue rfl).2.2.2.2.2.2

end EventQueue.Selection

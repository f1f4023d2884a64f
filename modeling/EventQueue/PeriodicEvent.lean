import EventQueue.EventTable
import EventQueue.Lib.Transition

/-! `processPeriodicEvent` by any number of instances on the rows of one periodic event. The
selection, the transaction that schedules the next row, the handler's transaction and the
status transaction are atomic on their own; each of them may fail and an instance may crash
between any two. -/
namespace EventQueue

structure PeriodicConfig where
  selectMaxChunkSize : Nat
  runInterval : Nat
  keepAliveMaxInProgressTime : Nat
  /-- The date comes from a cron expression and not from `interval`. -/
  cron : Bool
  interval : Nat

/-- A periodic event has one attempt. -/
def PeriodicConfig.select (config : PeriodicConfig) : SelectConfig where
  selectMaxChunkSize := config.selectMaxChunkSize
  lookahead := config.runInterval * 12 / 10
  keepAliveMaxInProgressTime := config.keepAliveMaxInProgressTime
  retryAttempts := 1

/-- Null for cron events, which counts as zero in comparisons. -/
def PeriodicConfig.intervalInMs (config : PeriodicConfig) : Nat := if config.cron then 0 else config.interval * 1000

/-- A row as `_insertPeriodEvents` and `scheduleNextPeriodEvent` insert it. -/
def newEvent (ID : String) (startAfter : Int) : Row := ⟨ID,EventProcessingStatus.Open,none,0,some startAfter⟩

def Table.setPeriodicEventStatus (table : Table) (queueEntryIds : List String) (status : Nat) : Table :=
  table.change (fun row => if row.ID ∈ queueEntryIds then {row with status := status} else row)
    (fun row => by split <;> rfl)

theorem Table.ids_setPeriodicEventStatus (table : Table) (queueEntryIds : List String) (status : Nat) :
    (table.setPeriodicEventStatus queueEntryIds status).ids = table.ids := Table.ids_change _ _ _

/-- The update of a selection for periodic events that are out of attempts. -/
def Table.setToError (table : Table) (exceededTries : List String) (now : Nat) : Table :=
  table.change (fun row => if row.ID ∈ exceededTries then
      {row with status := EventProcessingStatus.Error,lastAttemptTimestamp := some now} else row)
    (fun row => by split <;> rfl)

inductive PeriodicStage
  | selecting
  | scheduling
  | processing
  | settingStatus (status : Nat)
  | stopped
  deriving DecidableEq

structure PeriodicRun where
  stage : PeriodicStage
  processNext : Bool
  queueEntry : Option Row
  /-- The entries of a selection whose scheduling transaction has not committed. -/
  unscheduled : List Row
  notCommitedStatusMap : List String
  etagMap : Dict Nat
  keepAliveViolated : Bool

structure PeriodicSystem where
  table : Table
  runs : List PeriodicRun

inductive PeriodicMove
  | start
  | select (run startTime baseDate : Nat) (selectedDelayedEventIds : List String) (ok : Bool)
  /-- The new row, the date cron gives, the random offset and the time when the transaction ends. -/
  | schedule (run : Nat) (ID : String) (position : Nat) (next : Int) (randomOffset later : Nat) (ok : Bool)
  | process (run : Nat) (thrown ok : Bool)
  | keepAlive (run : Nat) (ok : Bool)
  | setStatus (run : Nat) (ok : Bool)
  | crash (run : Nat)

namespace PeriodicRun

def started : PeriodicRun := ⟨.selecting,true,none,[],[],Dict.empty,false⟩

def stop (run : PeriodicRun) : PeriodicRun := {run with stage := .stopped}

/-- What the keep-alive ticks look after from this selection on. -/
def track (run : PeriodicRun) (openEvents : List Row) (eventsForProcessing : List String) (now : Nat) :
    PeriodicRun :=
  if eventsForProcessing.isEmpty then run else {run with
    notCommitedStatusMap := openEvents.map Row.ID
    etagMap := openEvents.foldl (fun etags row => etags.set row.ID now) Dict.empty}

/-- After the selection: nothing to do, the entry of the last round once more, or entries to schedule. -/
def selected (run : PeriodicRun) (openEvents : List Row) (eventsForProcessing : List String) (now : Nat) :
    PeriodicRun :=
  let tracked := run.track openEvents eventsForProcessing now
  if openEvents.isEmpty then
    {tracked with processNext := false,stage := if run.queueEntry.isSome then .processing else .stopped}
  else {tracked with unscheduled := openEvents,stage := .scheduling}

/-- The ids of a tick that still carry the timestamp this execution wrote last. -/
def valid (run : PeriodicRun) (found : List (String × Option Nat)) : List String :=
  (found.filter (fun row => row.2.isSome && run.etagMap.get? row.1 == row.2)).map Prod.fst

def tick (run : PeriodicRun) (now : Nat) (found : List (String × Option Nat)) : PeriodicRun :=
  {run with
    etagMap := (run.valid found).foldl (fun etags id => etags.set id now) run.etagMap
    keepAliveViolated := (run.valid found).length != found.length}

end PeriodicRun

variable (config : PeriodicConfig)

/-- The start of the next row, moved if it is more than one interval behind. -/
def newStartAfter (queueEntry : Row) (next : Int) (randomOffset now : Nat) : Int :=
  let planned := if config.cron then next + randomOffset
    else queueEntry.startAfter.getD 0 + config.intervalInMs + randomOffset
  if planned - now < 0 ∧ (config.intervalInMs : Int) ≤ now - planned then now + 5 * 1000 else planned

def behindSchedule (startAfter : Int) (later : Nat) : Bool :=
  decide (config.intervalInMs * 2 < config.runInterval * 3) && decide (startAfter - later ≤ 0)

namespace PeriodicSystem

def setRun (system : PeriodicSystem) (index : Nat) (run : PeriodicRun) : PeriodicSystem :=
  {system with runs := system.runs.set index run}

def rowsOfKind (system : PeriodicSystem) (startTime baseDate : Nat) (selectedDelayedEventIds : List String)
    (kind : EventKind) : List Row :=
  (system.table.entries config.select true startTime baseDate selectedDelayedEventIds).filter
    (fun row => eventKind config.select baseDate row = kind)

/-- The selection transaction: entries without attempts left become errors, open ones are in progress. -/
def select (system : PeriodicSystem) (index : Nat) (run : PeriodicRun) (now startTime baseDate : Nat)
    (selectedDelayedEventIds : List String) : PeriodicSystem :=
  let ofKind := system.rowsOfKind config startTime baseDate selectedDelayedEventIds
  let eventsForProcessing := (ofKind .openEvent).map Row.ID ++ (ofKind .exceededTriesExceeded).map Row.ID
  ⟨(system.table.setToError ((ofKind .exceededTries).map Row.ID) now).setToInProgress eventsForProcessing now,
    system.runs.set index (run.selected (ofKind .openEvent) eventsForProcessing now)⟩

/-- The scheduling transaction: duplicates are done, the next row is inserted. Of several entries the
first one is kept, as `queueEntry.queueEntry` is never defined. -/
def schedule (system : PeriodicSystem) (index : Nat) (run : PeriodicRun) (queueEntry : Row)
    (obsoleteEntries : List Row)
    (now : Nat) (ID : String) (position : Nat) (next : Int) (randomOffset later : Nat)
    (fresh : ID ∉ system.table.ids) : PeriodicSystem :=
  let startAfter := newStartAfter config queueEntry next randomOffset now
  let cleaned := system.table.setPeriodicEventStatus (obsoleteEntries.map Row.ID) EventProcessingStatus.Done
  ⟨cleaned.insert position (newEvent ID startAfter) (by
      rw [Table.ids_setPeriodicEventStatus]
      exact fresh),
    system.runs.set index {run with
      stage := .processing,processNext := behindSchedule config startAfter later,
      queueEntry := some queueEntry,unscheduled := []}⟩

def keepAlive (system : PeriodicSystem) (index : Nat) (run : PeriodicRun) (now : Nat) (ok : Bool) :
    PeriodicSystem :=
  let found := system.table.inProgress run.notCommitedStatusMap
  ⟨if ok then system.table.refresh (run.valid found) now else system.table,system.runs.set index (run.tick now found)⟩

def setStatus (system : PeriodicSystem) (index : Nat) (run : PeriodicRun) (queueEntry : Row) (status : Nat) :
    PeriodicSystem :=
  ⟨system.table.setPeriodicEventStatus [queueEntry.ID] status,
    system.runs.set index {run with stage := if run.processNext then .selecting else .stopped}⟩

def step (system : PeriodicSystem) (entry : Nat × PeriodicMove) : Option PeriodicSystem :=
  match entry.2 with
  | .start => some {system with runs := system.runs ++ [.started]}
  | .select index startTime baseDate selectedDelayedEventIds ok => system.runs[index]?.bind (fun run =>
    match run.stage with
    | .selecting => some (if ok then system.select config index run entry.1 startTime baseDate selectedDelayedEventIds
        else system.setRun index run.stop)
    | _ => none)
  | .schedule index ID position next randomOffset later ok => system.runs[index]?.bind (fun run =>
    match run.stage,run.unscheduled with
    | .scheduling,queueEntry::obsoleteEntries =>
      if ok then
        if fresh : ID ∉ system.table.ids then
          some (system.schedule config index run queueEntry obsoleteEntries entry.1 ID position next randomOffset later
            fresh)
        else none
      else some (system.setRun index run.stop)
    | _,_ => none)
  | .process index thrown ok => system.runs[index]?.bind (fun run =>
    match run.stage with
    | .processing => some (system.setRun index (if ok then {run with
        stage := .settingStatus (if thrown then EventProcessingStatus.Error else EventProcessingStatus.Done)}
        else run.stop))
    | _ => none)
  | .keepAlive index ok => system.runs[index]?.bind (fun run =>
    if run.stage = .stopped ∨ run.keepAliveViolated = true then none
    else some (system.keepAlive index run entry.1 ok))
  | .setStatus index ok => system.runs[index]?.bind (fun run =>
    match run.stage,run.queueEntry with
    | .settingStatus status,some queueEntry =>
      some (if ok then system.setStatus index run queueEntry status else system.setRun index run.stop)
    | _,_ => none)
  | .crash index => system.runs[index]?.map (fun run => system.setRun index run.stop)

inductive Taken (system : PeriodicSystem) (now : Nat) : PeriodicMove → PeriodicSystem → Prop
  | start : Taken system now .start {system with runs := system.runs ++ [.started]}
  | select (index startTime baseDate : Nat) (selectedDelayedEventIds : List String) (run : PeriodicRun)
      (found : system.runs[index]? = some run) (stage : run.stage = .selecting) :
      Taken system now (.select index startTime baseDate selectedDelayedEventIds true)
        (system.select config index run now startTime baseDate selectedDelayedEventIds)
  | schedule (index : Nat) (ID : String) (position : Nat) (next : Int) (randomOffset later : Nat) (run : PeriodicRun)
      (queueEntry : Row) (obsoleteEntries : List Row) (found : system.runs[index]? = some run)
      (stage : run.stage = .scheduling) (entries : run.unscheduled = queueEntry::obsoleteEntries)
      (fresh : ID ∉ system.table.ids) :
      Taken system now (.schedule index ID position next randomOffset later true)
        (system.schedule config index run queueEntry obsoleteEntries now ID position next randomOffset later fresh)
  | process (index : Nat) (thrown : Bool) (run : PeriodicRun) (found : system.runs[index]? = some run)
      (stage : run.stage = .processing) :
      Taken system now (.process index thrown true) (system.setRun index {run with
        stage := .settingStatus (if thrown then EventProcessingStatus.Error else EventProcessingStatus.Done)})
  | keepAlive (index : Nat) (ok : Bool) (run : PeriodicRun) (found : system.runs[index]? = some run)
      (running : run.stage ≠ .stopped) :
      Taken system now (.keepAlive index ok) (system.keepAlive index run now ok)
  | setStatus (index : Nat) (run : PeriodicRun) (queueEntry : Row) (status : Nat)
      (found : system.runs[index]? = some run) (stage : run.stage = .settingStatus status)
      (entry : run.queueEntry = some queueEntry) :
      Taken system now (.setStatus index true) (system.setStatus index run queueEntry status)
  /-- A transaction fails or the instance crashes: nothing is written, the execution ends. -/
  | stop (move : PeriodicMove) (index : Nat) (run : PeriodicRun) (found : system.runs[index]? = some run) :
      Taken system now move (system.setRun index run.stop)

theorem step_taken (system next : PeriodicSystem) (now : Nat) (move : PeriodicMove)
    (taken : system.step config (now,move) = some next) : Taken config system now move next := by
  cases move with
  | start =>
    cases taken
    exact .start
  | select index startTime baseDate selectedDelayedEventIds ok =>
    obtain ⟨run,found,taken⟩ := Option.bind_eq_some_iff.mp taken
    split at taken
    · rename_i stage
      cases ok <;> cases taken
      · exact .stop _ index run found
      · exact .select index startTime baseDate selectedDelayedEventIds run found stage
    · cases taken
  | schedule index ID position nextDate randomOffset later ok =>
    obtain ⟨run,found,taken⟩ := Option.bind_eq_some_iff.mp taken
    split at taken
    · rename_i queueEntry obsoleteEntries stage entries
      cases ok with
      | false =>
        cases taken
        exact .stop _ index run found
      | true =>
        simp only [if_true] at taken
        split at taken
        · rename_i fresh
          cases taken
          exact .schedule index ID position nextDate randomOffset later run queueEntry obsoleteEntries found stage
            entries fresh
        · cases taken
    · cases taken
  | process index thrown ok =>
    obtain ⟨run,found,taken⟩ := Option.bind_eq_some_iff.mp taken
    split at taken
    · rename_i stage
      cases ok <;> cases taken
      · exact .stop _ index run found
      · exact .process index thrown run found stage
    · cases taken
  | keepAlive index ok =>
    obtain ⟨run,found,taken⟩ := Option.bind_eq_some_iff.mp taken
    split at taken
    · cases taken
    · rename_i running
      cases taken
      exact .keepAlive index ok run found (fun stage => running (Or.inl stage))
  | setStatus index ok =>
    obtain ⟨run,found,taken⟩ := Option.bind_eq_some_iff.mp taken
    split at taken
    · rename_i status queueEntry stage entry
      cases ok <;> cases taken
      · exact .stop _ index run found
      · exact .setStatus index run queueEntry status found stage entry
    · cases taken
  | crash index =>
    obtain ⟨run,found,rfl⟩ := Option.map_eq_some_iff.mp taken
    exact .stop _ index run found

end PeriodicSystem

end EventQueue

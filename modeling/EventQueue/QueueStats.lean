import EventQueue.PeriodicEvent

/-! The queue counters in Redis. The handlers after CREATE and UPDATE collect deltas in the transaction,
which are added to the counters once it has committed. -/
namespace EventQueue.QueueStats

/-- A statement of one of the processor's transactions. -/
inductive Statement
  /-- Publishing, successors and periodic scheduling, with `_skipEventQueueBroadcast`. -/
  | insert (skipEventQueueBroadcast : Bool) (rows : List Row)
  | setToInProgress (eventsForProcessing : List String) (now : Nat)
  | setToError (exceededTries : List String) (now : Nat)
  | persistEventStatus (update : Update)
  | setPeriodicEventStatus (queueEntryIds : List String) (status : Nat)
  | keepAlive (validEventIds : List String) (newTs : Nat)

/-- The entries of `req.tx._`. -/
structure TxStats where
  eventQueueStatsOpenCount : Int
  eventQueueStatsPendingDelta : Int
  eventQueueStatsInProgressDelta : Int

structure Stats where
  table : Table
  pending : Int
  inProgress : Int

/-- The rows of one INSERT; a key that exists already fails the transaction. -/
def insertAll (table : Table) (rows : List Row) : Option Table :=
  rows.foldlM (fun table row =>
    if fresh : row.ID ∉ table.ids then some (table.insert table.rows.length row fresh) else none) table

namespace Statement

def apply (table : Table) : Statement → Option Table
  | .insert _ rows => insertAll table rows
  | .setToInProgress ids now => some (table.setToInProgress ids now)
  | .setToError ids now => some (table.setToError ids now)
  | .persistEventStatus update => some (table.update [update])
  | .setPeriodicEventStatus ids status => some (table.setPeriodicEventStatus ids status)
  | .keepAlive ids newTs => some (table.refresh ids newTs)

def ids : Statement → List String
  | .insert _ _ => []
  | .setToInProgress ids _ => ids
  | .setToError ids _ => ids
  | .persistEventStatus update => update.ids
  | .setPeriodicEventStatus ids _ => ids
  | .keepAlive ids _ => ids

def inserted : Statement → List Row
  | .insert _ rows => rows
  | _ => []

def skips : Statement → Bool
  | .insert skipEventQueueBroadcast _ => skipEventQueueBroadcast
  | _ => false

/-- `req.query.UPDATE?.data?.status`. -/
def newStatus : Statement → Option Nat
  | .insert _ _ => none
  | .setToInProgress _ _ => some EventProcessingStatus.InProgress
  | .setToError _ _ => some EventProcessingStatus.Error
  | .persistEventStatus update => some update.status
  | .setPeriodicEventStatus _ status => some status
  | .keepAlive _ _ => none

end Statement

namespace TxStats

def zero : TxStats := ⟨0,0,0⟩

def afterCreate (stats : TxStats) (skipEventQueueBroadcast : Bool) (count : Nat) : TxStats :=
  if skipEventQueueBroadcast then stats
  else {stats with eventQueueStatsOpenCount := stats.eventQueueStatsOpenCount + count}

def afterUpdate (stats : TxStats) (newStatus : Option Nat) (count : Nat) : TxStats :=
  match newStatus with
  | none => stats
  | some newStatus =>
    if newStatus = EventProcessingStatus.InProgress then
      {stats with
        eventQueueStatsPendingDelta := stats.eventQueueStatsPendingDelta - count
        eventQueueStatsInProgressDelta := stats.eventQueueStatsInProgressDelta + count}
    else if newStatus = EventProcessingStatus.Error then
      {stats with
        eventQueueStatsInProgressDelta := stats.eventQueueStatsInProgressDelta - count
        eventQueueStatsPendingDelta := stats.eventQueueStatsPendingDelta + count}
    else if newStatus = EventProcessingStatus.Done ∨ newStatus = EventProcessingStatus.Exceeded ∨
        newStatus = EventProcessingStatus.Suspended then
      {stats with eventQueueStatsInProgressDelta := stats.eventQueueStatsInProgressDelta - count}
    else stats

end TxStats

def affected (table : Table) (ids : List String) : Nat := table.rows.countP (fun row => decide (row.ID ∈ ids))

def execute (state : Table × TxStats) (statement : Statement) : Option (Table × TxStats) :=
  (statement.apply state.1).map (fun table =>
    match statement with
    | .insert skip rows => (table,state.2.afterCreate skip rows.length)
    | _ => (table,state.2.afterUpdate statement.newStatus (affected state.1 statement.ids)))

/-- The handlers of `succeeded`. -/
def succeeded (stats : Stats) (table : Table) (tx : TxStats) : Stats where
  table := table
  pending := stats.pending + tx.eventQueueStatsOpenCount + tx.eventQueueStatsPendingDelta
  inProgress := stats.inProgress + tx.eventQueueStatsInProgressDelta

def step (stats : Stats) (transaction : List Statement) : Option Stats :=
  (Transition.run execute (stats.table,TxStats.zero) transaction).map (fun final => succeeded stats final.1 final.2)

def waiting (status : Nat) : Bool :=
  decide (status = EventProcessingStatus.Open) || decide (status = EventProcessingStatus.Error)

def running (status : Nat) : Bool := decide (status = EventProcessingStatus.InProgress)

def Agree (stats : Stats) : Prop :=
  stats.pending = stats.table.rows.countP (fun row => waiting row.status) ∧
    stats.inProgress = stats.table.rows.countP (fun row => running row.status)

instance (stats : Stats) : Decidable (Agree stats) := inferInstanceAs (Decidable (_ ∧ _))

/-- The old statuses for which the handler counts a new status right. -/
def fitsStatus (newStatus old : Nat) : Bool :=
  if newStatus = EventProcessingStatus.InProgress ∨ newStatus = EventProcessingStatus.Open then waiting old
  else if newStatus ∈ [EventProcessingStatus.Error,EventProcessingStatus.Done,EventProcessingStatus.Exceeded,
      EventProcessingStatus.Suspended] then running old
  else !waiting old && !running old

/-- A counted row waits, a row that is not counted neither waits nor is in progress. -/
def fitsInsert (skipEventQueueBroadcast : Bool) (row : Row) : Bool :=
  if skipEventQueueBroadcast then !waiting row.status && !running row.status else waiting row.status

def Fits (state : Table × TxStats) (statement : Statement) : Prop :=
  (∀ row ∈ statement.inserted, fitsInsert statement.skips row = true) ∧
    ∀ newStatus ∈ statement.newStatus, ∀ row ∈ state.1.rows, row.ID ∈ statement.ids →
      fitsStatus newStatus row.status = true

instance (state : Table × TxStats) (statement : Statement) : Decidable (Fits state statement) :=
  inferInstanceAs (Decidable (_ ∧ _))

def Fitting (stats : Stats) (transaction : List Statement) : Prop :=
  Transition.Along execute Fits (stats.table,TxStats.zero) transaction

instance (stats : Stats) (transaction : List Statement) : Decidable (Fitting stats transaction) :=
  Transition.decidableAlong execute Fits (stats.table,TxStats.zero) transaction

def pendingDelta (newStatus : Nat) : Int :=
  if newStatus = EventProcessingStatus.InProgress then -1 else if newStatus = EventProcessingStatus.Error then 1 else 0

def inProgressDelta (newStatus : Nat) : Int :=
  if newStatus = EventProcessingStatus.InProgress then 1
  else if newStatus ∈ [EventProcessingStatus.Error,EventProcessingStatus.Done,EventProcessingStatus.Exceeded,
    EventProcessingStatus.Suspended] then -1 else 0

theorem afterUpdate_deltas (stats : TxStats) (newStatus count : Nat) :
    stats.afterUpdate (some newStatus) count =
      ⟨stats.eventQueueStatsOpenCount,stats.eventQueueStatsPendingDelta + pendingDelta newStatus * count,
        stats.eventQueueStatsInProgressDelta + inProgressDelta newStatus * count⟩ := by
  simp only [TxStats.afterUpdate,pendingDelta,inProgressDelta]
  by_cases one : newStatus = EventProcessingStatus.InProgress
  · simp [one,sub_eq_add_neg]
  by_cases two : newStatus = EventProcessingStatus.Error
  · simp [two,sub_eq_add_neg,EventProcessingStatus.Error,EventProcessingStatus.InProgress]
  by_cases three : newStatus = EventProcessingStatus.Done ∨ newStatus = EventProcessingStatus.Exceeded ∨
      newStatus = EventProcessingStatus.Suspended
  · simp [one,two,three,sub_eq_add_neg]
  · simp [one,two,three]

theorem waiting_not_running (status : Nat) : (waiting status && running status) = false := by
  by_cases status = EventProcessingStatus.InProgress <;>
    simp_all [waiting,running,EventProcessingStatus.Open,EventProcessingStatus.InProgress,EventProcessingStatus.Error]

theorem fitsStatus_iff (newStatus old : Nat) : fitsStatus newStatus old = true ↔
    ((waiting newStatus).toNat : Int) = (waiting old).toNat + pendingDelta newStatus ∧
      ((running newStatus).toNat : Int) = (running old).toNat + inProgressDelta newStatus := by
  have apart := waiting_not_running old
  unfold fitsStatus
  generalize waiting old = waits at *
  generalize running old = runs at *
  by_cases known : newStatus < 6
  · interval_cases newStatus <;> revert waits runs <;> decide
  · have other : ∀ status < 6, newStatus ≠ status := fun status small same => known (same ▸ small)
    have differs : newStatus ≠ EventProcessingStatus.InProgress ∧ newStatus ≠ EventProcessingStatus.Open ∧
        newStatus ≠ EventProcessingStatus.Error ∧ newStatus ∉ [EventProcessingStatus.Error,EventProcessingStatus.Done,
          EventProcessingStatus.Exceeded,EventProcessingStatus.Suspended] := by
      refine ⟨other _ (by decide),other _ (by decide),other _ (by decide),fun listed => known ?_⟩
      exact (show ∀ status ∈ [EventProcessingStatus.Error,EventProcessingStatus.Done,
        EventProcessingStatus.Exceeded,EventProcessingStatus.Suspended], status < 6 by decide) _ listed
    obtain ⟨inProgress,opened,error,rest⟩ := differs
    simp only [inProgress,opened,error,rest,or_self,if_false,waiting,running,pendingDelta,inProgressDelta]
    revert waits runs
    decide

theorem countP_map_rows (counted : Nat → Bool) (ids : List String) (f : Row → Row) (delta : Int) (rows : List Row)
    (others : ∀ row ∈ rows, row.ID ∉ ids → (f row).status = row.status)
    (moved : ∀ row ∈ rows, row.ID ∈ ids →
      ((counted (f row).status).toNat : Int) = (counted row.status).toNat + delta) :
    ((rows.map f).countP (fun row => counted row.status) : Int) =
      rows.countP (fun row => counted row.status) + delta * rows.countP (fun row => decide (row.ID ∈ ids)) := by
  have unit (known : Bool) : (if known = true then 1 else 0) = known.toNat := by cases known <;> rfl
  induction rows with
  | nil => simp
  | cons row rest ih =>
    have later := ih (fun other member => others other (List.mem_cons_of_mem _ member))
      (fun other member => moved other (List.mem_cons_of_mem _ member))
    rw [List.map_cons,List.countP_cons,List.countP_cons,List.countP_cons]
    simp only [unit]
    by_cases listed : row.ID ∈ ids
    · have first := moved row (List.mem_cons_self ..) listed
      simp only [listed,decide_true,Bool.toNat_true]
      push_cast
      rw [later,first]
      ring
    · have first := others row (List.mem_cons_self ..) listed
      simp only [listed,decide_false,Bool.toNat_false,first]
      push_cast
      rw [later]
      ring

theorem countP_insertAll (counted : Nat → Bool) (rows : List Row) (table next : Table)
    (done : insertAll table rows = some next) :
    next.rows.countP (fun row => counted row.status) =
      table.rows.countP (fun row => counted row.status) + rows.countP (fun row => counted row.status) := by
  induction rows generalizing table with
  | nil =>
    cases done
    simp
  | cons row rest ih =>
    obtain ⟨middle,first,remaining⟩ := Option.bind_eq_some_iff.mp done
    simp only at first
    split at first
    · rename_i fresh
      cases first
      rw [ih _ remaining,List.countP_cons,(Table.insert_perm table _ row fresh).countP_eq,List.countP_cons]
      omega
    · cases first

theorem status_if_listed (ids : List String) (row changed : Row) :
    (row.ID ∉ ids → (if row.ID ∈ ids then changed else row).status = row.status) ∧
      (row.ID ∈ ids → (if row.ID ∈ ids then changed else row).status = changed.status) :=
  ⟨fun other => congrArg Row.status (if_neg other),fun listed => congrArg Row.status (if_pos listed)⟩

theorem apply_statuses (table next : Table) (statement : Statement) (changing : statement.inserted = [])
    (done : statement.apply table = some next) :
    ∃ f : Row → Row, next.rows = table.rows.map f ∧ ∀ row,
      (row.ID ∉ statement.ids → (f row).status = row.status) ∧
      (row.ID ∈ statement.ids → (f row).status = statement.newStatus.getD row.status) := by
  cases statement with
  | insert skip rows =>
    simp only [Statement.inserted] at changing
    subst changing
    cases done
    exact ⟨id,by simp,fun row => ⟨fun _ => rfl,fun _ => rfl⟩⟩
  | setToInProgress ids now =>
    cases done
    exact ⟨_,rfl,fun row => status_if_listed ids row _⟩
  | setToError ids now =>
    cases done
    exact ⟨_,rfl,fun row => status_if_listed ids row _⟩
  | persistEventStatus update =>
    cases done
    exact ⟨_,rfl,fun row => status_if_listed update.ids row _⟩
  | setPeriodicEventStatus ids status =>
    cases done
    exact ⟨_,rfl,fun row => status_if_listed ids row _⟩
  | keepAlive ids newTs =>
    cases done
    exact ⟨_,rfl,fun row => status_if_listed ids row _⟩

/-- The counters as they will be once the transaction commits. -/
def Tracked (stats : Stats) (state : Table × TxStats) : Prop := Agree (succeeded stats state.1 state.2)

theorem Tracked.insert {stats : Stats} {table next : Table} {tx : TxStats} {skip : Bool} {rows : List Row}
    (tracked : Tracked stats (table,tx)) (fits : ∀ row ∈ rows, fitsInsert skip row = true)
    (done : insertAll table rows = some next) : Tracked stats (next,tx.afterCreate skip rows.length) := by
  obtain ⟨pending,inProgress⟩ := tracked
  simp only [Tracked,Agree,succeeded,countP_insertAll _ rows table next done] at pending inProgress ⊢
  cases skip with
  | true =>
    simp only [fitsInsert,if_true,Bool.and_eq_true,Bool.not_eq_true'] at fits
    have none : rows.countP (fun row => waiting row.status) = 0 :=
      List.countP_eq_zero.mpr (fun row member => by simp [(fits row member).1])
    have idle : rows.countP (fun row => running row.status) = 0 :=
      List.countP_eq_zero.mpr (fun row member => by simp [(fits row member).2])
    rw [none,idle]
    exact ⟨pending,inProgress⟩
  | false =>
    simp only [fitsInsert,Bool.false_eq_true,if_false] at fits
    have all : rows.countP (fun row => waiting row.status) = rows.length :=
      List.countP_eq_length.mpr fits
    have idle : rows.countP (fun row => running row.status) = 0 := by
      refine List.countP_eq_zero.mpr (fun row member => ?_)
      have apart := waiting_not_running row.status
      rw [fits row member,Bool.true_and] at apart
      simp [apart]
    rw [all,idle]
    simp only [TxStats.afterCreate,Bool.false_eq_true,if_false]
    push_cast
    omega

theorem Tracked.update {stats : Stats} {table next : Table} {tx : TxStats} {statement : Statement}
    (tracked : Tracked stats (table,tx)) (changing : statement.inserted = []) (fits : Fits (table,tx) statement)
    (done : statement.apply table = some next) :
    Tracked stats (next,tx.afterUpdate statement.newStatus (affected table statement.ids)) := by
  obtain ⟨f,rows,statuses⟩ := apply_statuses table next statement changing done
  obtain ⟨pending,inProgress⟩ := tracked
  simp only [Tracked,Agree,succeeded,rows] at pending inProgress ⊢
  cases known : statement.newStatus with
  | none =>
    have same : ∀ row, (f row).status = row.status := by
      intro row
      by_cases listed : row.ID ∈ statement.ids
      · simpa [known] using (statuses row).2 listed
      · exact (statuses row).1 listed
    simp only [List.countP_map,Function.comp_def,same]
    exact ⟨pending,inProgress⟩
  | some newStatus =>
    have exact := fun row member listed => (fitsStatus_iff newStatus row.status).mp
      (fits.2 newStatus known row member listed)
    have new : ∀ row, row.ID ∈ statement.ids → (f row).status = newStatus := by
      intro row listed
      simpa [known] using (statuses row).2 listed
    rw [afterUpdate_deltas]
    rw [countP_map_rows waiting statement.ids f (pendingDelta newStatus) table.rows
        (fun row _ => (statuses row).1) (fun row member listed => by rw [new row listed,(exact row member listed).1]),
      countP_map_rows running statement.ids f (inProgressDelta newStatus) table.rows
        (fun row _ => (statuses row).1) (fun row member listed => by rw [new row listed,(exact row member listed).2])]
    simp only [affected]
    constructor
    · rw [← pending]
      ring
    · rw [← inProgress]
      ring

theorem Tracked.execute {stats : Stats} {state next : Table × TxStats} {statement : Statement}
    (tracked : Tracked stats state) (fits : Fits state statement) (done : execute state statement = some next) :
    Tracked stats next := by
  obtain ⟨table,applied,rfl⟩ := Option.map_eq_some_iff.mp done
  cases statement with
  | insert skip rows => exact Tracked.insert tracked fits.1 applied
  | setToInProgress ids now => exact Tracked.update tracked rfl fits applied
  | setToError ids now => exact Tracked.update tracked rfl fits applied
  | persistEventStatus update => exact Tracked.update tracked rfl fits applied
  | setPeriodicEventStatus ids status => exact Tracked.update tracked rfl fits applied
  | keepAlive ids newTs => exact Tracked.update tracked rfl fits applied

theorem Agree.step {stats next : Stats} {transaction : List Statement} (agree : Agree stats)
    (fitting : Fitting stats transaction) (done : step stats transaction = some next) : Agree next := by
  obtain ⟨final,ran,rfl⟩ := Option.map_eq_some_iff.mp done
  refine Transition.invariant QueueStats.execute Fits (Tracked stats) (fun _ _ _ => Tracked.execute) _ _ _ ?_
    fitting ran
  simpa [Tracked,Agree,succeeded,TxStats.zero] using agree

/-- In a run whose statements meet only rows in the statuses the handlers count on, the counters match the table. -/
theorem counters_match_table (stats final : Stats) (transactions : List (List Statement)) (agree : Agree stats)
    (fitting : Transition.Along step Fitting stats transactions)
    (reached : Transition.run step stats transactions = some final) : Agree final :=
  Transition.invariant step Fitting Agree (fun _ _ _ agree fits done => agree.step fits done) _ _ _ agree fitting reached

def emptyQueue : Stats := ⟨⟨[],List.nodup_nil⟩,0,0⟩

def published : Row := ⟨"e1",EventProcessingStatus.Open,none,0,none⟩

def writing (status : Nat) : Statement := .persistEventStatus ⟨["e1"],status,none,none,none,false,5⟩

/-- Published, failed once and done in the second attempt, with a keep-alive in between. -/
def retried : List (List Statement) :=
  [[.insert false [published]],[.setToInProgress ["e1"] 1],[writing EventProcessingStatus.Error],
    [.setToInProgress ["e1"] 2],[.keepAlive ["e1"] 3],[writing EventProcessingStatus.Done]]

theorem counters_match_table_retried :
    ∃ final, Transition.run step emptyQueue retried = some final ∧ Agree final := by
  have computed : (Transition.run step emptyQueue retried).isSome = true := by decide
  obtain ⟨final,reached⟩ := Option.isSome_iff_exists.mp computed
  exact ⟨final,reached,counters_match_table emptyQueue final retried ⟨rfl,rfl⟩ (by decide) reached⟩

/-- A handler that reports Open again. -/
def reopened : List (List Statement) :=
  [[.insert false [published]],[.setToInProgress ["e1"] 1],[writing EventProcessingStatus.Open]]

/-- The row waits, the counters say it is in progress. -/
theorem counters_miss_reopened_row :
    Agree emptyQueue ∧ ∃ final, Transition.run step emptyQueue reopened = some final ∧
      (final.table.rows.map Row.status,final.pending,final.inProgress) = ([EventProcessingStatus.Open],0,1) ∧
      ¬ Agree final := by
  refine ⟨by decide,?_⟩
  have computed : (Transition.run step emptyQueue reopened).map
      (fun final => (final.table.rows.map Row.status,final.pending,final.inProgress)) =
        some ([EventProcessingStatus.Open],0,1) := by decide
  obtain ⟨final,reached,counted⟩ := Option.map_eq_some_iff.mp computed
  refine ⟨final,reached,counted,fun agree => ?_⟩
  have disagree : (Transition.run step emptyQueue reopened).all (fun final => !decide (Agree final)) = true := by decide
  rw [reached] at disagree
  simp [agree] at disagree

end EventQueue.QueueStats

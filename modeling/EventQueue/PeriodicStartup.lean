import EventQueue.Constants
import EventQueue.Lib.Dict
import Mathlib.Data.Rat.Floor
import Mathlib.Data.List.MinMax

/-! `checkAndInsertPeriodicEvents`: the startup compares the rows of the periodic events with their
configuration, deletes rows of changed events and inserts what is missing, in one transaction. -/
namespace EventQueue.PeriodicStartup

structure Row where
  ID : String
  type : String
  subType : String
  nameSpace : Option String
  status : Nat
  createdAt : Option Int
  startAfter : Option Int
  deriving DecidableEq

/-- Either an interval in seconds or a cron expression with its time zone. -/
inductive Schedule
  | interval (interval : Rat)
  | cron (cron tz : String)

structure PeriodicEvent where
  type : String
  subType : String
  nameSpace : String
  schedule : Schedule
  randomOffset : Option Rat

def generateKey (nameSpace type subType : String) : String := String.intercalate "##" [nameSpace,type,subType]

structure Config where
  eventMap : Dict PeriodicEvent
  keyed : ∀ key event, eventMap.get? key = some event → key = generateKey event.nameSpace event.type event.subType
  randomOffsetPeriodicEvents : Option Rat

/-- A row of the selection grouped by these columns, with `max(startAfter)`. -/
structure PeriodEvent where
  type : String
  subType : String
  createdAt : Option Int
  nameSpace : Option String
  startAfter : Option Int
  deriving DecidableEq

/-- The database orders groups as it likes; `next` is the next date of a cron expression. -/
structure Environment where
  order : List PeriodEvent → List PeriodEvent
  ordered : ∀ groups, (order groups).Perm groups
  next : (cron tz : String) → (currentDate : Int) → Int
  now : Int
  /-- `$now` of the transaction. -/
  timestamp : Int
  newID : Nat → String

def ALLOWED_PERIODIC_SEC_DIFF : Rat := 30

def Row.pending (row : Row) : Bool :=
  [EventProcessingStatus.Open,EventProcessingStatus.InProgress].contains row.status

def Row.groupedAs (row : Row) (startAfter : Option Int) : PeriodEvent :=
  ⟨row.type,row.subType,row.createdAt,row.nameSpace,startAfter⟩

/-- The columns of `_addWhere`. -/
def PeriodEvent.matches (group : PeriodEvent) (row : Row) : Bool :=
  decide (row.type = group.type ∧ row.subType = group.subType ∧ row.createdAt = group.createdAt ∧
    row.startAfter = group.startAfter)

def PeriodEvent.key (group : PeriodEvent) : String :=
  generateKey (group.nameSpace.getD "") group.type group.subType

def PeriodicEvent.key (event : PeriodicEvent) : String := generateKey event.nameSpace event.type event.subType

def PeriodicEvent.owns (event : PeriodicEvent) (row : Row) : Bool :=
  decide (row.type = event.type ∧ row.subType = event.subType ∧ row.nameSpace = some event.nameSpace)

def PeriodicEvent.isCron (event : PeriodicEvent) : Bool :=
  match event.schedule with
  | .interval _ => false
  | .cron _ _ => true

namespace Config
variable (config : Config)

def periodicEvents : List PeriodicEvent := config.eventMap.entries.map Prod.snd

def getEventConfig (group : PeriodEvent) : Option PeriodicEvent := config.eventMap.get? group.key

/-- The rows behind `currentPeriodEvents`. -/
def pendingRows (table : List Row) : List Row :=
  table.filter (fun row => config.periodicEvents.any (fun event => event.owns row) && row.pending)

def groups (table : List Row) : List PeriodEvent :=
  ((config.pendingRows table).map (fun row => row.groupedAs none)).dedup.map (fun group =>
    {group with startAfter :=
      (((config.pendingRows table).filter (fun row => row.groupedAs none = group)).filterMap Row.startAfter).max?})

end Config

section
variable (config : Config) (environment : Environment)

/-- Too far in the future for the interval; a missing date counts as zero. -/
def intervalChanged (event : PeriodicEvent) (group : PeriodEvent) : Bool :=
  match event.schedule with
  | .interval interval => decide (environment.now + ⌊interval * 1000⌋ ≤ group.startAfter.getD 0)
  | .cron _ _ => false

def cronChanged (event : PeriodicEvent) (group : PeriodEvent) : Bool :=
  match event.schedule with
  | .interval _ => false
  | .cron cron tz =>
    let randomOffset := (event.randomOffset.or config.randomOffsetPeriodicEvents).getD 0
    decide ((ALLOWED_PERIODIC_SEC_DIFF + randomOffset) * 1000 <
      ((environment.next cron tz (group.createdAt.getD 0) - group.startAfter.getD 0).natAbs : Rat))

def determineChangedInterval (existingEvents : List PeriodEvent) : List PeriodEvent :=
  existingEvents.filter (fun group => (config.getEventConfig group).any
    (fun event => intervalChanged environment event group))

def determineChangedCron (existingEventsCron : List PeriodEvent) : List PeriodEvent :=
  existingEventsCron.filter (fun group => (config.getEventConfig group).any
    (fun event => cronChanged config environment event group))

def currentPeriodEvents (table : List Row) : List PeriodEvent := environment.order (config.groups table)

def exitingEventMap (table : List Row) : Dict PeriodEvent :=
  (currentPeriodEvents config environment table).foldl (fun map group => map.set group.key group) Dict.empty

def newEvents (table : List Row) : List PeriodicEvent :=
  config.periodicEvents.filter (fun event => ((exitingEventMap config environment table).get? event.key).isNone)

def existingEvents (table : List Row) : List PeriodEvent :=
  config.periodicEvents.filterMap (fun event => (exitingEventMap config environment table).get? event.key)

def exitingWithNotMatchingInterval (table : List Row) : List PeriodEvent :=
  let existing := existingEvents config environment table
  let cron := existing.filter (fun group => (config.getEventConfig group).any PeriodicEvent.isCron)
  let interval := existing.filter (fun group => !(config.getEventConfig group).any PeriodicEvent.isCron)
  determineChangedInterval config environment interval ++ determineChangedCron config environment cron

def startTime (event : Option PeriodicEvent) : Int :=
  match event.map PeriodicEvent.schedule with
  | some (.cron cron tz) => environment.next cron tz environment.now
  | _ => environment.now

def insertPeriodEvents (table : List Row) (events : List PeriodEvent) : List Row :=
  table ++ events.zipIdx.map (fun event => ⟨environment.newID event.2,event.1.type,event.1.subType,event.1.nameSpace,
    EventProcessingStatus.Open,some environment.timestamp,
    some (startTime environment (config.getEventConfig event.1))⟩)

/-- What `_insertPeriodEvents` reads of a configured event. -/
def PeriodicEvent.base (event : PeriodicEvent) : PeriodEvent :=
  ⟨event.type,event.subType,none,some event.nameSpace,none⟩

def checkAndInsertPeriodicEvents (table : List Row) : List Row :=
  if (currentPeriodEvents config environment table).isEmpty then
    insertPeriodEvents config environment table (config.periodicEvents.map PeriodicEvent.base)
  else
    let changed := exitingWithNotMatchingInterval config environment table
    let remaining := table.filter (fun row => !changed.any (fun group => group.matches row))
    insertPeriodEvents config environment remaining
      ((newEvents config environment table).map PeriodicEvent.base ++ changed)

end

section
variable (config : Config) (environment : Environment)

def PeriodicEvent.ownsGroup (event : PeriodicEvent) (group : PeriodEvent) : Bool :=
  decide (group.type = event.type ∧ group.subType = event.subType ∧ group.nameSpace = some event.nameSpace)

/-- The last of the event's groups in the order of the database. -/
def currentGroup (table : List Row) (event : PeriodicEvent) : Option PeriodEvent :=
  ((currentPeriodEvents config environment table).filter event.ownsGroup).getLast?

/-- The group that stands for the event does not fit its interval or its cron expression. -/
def Changed (table : List Row) (event : PeriodicEvent) (group : PeriodEvent) : Prop :=
  event ∈ config.periodicEvents ∧ currentGroup config environment table event = some group ∧
    (intervalChanged environment event group || cronChanged config environment event group) = true

def Repaired (after : List Row) : Prop :=
  ∀ event ∈ config.periodicEvents, ∃ row ∈ after, event.owns row = true ∧ row.pending = true

/-- Deleted rows were open or in progress and belong to events that were reported as changed. -/
def Unharmed (table after : List Row) : Prop :=
  ∀ row ∈ table, row ∉ after → row.pending = true ∧
    ∃ group ∈ exitingWithNotMatchingInterval config environment table,
      group.type = row.type ∧ group.subType = row.subType ∧ group.nameSpace = row.nameSpace

/-- No row with the four columns of a changed event's group is finished or belongs to an event that has
not changed. -/
def Separate (table : List Row) : Prop :=
  ∀ event group, Changed config environment table event group → ∀ row ∈ table, group.matches row = true →
    row.pending = true ∧ ∃ other ownGroup, Changed config environment table other ownGroup ∧ other.owns row = true

end

section
variable {config : Config} {environment : Environment} {table : List Row}

theorem mem_periodicEvents {event : PeriodicEvent} :
    event ∈ config.periodicEvents ↔ config.eventMap.get? event.key = some event := by
  constructor
  · intro member
    obtain ⟨entry,inside,rfl⟩ := List.mem_map.mp member
    have found := Dict.mem_entries.mp (show (entry.1,entry.2) ∈ config.eventMap.entries from inside)
    rw [config.keyed _ _ found] at found
    exact found
  · intro found
    exact List.mem_map.mpr ⟨_,Dict.mem_entries.mpr found,rfl⟩

theorem periodicEvents_unique {first second : PeriodicEvent} (one : first ∈ config.periodicEvents)
    (two : second ∈ config.periodicEvents) (same : first.key = second.key) : first = second := by
  rw [mem_periodicEvents] at one two
  rw [same,two] at one
  exact (Option.some.inj one).symm

theorem ownsGroup_key {event : PeriodicEvent} {group : PeriodEvent} (owned : event.ownsGroup group = true) :
    group.key = event.key := by
  simp only [PeriodicEvent.ownsGroup,decide_eq_true_eq] at owned
  simp [PeriodEvent.key,PeriodicEvent.key,owned]

theorem mem_pendingRows {row : Row} : row ∈ config.pendingRows table ↔
    row ∈ table ∧ (∃ event ∈ config.periodicEvents, event.owns row = true) ∧ row.pending = true := by
  simp [Config.pendingRows,List.mem_filter]

theorem mem_currentPeriodEvents {group : PeriodEvent}
    (member : group ∈ currentPeriodEvents config environment table) :
    ∃ row ∈ config.pendingRows table,
      group.type = row.type ∧ group.subType = row.subType ∧ group.nameSpace = row.nameSpace := by
  have listed := (environment.ordered _).mem_iff.mp member
  obtain ⟨base,inside,rfl⟩ := List.mem_map.mp listed
  obtain ⟨row,pending,rfl⟩ := List.mem_map.mp (List.mem_dedup.mp inside)
  exact ⟨row,pending,rfl,rfl,rfl⟩

theorem currentPeriodEvents_owned {group : PeriodEvent}
    (member : group ∈ currentPeriodEvents config environment table) :
    ∃ event ∈ config.periodicEvents, event.ownsGroup group = true := by
  obtain ⟨row,pending,type,subType,nameSpace⟩ := mem_currentPeriodEvents member
  obtain ⟨_,⟨event,configured,owned⟩,_⟩ := mem_pendingRows.mp pending
  refine ⟨event,configured,?_⟩
  simp only [PeriodicEvent.owns,decide_eq_true_eq] at owned
  simp [PeriodicEvent.ownsGroup,type,subType,nameSpace,owned]

theorem ownsGroup_iff {event : PeriodicEvent} (configured : event ∈ config.periodicEvents) {group : PeriodEvent}
    (member : group ∈ currentPeriodEvents config environment table) :
    event.ownsGroup group = true ↔ group.key = event.key := by
  refine ⟨ownsGroup_key,fun same => ?_⟩
  obtain ⟨owner,listed,owned⟩ := currentPeriodEvents_owned member
  obtain rfl := periodicEvents_unique listed configured ((ownsGroup_key owned).symm.trans same)
  exact owned

theorem exitingEventMap_get? {event : PeriodicEvent} (configured : event ∈ config.periodicEvents) :
    (exitingEventMap config environment table).get? event.key = currentGroup config environment table event := by
  rw [exitingEventMap,Dict.get?_index,Dict.get?_empty,Option.or_none,currentGroup]
  congr 1
  refine List.filter_congr (fun group member => ?_)
  rw [Bool.eq_iff_iff,decide_eq_true_iff]
  exact (ownsGroup_iff configured member).symm

theorem currentGroup_owned {event : PeriodicEvent} {group : PeriodEvent}
    (found : currentGroup config environment table event = some group) :
    group ∈ currentPeriodEvents config environment table ∧ event.ownsGroup group = true :=
  List.mem_filter.mp (List.mem_of_getLast? found)

theorem getEventConfig_currentGroup {event : PeriodicEvent} (configured : event ∈ config.periodicEvents)
    {group : PeriodEvent} (found : currentGroup config environment table event = some group) :
    config.getEventConfig group = some event := by
  rw [Config.getEventConfig,ownsGroup_key (currentGroup_owned found).2]
  exact mem_periodicEvents.mp configured

theorem mem_existingEvents {group : PeriodEvent} : group ∈ existingEvents config environment table ↔
    ∃ event ∈ config.periodicEvents, currentGroup config environment table event = some group := by
  simp only [existingEvents,List.mem_filterMap]
  constructor
  · rintro ⟨event,configured,found⟩
    rw [exitingEventMap_get? configured] at found
    exact ⟨event,configured,found⟩
  · rintro ⟨event,configured,found⟩
    exact ⟨event,configured,by rw [exitingEventMap_get? configured,found]⟩

theorem isCron_of_cronChanged {event : PeriodicEvent} {group : PeriodEvent}
    (changed : cronChanged config environment event group = true) : event.isCron = true := by
  unfold cronChanged at changed
  unfold PeriodicEvent.isCron
  split at changed
  · cases changed
  · rfl

theorem not_isCron_of_intervalChanged {event : PeriodicEvent} {group : PeriodEvent}
    (changed : intervalChanged environment event group = true) : event.isCron = false := by
  unfold intervalChanged at changed
  unfold PeriodicEvent.isCron
  split at changed
  · rfl
  · cases changed

theorem mem_reported {group : PeriodEvent} : group ∈ exitingWithNotMatchingInterval config environment table ↔
    ∃ event, Changed config environment table event group := by
  simp only [exitingWithNotMatchingInterval,determineChangedInterval,determineChangedCron,List.mem_append,
    List.mem_filter,mem_existingEvents]
  constructor
  · rintro (⟨⟨⟨event,configured,found⟩,_⟩,changed⟩ | ⟨⟨⟨event,configured,found⟩,_⟩,changed⟩)
    · rw [getEventConfig_currentGroup configured found,Option.any_some] at changed
      exact ⟨event,configured,found,by simp [changed]⟩
    · rw [getEventConfig_currentGroup configured found,Option.any_some] at changed
      exact ⟨event,configured,found,by simp [changed]⟩
  · rintro ⟨event,configured,found,changed⟩
    rw [getEventConfig_currentGroup configured found]
    simp only [Option.any_some]
    rcases Bool.or_eq_true_iff.mp changed with interval | cron
    · exact Or.inl ⟨⟨⟨event,configured,found⟩,by simp [not_isCron_of_intervalChanged interval]⟩,interval⟩
    · exact Or.inr ⟨⟨⟨event,configured,found⟩,isCron_of_cronChanged cron⟩,cron⟩

theorem owns_key {event : PeriodicEvent} {group : PeriodEvent} (owned : event.ownsGroup group = true) (row : Row)
    (type : row.type = group.type) (subType : row.subType = group.subType) (nameSpace : row.nameSpace = group.nameSpace) :
    event.owns row = true := by
  simp only [PeriodicEvent.ownsGroup,decide_eq_true_eq] at owned
  simp [PeriodicEvent.owns,type,subType,nameSpace,owned]

theorem mem_insertPeriodEvents {events : List PeriodEvent} {event : PeriodicEvent} {group : PeriodEvent}
    (listed : group ∈ events) (owned : event.ownsGroup group = true) :
    ∃ row ∈ insertPeriodEvents config environment table events, event.owns row = true ∧ row.pending = true := by
  obtain ⟨number,found⟩ := List.getElem?_of_mem listed
  have numbered := List.mem_zipIdx_iff_getElem?.mpr (show events[((group,number) : PeriodEvent × Nat).2]? = some _ from found)
  refine ⟨_,List.mem_append_right _ (List.mem_map.mpr ⟨_,numbered,rfl⟩),?_,rfl⟩
  exact owns_key owned _ rfl rfl rfl

theorem not_mem_insertPeriodEvents {remaining : List Row} {events : List PeriodEvent} {row : Row}
    (deleted : row ∉ remaining) (old : ∀ number, environment.newID number ≠ row.ID) :
    row ∉ insertPeriodEvents config environment remaining events := by
  rw [insertPeriodEvents,List.mem_append]
  rintro (kept | inserted)
  · exact deleted kept
  · obtain ⟨event,_,rfl⟩ := List.mem_map.mp inserted
    exact old _ rfl

/-- Both branches in one: without rows of periodic events nothing has changed and everything is new. -/
theorem checkAndInsertPeriodicEvents_eq : checkAndInsertPeriodicEvents config environment table =
    insertPeriodEvents config environment (table.filter (fun row =>
        !(exitingWithNotMatchingInterval config environment table).any (fun group => group.matches row)))
      ((newEvents config environment table).map PeriodicEvent.base ++
        exitingWithNotMatchingInterval config environment table) := by
  unfold checkAndInsertPeriodicEvents
  split
  · rename_i empty
    have none (event : PeriodicEvent) (configured : event ∈ config.periodicEvents) :
        (exitingEventMap config environment table).get? event.key = none := by
      rw [exitingEventMap_get? configured,currentGroup,List.isEmpty_iff.mp empty]
      rfl
    have unchanged : exitingWithNotMatchingInterval config environment table = [] := by
      refine List.eq_nil_iff_forall_not_mem.mpr (fun group reported => ?_)
      obtain ⟨event,configured,found,_⟩ := mem_reported.mp reported
      rw [← exitingEventMap_get? configured,none event configured] at found
      cases found
    have all : newEvents config environment table = config.periodicEvents :=
      List.filter_eq_self.mpr (fun event configured => by rw [none event configured]; rfl)
    simp [unchanged,all]
  · rfl

theorem mem_remaining {row : Row} : row ∈ table.filter (fun row =>
      !(exitingWithNotMatchingInterval config environment table).any (fun group => group.matches row)) ↔
    row ∈ table ∧ ∀ event group, Changed config environment table event group → group.matches row = false := by
  simp only [List.mem_filter,Bool.not_eq_true',List.any_eq_false,Bool.not_eq_true,mem_reported]
  constructor
  · rintro ⟨member,unmatched⟩
    exact ⟨member,fun event group changed => unmatched group ⟨event,changed⟩⟩
  · rintro ⟨member,unmatched⟩
    exact ⟨member,fun group reported => reported.elim (fun event changed => unmatched event group changed)⟩

theorem repaired_of_separate (separate : Separate config environment table) :
    Repaired config (checkAndInsertPeriodicEvents config environment table) := by
  intro event configured
  rw [checkAndInsertPeriodicEvents_eq]
  cases found : currentGroup config environment table event with
  | none =>
    have new : event ∈ newEvents config environment table :=
      List.mem_filter.mpr ⟨configured,by rw [exitingEventMap_get? configured,found]; rfl⟩
    exact mem_insertPeriodEvents (List.mem_append_left _ (List.mem_map.mpr ⟨event,new,rfl⟩))
      (by simp [PeriodicEvent.ownsGroup,PeriodicEvent.base])
  | some group =>
    obtain ⟨current,owned⟩ := currentGroup_owned found
    by_cases changed : (intervalChanged environment event group || cronChanged config environment event group) = true
    · exact mem_insertPeriodEvents
        (List.mem_append_right _ (mem_reported.mpr ⟨event,configured,found,changed⟩)) owned
    · obtain ⟨row,pending,type,subType,nameSpace⟩ := mem_currentPeriodEvents current
      obtain ⟨member,_,alive⟩ := mem_pendingRows.mp pending
      have own := owns_key owned row type.symm subType.symm nameSpace.symm
      refine ⟨row,List.mem_append_left _ (mem_remaining.mpr ⟨member,fun other otherGroup deleting => ?_⟩),own,alive⟩
      by_contra matching
      obtain ⟨_,another,ownGroup,itself,owning⟩ :=
        separate other otherGroup deleting row member (by simpa using matching)
      have same : another = event := by
        simp only [PeriodicEvent.owns,decide_eq_true_eq] at own owning
        refine periodicEvents_unique itself.1 configured ?_
        have names : another.nameSpace = event.nameSpace := Option.some.inj (owning.2.2.symm.trans own.2.2)
        simp [PeriodicEvent.key,← owning.1,← owning.2.1,own.1,own.2.1,names]
      subst same
      rw [itself.2.1] at found
      cases found
      exact changed itself.2.2

/-- The startup check repairs every chain and harms none iff changed events share the columns of their rows with
no finished row and with no event that has not changed. -/
theorem startup_repairs_iff (config : Config) (environment : Environment) (table : List Row)
    (fresh : ∀ number, environment.newID number ∉ table.map Row.ID) :
    Repaired config (checkAndInsertPeriodicEvents config environment table) ∧
        Unharmed config environment table (checkAndInsertPeriodicEvents config environment table) ↔
      Separate config environment table := by
  constructor
  · rintro ⟨_,unharmed⟩ event group changed row member matching
    have deleted : row ∉ checkAndInsertPeriodicEvents config environment table := by
      rw [checkAndInsertPeriodicEvents_eq]
      refine not_mem_insertPeriodEvents (fun kept => ?_)
        (fun number same => fresh number (same ▸ List.mem_map_of_mem member))
      have unmatched := (mem_remaining.mp kept).2 event group changed
      rw [matching] at unmatched
      cases unmatched
    obtain ⟨pending,reported,listed,type,subType,nameSpace⟩ := unharmed row member deleted
    obtain ⟨owner,own⟩ := mem_reported.mp listed
    exact ⟨pending,owner,reported,own,
      owns_key (currentGroup_owned own.2.1).2 row type.symm subType.symm nameSpace.symm⟩
  · intro separate
    refine ⟨repaired_of_separate separate,fun row member deleted => ?_⟩
    rw [checkAndInsertPeriodicEvents_eq] at deleted
    have unkept := fun kept => deleted (List.mem_append_left _ (mem_remaining.mpr kept))
    have : ∃ event group, Changed config environment table event group ∧ group.matches row = true := by
      by_contra absent
      refine unkept ⟨member,fun event group changed => ?_⟩
      by_contra matching
      exact absent ⟨event,group,changed,by simpa using matching⟩
    obtain ⟨event,group,changed,matching⟩ := this
    obtain ⟨pending,other,ownGroup,own,owned⟩ := separate event group changed row member matching
    refine ⟨pending,ownGroup,mem_reported.mpr ⟨other,own⟩,?_⟩
    have group := (currentGroup_owned own.2.1).2
    simp only [PeriodicEvent.owns,PeriodicEvent.ownsGroup,decide_eq_true_eq] at owned group
    exact ⟨group.1.trans owned.1.symm,group.2.1.trans owned.2.1.symm,group.2.2.trans owned.2.2.symm⟩

end

def configured (events : List PeriodicEvent) (distinct : (events.map PeriodicEvent.key).Nodup) : Config where
  eventMap := ⟨events.map (fun event => (event.key,event)),by simpa [Function.comp_def] using distinct⟩
  keyed key event found := by
    obtain ⟨_,_,same⟩ := List.mem_map.mp (Dict.mem_entries.mpr found)
    cases same
    rfl
  randomOffsetPeriodicEvents := none

def healthCheck (nameSpace cron : String) : PeriodicEvent :=
  ⟨"HealthCheck_PERIODIC","DB",nameSpace,.cron cron "UTC",none⟩

/-- One in the morning of the first day. -/
def morning : Environment where
  order := id
  ordered _ := List.Perm.refl _
  next cron _ _ := if cron = "0 3 * * *" then 3 * 60 * 60 * 1000 else 5 * 60 * 60 * 1000
  now := 60 * 60 * 1000
  timestamp := 60 * 60 * 1000
  newID number := String.ofList (List.replicate (number + 3) 'n')

/-- A row inserted at midnight for three in the morning. -/
def atThree (ID nameSpace : String) (status : Nat) : Row :=
  ⟨ID,"HealthCheck_PERIODIC","DB",some nameSpace,status,some 0,some (3 * 60 * 60 * 1000)⟩

def onlyA : Config := configured [healthCheck "a" "0 5 * * *"] (by decide)

theorem startup_repairs_moved_event :
    Repaired onlyA (checkAndInsertPeriodicEvents onlyA morning [atThree "r1" "a" EventProcessingStatus.Open]) ∧
      Unharmed onlyA morning [atThree "r1" "a" EventProcessingStatus.Open]
        (checkAndInsertPeriodicEvents onlyA morning [atThree "r1" "a" EventProcessingStatus.Open]) := by
  refine (startup_repairs_iff onlyA morning [atThree "r1" "a" EventProcessingStatus.Open] ?_).mpr ?_
  · intro number listed
    have same := congrArg String.length (List.mem_singleton.mp listed)
    have two : "r1".length = 2 := rfl
    simp only [morning,atThree,String.length_ofList,List.length_replicate,two] at same
    omega
  · intro event group changed row member _
    obtain rfl := List.mem_singleton.mp member
    refine ⟨rfl,event,group,changed,?_⟩
    obtain rfl := List.mem_singleton.mp (show event ∈ [healthCheck "a" "0 5 * * *"] from changed.1)
    rfl

/-- The event of namespace `b` has moved, the one of namespace `a` has not. -/
def bMoved : Config := configured [healthCheck "a" "0 3 * * *",healthCheck "b" "0 5 * * *"] (by decide)

/-- The rows of both namespaces go and only one of them comes back. -/
theorem startup_deletes_other_namespace :
    checkAndInsertPeriodicEvents bMoved morning
        [atThree "r1" "a" EventProcessingStatus.Open,atThree "r2" "b" EventProcessingStatus.Open] =
      [⟨"nnn","HealthCheck_PERIODIC","DB",some "b",EventProcessingStatus.Open,some (60 * 60 * 1000),
        some (5 * 60 * 60 * 1000)⟩] ∧
    ¬ Repaired bMoved (checkAndInsertPeriodicEvents bMoved morning
        [atThree "r1" "a" EventProcessingStatus.Open,atThree "r2" "b" EventProcessingStatus.Open]) ∧
    ¬ Unharmed bMoved morning [atThree "r1" "a" EventProcessingStatus.Open,atThree "r2" "b" EventProcessingStatus.Open]
        (checkAndInsertPeriodicEvents bMoved morning
          [atThree "r1" "a" EventProcessingStatus.Open,atThree "r2" "b" EventProcessingStatus.Open]) := by
  unfold Repaired Unharmed
  decide +kernel

end EventQueue.PeriodicStartup

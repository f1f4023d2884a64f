import EventQueue.PeriodicStartup
import EventQueue.Lib.Dict
import Mathlib.Data.Rat.Floor
import Mathlib.Tactic

/-! `EventQueueDeleteEvents`: the configurations are grouped by their number of days, and every group
gives one delete over the pairs of type and subtype in it and all processed namespaces. -/
namespace EventQueue.DeleteEvents
open PeriodicStartup (generateKey)

def DELETE_DEFAULT_PERIOD_IN_DAYS : Rat := 7

def DAY_IN_MS : Rat := 24 * 60 * 60 * 1000

structure EventConfig where
  nameSpace : String
  type : String
  subType : String
  isPeriodic : Bool
  deleteFinishedEventsAfterDays : Option Rat
  deriving DecidableEq

/-- `#eventMap`: each event is found under its own key. -/
structure Config where
  eventMap : Dict EventConfig
  keyed : ∀ key event, eventMap.get? key = some event →
    key = generateKey event.nameSpace event.type event.subType
  processingNamespaces : List String

structure Row where
  ID : String
  nameSpace : Option String
  type : Option String
  subType : Option String
  lastAttemptTimestamp : Option Int
  deriving DecidableEq

/-- `!value` holds of a value that is absent and of zero. -/
def EventConfig.days (event : EventConfig) : Rat :=
  match event.deleteFinishedEventsAfterDays with
  | none => DELETE_DEFAULT_PERIOD_IN_DAYS
  | some days => if days = 0 then DELETE_DEFAULT_PERIOD_IN_DAYS else days

def EventConfig.defaulted (event : EventConfig) : EventConfig :=
  {event with deleteFinishedEventsAfterDays := some event.days}

namespace Config

def events (config : Config) : List EventConfig :=
  (config.eventMap.entries.map Prod.snd).filter (fun event => !event.isPeriodic)

def periodicEvents (config : Config) : List EventConfig :=
  (config.eventMap.entries.map Prod.snd).filter (fun event => event.isPeriodic)

def allEvents (config : Config) : List EventConfig := config.events ++ config.periodicEvents

/-- The default is written into the configuration. -/
def defaulted (config : Config) : Config where
  eventMap := config.eventMap.map EventConfig.defaulted
  keyed := by
    intro key event found
    rw [Dict.get?_map,Option.map_eq_some_iff] at found
    obtain ⟨original,present,rfl⟩ := found
    exact config.keyed key original present
  processingNamespaces := config.processingNamespaces

end Config

abbrev Group := Rat × List EventConfig

/-- `result[days] ??= []` and `push`. A property's name is a number's text, which is read back as the same number. -/
def push (result : List Group) (event : EventConfig) : List Group :=
  if result.any (fun group => group.1 = event.days) then
    result.map (fun group => if group.1 = event.days then (group.1,group.2 ++ [event.defaulted]) else group)
  else result ++ [(event.days,[event.defaulted])]

def deleteByDaysMap (config : Config) : List Group := config.allEvents.foldl push []

def toInteger (number : Rat) : Int := if 0 ≤ number then ⌊number⌋ else ⌈number⌉

def MAX_TIME : Rat := 8640000000000000

/-- `new Date(timestamp - days * DAY_IN_MS)`; none where `toISOString` throws. -/
def dateBefore (timestamp : Int) (days : Rat) : Option Int :=
  let time : Rat := timestamp - days * DAY_IN_MS
  if |time| ≤ MAX_TIME then some (toInteger time) else none

def EventConfig.sameType (event : EventConfig) (row : Row) : Bool :=
  row.type = some event.type ∧ row.subType = some event.subType

/-- The condition of the delete; null is in no list and not before any date. -/
def selected (processingNamespaces : List String) (events : List EventConfig) (date : Int) (row : Row) : Bool :=
  events.any (fun event => event.sameType row) && row.lastAttemptTimestamp.any (fun last => last ≤ date) &&
    row.nameSpace.any (fun nameSpace => processingNamespaces.contains nameSpace)

def deleteGroup (config : Config) (timestamp : Int) (table : List Row) (group : Group) : Option (List Row) :=
  (dateBefore timestamp group.1).map (fun date =>
    table.filter (fun row => !selected config.processingNamespaces group.2 date row))

/-- The configuration and the table afterwards; a thrown error rolls the deletes back. -/
def processPeriodicEvent (config : Config) (timestamp : Int) (table : List Row) : Config × List Row :=
  (config.defaulted,((deleteByDaysMap config).foldlM (deleteGroup config timestamp) table).getD table)

/-- The number of days as documented: seven if absent, and zero means never. -/
def EventConfig.retention (event : EventConfig) : Rat :=
  event.deleteFinishedEventsAfterDays.getD DELETE_DEFAULT_PERIOD_IN_DAYS

def EventConfig.names (event : EventConfig) (row : Row) : Prop :=
  row.nameSpace = some event.nameSpace ∧ row.type = some event.type ∧ row.subType = some event.subType

def Row.Aged (row : Row) (timestamp : Int) (days : Rat) : Prop :=
  ∃ last, row.lastAttemptTimestamp = some last ∧ last + days * DAY_IN_MS ≤ (timestamp : Rat)

def Due (config : Config) (timestamp : Int) (row : Row) : Prop :=
  ∃ event ∈ config.allEvents, event.names row ∧ 0 < event.retention ∧ row.Aged timestamp event.retention

/-- The row's last attempt is not after the date the delete of so many days compares with. -/
def Row.Reached (row : Row) (timestamp : Int) (days : Rat) : Prop :=
  ∃ last date, row.lastAttemptTimestamp = some last ∧ dateBefore timestamp days = some date ∧ last ≤ date

def Row.Processed (row : Row) (config : Config) : Prop :=
  ∃ nameSpace ∈ config.processingNamespaces, row.nameSpace = some nameSpace

/-- All days that are configured lead to a date. -/
def Dated (config : Config) (timestamp : Int) : Prop :=
  ∀ event ∈ config.allEvents, (dateBefore timestamp event.days).isSome

/-- Zero counts as seven days, and a configuration is compared under its type and subtype in every namespace:
a row that one of them reaches has to be due by its own configuration. -/
structure Respected (config : Config) (timestamp : Int) (row : Row) : Prop where
  due : Due config timestamp row → Dated config timestamp ∧ row.Processed config
  kept : Dated config timestamp → row.Processed config → ∀ event ∈ config.allEvents,
    event.sameType row = true → row.Reached timestamp event.days → Due config timestamp row

theorem generateKey_unique {config : Config} {first second : EventConfig} (one : first ∈ config.allEvents)
    (other : second ∈ config.allEvents) (nameSpace : first.nameSpace = second.nameSpace)
    (type : first.type = second.type) (subType : first.subType = second.subType) : first = second := by
  have found (event : EventConfig) (member : event ∈ config.allEvents) :
      config.eventMap.get? (generateKey event.nameSpace event.type event.subType) = some event := by
    have listed : event ∈ config.eventMap.entries.map Prod.snd := by
      simp only [Config.allEvents,Config.events,Config.periodicEvents,List.mem_append,List.mem_filter] at member
      exact member.elim And.left And.left
    obtain ⟨⟨key,value⟩,entry,rfl⟩ := List.mem_map.mp listed
    have stored := Dict.mem_entries.mp entry
    rw [← config.keyed key value stored]
    exact stored
  have same := found first one
  rw [nameSpace,type,subType,found second other] at same
  exact (Option.some.inj same).symm

@[simp] theorem days_defaulted (event : EventConfig) : event.defaulted.days = event.days := by
  unfold EventConfig.defaulted EventConfig.days
  cases event.deleteFinishedEventsAfterDays with
  | none => simp [DELETE_DEFAULT_PERIOD_IN_DAYS]
  | some days =>
    by_cases zero : days = 0
    · simp [zero,DELETE_DEFAULT_PERIOD_IN_DAYS]
    · simp [zero]

theorem days_of_retention {event : EventConfig} (positive : 0 < event.retention) : event.days = event.retention := by
  unfold EventConfig.days EventConfig.retention at *
  cases given : event.deleteFinishedEventsAfterDays with
  | none => rfl
  | some days =>
    rw [given,Option.getD_some] at positive
    simp [positive.ne']

/-- Every configuration is in the group of its days, and no group is empty. -/
structure Grouped (groups : List Group) (events : List EventConfig) : Prop where
  filled : ∀ group ∈ groups, group.2 ≠ []
  sound : ∀ group ∈ groups, ∀ event ∈ group.2, ∃ original ∈ events, event = original.defaulted ∧ original.days = group.1
  complete : ∀ event ∈ events, ∃ group ∈ groups, group.1 = event.days ∧ event.defaulted ∈ group.2

namespace Grouped

theorem push_known {groups : List Group} {events : List EventConfig} {event : EventConfig} (grouped : Grouped groups events)
    (known : ∃ group ∈ groups, group.1 = event.days) :
    Grouped (groups.map (fun group => if group.1 = event.days then (group.1,group.2 ++ [event.defaulted]) else group))
      (events ++ [event]) where
  filled := by
    intro group member
    obtain ⟨before,present,rfl⟩ := List.mem_map.mp member
    split
    · simp
    · exact grouped.filled before present
  sound := by
    intro group member entry inside
    obtain ⟨before,present,rfl⟩ := List.mem_map.mp member
    split at inside
    · rename_i same
      rw [if_pos same]
      rcases List.mem_append.mp inside with old | new
      · obtain ⟨original,listed,equal,days⟩ := grouped.sound before present entry old
        exact ⟨original,List.mem_append_left _ listed,equal,days⟩
      · exact ⟨event,by simp,List.mem_singleton.mp new,same.symm⟩
    · rename_i other
      rw [if_neg other]
      obtain ⟨original,listed,equal,days⟩ := grouped.sound before present entry inside
      exact ⟨original,List.mem_append_left _ listed,equal,days⟩
  complete := by
    intro other member
    rcases List.mem_append.mp member with old | new
    · obtain ⟨group,present,days,inside⟩ := grouped.complete other old
      refine ⟨_,List.mem_map_of_mem present,?_⟩
      split
      · exact ⟨days,List.mem_append_left _ inside⟩
      · exact ⟨days,inside⟩
    · obtain rfl := List.mem_singleton.mp new
      obtain ⟨group,present,days⟩ := known
      refine ⟨_,List.mem_map_of_mem present,?_⟩
      rw [if_pos days]
      exact ⟨days,by simp⟩

theorem push_new {groups : List Group} {events : List EventConfig} (grouped : Grouped groups events) (event : EventConfig) :
    Grouped (groups ++ [(event.days,[event.defaulted])]) (events ++ [event]) where
  filled := by
    intro group member
    rcases List.mem_append.mp member with old | new
    · exact grouped.filled group old
    · simp [List.mem_singleton.mp new]
  sound := by
    intro group member entry inside
    rcases List.mem_append.mp member with old | new
    · obtain ⟨original,listed,equal,days⟩ := grouped.sound group old entry inside
      exact ⟨original,List.mem_append_left _ listed,equal,days⟩
    · obtain rfl := List.mem_singleton.mp new
      exact ⟨event,by simp,List.mem_singleton.mp inside,rfl⟩
  complete := by
    intro other member
    rcases List.mem_append.mp member with old | new
    · obtain ⟨group,present,rest⟩ := grouped.complete other old
      exact ⟨group,List.mem_append_left _ present,rest⟩
    · obtain rfl := List.mem_singleton.mp new
      exact ⟨(other.days,[other.defaulted]),by simp,rfl,by simp⟩

theorem push {groups : List Group} {events : List EventConfig} (grouped : Grouped groups events) (event : EventConfig) :
    Grouped (DeleteEvents.push groups event) (events ++ [event]) := by
  unfold DeleteEvents.push
  split
  · rename_i known
    simp only [List.any_eq_true,decide_eq_true_eq] at known
    exact grouped.push_known known
  · exact grouped.push_new event

theorem foldl {groups : List Group} {before : List EventConfig} (grouped : Grouped groups before) (events : List EventConfig) :
    Grouped (events.foldl DeleteEvents.push groups) (before ++ events) := by
  induction events generalizing groups before with
  | nil => simpa using grouped
  | cons event rest ih => simpa using ih (grouped.push event)

end Grouped

theorem deleteByDaysMap_grouped (config : Config) : Grouped (deleteByDaysMap config) config.allEvents := by
  have start : Grouped [] [] := ⟨by simp,by simp,by simp⟩
  simpa [deleteByDaysMap] using start.foldl config.allEvents

def deletes (config : Config) (timestamp : Int) (row : Row) (group : Group) : Bool :=
  (dateBefore timestamp group.1).any (fun date => selected config.processingNamespaces group.2 date row)

theorem foldlM_dated (config : Config) (timestamp : Int) (groups : List Group) (table : List Row)
    (dated : ∀ group ∈ groups, (dateBefore timestamp group.1).isSome) :
    groups.foldlM (deleteGroup config timestamp) table =
      some (table.filter (fun row => !groups.any (deletes config timestamp row))) := by
  induction groups generalizing table with
  | nil => simp
  | cons group rest ih =>
    obtain ⟨date,found⟩ := Option.isSome_iff_exists.mp (dated group (List.mem_cons_self ..))
    rw [List.foldlM_cons]
    simp only [deleteGroup,found,Option.map_some,Option.bind_eq_bind,Option.bind_some]
    rw [ih _ (fun other member => dated other (List.mem_cons_of_mem _ member)),List.filter_filter]
    congr 2
    funext row
    simp [deletes,found,Bool.and_comm]

theorem foldlM_undated (config : Config) (timestamp : Int) (groups : List Group) (table : List Row)
    (undated : ∃ group ∈ groups, dateBefore timestamp group.1 = none) :
    groups.foldlM (deleteGroup config timestamp) table = none := by
  induction groups generalizing table with
  | nil => simp at undated
  | cons group rest ih =>
    rw [List.foldlM_cons]
    cases found : dateBefore timestamp group.1 with
    | none => simp [deleteGroup,found]
    | some date =>
      obtain ⟨other,member,none⟩ := undated
      have later : other ∈ rest := by
        rcases List.mem_cons.mp member with rfl | later
        · simp [found] at none
        · exact later
      simp only [deleteGroup,found,Option.map_some,Option.bind_eq_bind,Option.bind_some]
      exact ih _ ⟨other,later,none⟩

theorem dated_iff (config : Config) (timestamp : Int) :
    Dated config timestamp ↔ ∀ group ∈ deleteByDaysMap config, (dateBefore timestamp group.1).isSome := by
  have grouped := deleteByDaysMap_grouped config
  constructor
  · intro dated group member
    obtain ⟨event,inside⟩ := List.exists_mem_of_ne_nil _ (grouped.filled group member)
    obtain ⟨original,listed,-,days⟩ := grouped.sound group member event inside
    rw [← days]
    exact dated original listed
  · intro dated event member
    obtain ⟨group,present,days,-⟩ := grouped.complete event member
    rw [← days]
    exact dated group present

theorem deletes_iff (config : Config) (timestamp : Int) (row : Row) (group : Group) :
    deletes config timestamp row group = true ↔
      row.Processed config ∧ row.Reached timestamp group.1 ∧ ∃ event ∈ group.2, event.sameType row = true := by
  cases date : dateBefore timestamp group.1 <;> cases last : row.lastAttemptTimestamp <;> cases given : row.nameSpace <;>
    simp [deletes,selected,Row.Processed,Row.Reached,date,last,given]
  tauto

theorem any_deletes (config : Config) (timestamp : Int) (row : Row) :
    (deleteByDaysMap config).any (deletes config timestamp row) = true ↔
      row.Processed config ∧ ∃ event ∈ config.allEvents, event.sameType row = true ∧ row.Reached timestamp event.days := by
  have grouped := deleteByDaysMap_grouped config
  simp only [List.any_eq_true,deletes_iff]
  constructor
  · rintro ⟨group,member,processed,reached,event,inside,same⟩
    obtain ⟨original,listed,rfl,days⟩ := grouped.sound group member event inside
    exact ⟨processed,original,listed,same,days ▸ reached⟩
  · rintro ⟨processed,event,listed,same,reached⟩
    obtain ⟨group,member,days,inside⟩ := grouped.complete event listed
    exact ⟨group,member,processed,days ▸ reached,event.defaulted,inside,same⟩

/-- What the run leaves in the table. -/
theorem mem_processPeriodicEvent (config : Config) (timestamp : Int) (table : List Row) (row : Row) :
    row ∈ (processPeriodicEvent config timestamp table).2 ↔ row ∈ table ∧
      ¬(Dated config timestamp ∧ row.Processed config ∧
        ∃ event ∈ config.allEvents, event.sameType row = true ∧ row.Reached timestamp event.days) := by
  by_cases dated : Dated config timestamp
  · simp only [processPeriodicEvent,foldlM_dated config timestamp _ table ((dated_iff config timestamp).mp dated),
      Option.getD_some,List.mem_filter,Bool.not_eq_true',← Bool.not_eq_true,any_deletes,dated,true_and]
  · have undated : ∃ group ∈ deleteByDaysMap config, dateBefore timestamp group.1 = none := by
      rw [dated_iff] at dated
      push Not at dated
      simpa using dated
    simp [processPeriodicEvent,foldlM_undated config timestamp _ table undated,dated]

theorem le_toInteger {last : Int} {number : Rat} (before : (last : Rat) ≤ number) : last ≤ toInteger number := by
  unfold toInteger
  split
  · exact Int.le_floor.mpr before
  · exact (Int.le_floor.mpr before).trans (Int.floor_le_ceil number)

theorem reached_of_aged {row : Row} {timestamp : Int} {days : Rat} (aged : row.Aged timestamp days)
    (dated : (dateBefore timestamp days).isSome) : row.Reached timestamp days := by
  obtain ⟨last,found,age⟩ := aged
  obtain ⟨date,given⟩ := Option.isSome_iff_exists.mp dated
  refine ⟨last,date,found,given,?_⟩
  unfold dateBefore at given
  simp only [Option.ite_none_right_eq_some,Option.some.injEq] at given
  rw [← given.2]
  exact le_toInteger (by linarith)

theorem sameType_of_names {event : EventConfig} {row : Row} (names : event.names row) : event.sameType row = true := by
  simp [EventConfig.sameType,names.2.1,names.2.2]

theorem due_reached {config : Config} {timestamp : Int} {row : Row} (due : Due config timestamp row)
    (dated : Dated config timestamp) :
    ∃ event ∈ config.allEvents, event.sameType row = true ∧ row.Reached timestamp event.days := by
  obtain ⟨event,listed,names,positive,aged⟩ := due
  refine ⟨event,listed,sameType_of_names names,?_⟩
  have known := dated event listed
  rw [days_of_retention positive] at known ⊢
  exact reached_of_aged aged known

theorem retention_iff (config : Config) (timestamp : Int) (table : List Row) :
    (∀ row ∈ table, row ∈ (processPeriodicEvent config timestamp table).2 ↔ ¬Due config timestamp row) ↔
      ∀ row ∈ table, Respected config timestamp row := by
  apply forall₂_congr
  intro row member
  simp only [mem_processPeriodicEvent,member,true_and,not_iff_not]
  constructor
  · intro claimed
    refine ⟨fun due => ?_,fun dated processed event listed same reached => ?_⟩
    · exact ⟨(claimed.mpr due).1,(claimed.mpr due).2.1⟩
    · exact claimed.mp ⟨dated,processed,event,listed,same,reached⟩
  · intro respected
    constructor
    · rintro ⟨dated,processed,event,listed,same,reached⟩
      exact respected.kept dated processed event listed same reached
    · intro due
      obtain ⟨dated,processed⟩ := respected.due due
      exact ⟨dated,processed,due_reached due dated⟩

theorem allEvents_defaulted (config : Config) :
    config.defaulted.allEvents = config.allEvents.map EventConfig.defaulted := by
  simp only [Config.allEvents,Config.events,Config.periodicEvents,Config.defaulted,Dict.map,List.map_append,
    List.map_map,List.filter_map]
  rfl

theorem push_defaulted (groups : List Group) (event : EventConfig) : push groups event.defaulted = push groups event := by
  have again : event.defaulted.defaulted = event.defaulted := by
    rw [EventConfig.defaulted,days_defaulted]
    rfl
  simp only [push,days_defaulted,again]

/-- The defaults that a run writes into the configuration change no later run. -/
theorem processPeriodicEvent_defaulted (config : Config) (timestamp : Int) (table : List Row) :
    (processPeriodicEvent config.defaulted timestamp table).2 = (processPeriodicEvent config timestamp table).2 := by
  have groups : deleteByDaysMap config.defaulted = deleteByDaysMap config := by
    simp only [deleteByDaysMap,allEvents_defaulted,List.foldl_map,push_defaulted]
  have step : deleteGroup config.defaulted timestamp = deleteGroup config timestamp := rfl
  simp only [processPeriodicEvent,groups,step]

/-- One type and subtype in two namespaces, kept for thirty days and for one day. -/
def twoNamespaces : Config where
  eventMap := (Dict.empty.set "default##Notifications##Task" ⟨"default","Notifications","Task",false,some 30⟩).set
    "other##Notifications##Task" ⟨"other","Notifications","Task",false,some 1⟩
  keyed := by
    intro key event found
    simp only [Dict.get?_set,Dict.get?_empty] at found
    split at found
    · rename_i same
      cases found
      exact same
    · split at found
      · rename_i same
        cases found
        exact same
      · cases found
  processingNamespaces := ["default","other"]

def twoDaysOld : Row := ⟨"1",some "default",some "Notifications",some "Task",some 0⟩

theorem other_namespace_deletes :
    ¬∀ row ∈ [twoDaysOld],
      row ∈ (processPeriodicEvent twoNamespaces 172800000 [twoDaysOld]).2 ↔ ¬Due twoNamespaces 172800000 row := by
  have deleted : (processPeriodicEvent twoNamespaces 172800000 [twoDaysOld]).2 = [] := by decide +kernel
  have listed : twoNamespaces.allEvents = [⟨"default","Notifications","Task",false,some 30⟩,
      ⟨"other","Notifications","Task",false,some 1⟩] := by decide
  rw [deleted]
  intro claimed
  refine absurd ((claimed twoDaysOld (by simp)).mpr ?_) (by simp)
  rintro ⟨event,member,names,-,last,found,age⟩
  rw [listed] at member
  rcases List.mem_cons.mp member with rfl | later
  · cases found
    norm_num [DAY_IN_MS,EventConfig.retention] at age
  · obtain rfl := List.mem_singleton.mp later
    simp [EventConfig.names,twoDaysOld] at names

end EventQueue.DeleteEvents

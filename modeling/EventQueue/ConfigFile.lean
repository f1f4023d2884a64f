import EventQueue.Lib.Registry
import EventQueue.Lib.Separated
import EventQueue.OutboxConfig
import EventQueue.PeriodicStartup
import Mathlib.Tactic

/-! The configuration of all events: the ones of the configuration file, of the environment and of the outboxed
services, put together, completed and checked one after the other, and the event map they fill. -/
namespace EventQueue.ConfigFile
open Js (Value Number)
open OutboxConfig (Options Settings Section Required EventConfig EventQueueError read assign orDefault spread exceeds
  isArrayOf isString isNumber isPriority)
open PeriodicStartup (generateKey)
open SubType (CAP_EVENT_TYPE join split)

/-- An event as it is configured; what is not given is `undefined`. -/
structure Declared where
  nameSpace : Option String
  type : Option String
  subType : Option String
  options : Options

structure FileContent where
  events : List Declared
  periodicEvents : List Declared

/-- `CronExpressionParser.parse` and two times `next`, in milliseconds; an expression may have no more dates. -/
inductive Cron
  | invalid
  | ended
  | dates (next afterNext : Int)
  deriving DecidableEq

structure Environment extends OutboxConfig.Environment where
  cronTimezone : Option String
  cron : Value → Cron
  /-- The events of the options; one that is not truthy is switched off. -/
  configEvents : Dict (Option Declared)
  configPeriodicEvents : Dict (Option Declared)

inductive ConfigError
  | event (error : EventQueueError)
  | noCronOrInterval (type subType : String)
  | cronAndInterval (type subType : String)
  | invalidIntervalBetweenCron (type subType : String) (diffInSeconds : Rat)
  | invalidInterval (type subType : String) (interval : Value)
  /-- Thrown by `next`. -/
  | noMoreDates

/-- An entry of the event map. -/
structure Entry where
  event : EventConfig
  isPeriodic : Bool

def SUFFIX_PERIODIC : String := "_PERIODIC"
def MIN_INTERVAL_SEC : Nat := 10
def UTC_DEFAULT : Value := .bool false
def USE_CRON_TZ_DEFAULT : Value := .bool true

def ALLOWED_EVENT_OPTIONS_PERIODIC_EVENT : List String :=
  OutboxConfig.ALLOWED_EVENT_OPTIONS_BASE ++ ["interval","cron","utc","useCronTimezone","randomOffset"]

def sanitizeParamsPeriodicEvent (config : Options) : Options :=
  fun name => if name ∈ ALLOWED_EVENT_OPTIONS_PERIODIC_EVENT then config name else none

def Entry.key (entry : Entry) : String := generateKey entry.event.nameSpace entry.event.type entry.event.subType

section
variable (env : Environment)

/-- `#sanitizeParamsAdHocEvent`; `undefined` is the empty text in a key. -/
def adHocEvent (event : Declared) : EventConfig :=
  ⟨event.nameSpace.getD env.nameSpace,event.type.getD "",event.subType.getD "",
    OutboxConfig.sanitizeParamsAdHocEvent event.options⟩

/-- `#sanitizeParamsPeriodicEventEvent`; a type that is missing is there after the suffix is appended. -/
def periodicEvent (event : Declared) : EventConfig :=
  ⟨event.nameSpace.getD env.nameSpace,event.type.getD "undefined" ++ SUFFIX_PERIODIC,event.subType.getD "",
    sanitizeParamsPeriodicEvent event.options⟩

/-- The checks of `#basicEventValidation` in their order. -/
def basicChecks (event : EventConfig) : List (Bool × EventQueueError) :=
  let appNames := read event.options "appNames"
  let appInstances := read event.options "appInstances"
  let priority := read event.options "priority"
  let load := read event.options "load"
  [(!(read event.options "impl").truthy,.missingImpl event.type event.subType),
    (event.type = "",.missingType event),
    (event.subType = "",.missingSubType event),
    (appNames.truthy && !isArrayOf isString appNames,.appNamesFormat event.type event.subType appNames),
    (appInstances.truthy && !isArrayOf isNumber appInstances,.appInstancesFormat event.type event.subType appInstances),
    (!isPriority priority,.priorityNotAllowed priority "initEvent"),
    (exceeds (env.numberOf load) env.instanceLoadLimit,.loadHigherThanLimit load "initEvent")]

def basicEventValidation (event : EventConfig) : Except ConfigError Unit :=
  match (basicChecks env event).find? Prod.fst with
  | some check => .error (.event check.2)
  | none => .ok ()

/-- `this.cronTimezone` is truthy. -/
def hasCronTimezone : Bool := (env.cronTimezone.filter (· ≠ "")).isSome

/-- `utc` and `useCronTimezone`, which is never set without a time zone. -/
def withTimezoneFlags (options : Options) : Options :=
  let options := orDefault options "utc" UTC_DEFAULT
  if hasCronTimezone env then orDefault options "useCronTimezone" USE_CRON_TZ_DEFAULT
  else assign options "useCronTimezone" (.bool false)

def timezone (options : Options) : Value :=
  if (read options "utc").truthy || !(read options "useCronTimezone").truthy then .str "UTC"
  else .str (env.cronTimezone.getD "")

/-- Whether UTC or the configured time zone decides when a cron expression is due. -/
def withTimezone (options : Options) : Options :=
  let options := withTimezoneFlags env options
  assign options "tz" (timezone env options)

/-- `interval <= MIN_INTERVAL_SEC`, which is false for what is no number. -/
def tooShort (interval : Value) : Bool := (Number.finite MIN_INTERVAL_SEC).ge (env.numberOf interval)

/-- `#validatePeriodicConfig` without the search for a duplicate. -/
def validatePeriodicConfig (event : EventConfig) : Except ConfigError EventConfig :=
  let cron := read event.options "cron"
  let interval := read event.options "interval"
  if !cron.truthy && !interval.truthy then .error (.noCronOrInterval event.type event.subType)
  else if cron.truthy && interval.truthy then .error (.cronAndInterval event.type event.subType)
  else if cron.truthy then
    let zoned := {event with options := withTimezone env event.options}
    match env.cron cron with
    | .invalid => .error (.event (.cantParseCronExpression event.type event.subType cron))
    | .ended => .error .noMoreDates
    | .dates next afterNext =>
      let diffInSeconds : Rat := (afterNext - next : Int) / 1000
      if diffInSeconds ≤ MIN_INTERVAL_SEC then
        .error (.invalidIntervalBetweenCron event.type event.subType diffInSeconds)
      else (basicEventValidation env zoned).map (fun _ => zoned)
  else if tooShort env interval then .error (.invalidInterval event.type event.subType interval)
  else (basicEventValidation env event).map (fun _ => event)

def completeAdHoc (event : Declared) : Except ConfigError Entry :=
  match OutboxConfig.finish env.toEnvironment (adHocEvent env event) with
  | .error error => .error (.event error)
  | .ok done => .ok ⟨done,false⟩

def completePeriodic (event : Declared) : Except ConfigError Entry :=
  (validatePeriodicConfig env (OutboxConfig.basicEventTransformation env.toEnvironment (periodicEvent env event))).map
    (fun valid => ⟨OutboxConfig.basicEventTransformationAfterValidate valid,true⟩)

def keyOf (event : EventConfig) : String := generateKey event.nameSpace event.type event.subType

def duplicate (event : EventConfig) : ConfigError := .event (.duplicateEventRegistration event.type event.subType)

def addAdHocEvent : List Entry → Declared → Except ConfigError (List Entry) :=
  Registry.putNew Entry.key (fun entry => !entry.isPeriodic) (fun event => keyOf (adHocEvent env event))
    (fun event => duplicate (adHocEvent env event)) (completeAdHoc env)

def addPeriodicEvent : List Entry → Declared → Except ConfigError (List Entry) :=
  Registry.putNew Entry.key Entry.isPeriodic (fun event => keyOf (periodicEvent env event))
    (fun event => duplicate (periodicEvent env event)) (completePeriodic env)

/-- `set fileContent`: the event map and the error if it throws one. The ad-hoc events are there before the periodic
events are read. -/
def setFileContent (eventMap : List Entry) (config : FileContent) : List Entry × Option ConfigError :=
  match config.events.foldlM (addAdHocEvent env) [] with
  | .error error => (eventMap,some error)
  | .ok adHoc =>
    match config.periodicEvents.foldlM (addPeriodicEvent env) adHoc with
    | .error error => (adHoc,some error)
    | .ok both => (both,none)

/-- Type and subtype of an event of the options stand in its key unless the event says otherwise. -/
def mapEnvEvents (events : Dict (Option Declared)) : List Declared :=
  events.entries.filterMap (fun entry => entry.2.map (fun event =>
    {event with type := event.type.or (split '/' entry.1)[0]?, subType := event.subType.or (split '/' entry.1)[1]?}))

/-- A periodic function of a service: cron and interval of the section itself are ignored. -/
def periodicFn (serviceName : String) (settings : Settings) (fn : String × Settings) : Declared :=
  let base : Options := fun name => if name = "cron" ∨ name = "interval" then none else settings.options name
  let implied := assign (assign (fun _ => none) "impl" (.str "./outbox/EventQueueGenericOutboxHandler"))
    "internalEvent" (.bool true)
  ⟨fn.2.nameSpace.or settings.nameSpace,some CAP_EVENT_TYPE,some (join "." serviceName fn.1),
    spread (spread implied base) fn.2.options⟩

def periodicFns (service : String × Required) : List Declared :=
  match service.2.config with
  | some (.on settings events) =>
    (events.entries.filter (fun fn => fn.2.isPeriodic)).map (periodicFn service.1 settings)
  | _ => []

/-- The periodic events of `#cdsQueueEventsFromEnv`, each under its subtype. -/
def cdsQueuePeriodicEventsFromEnv : List Declared :=
  Keyed.putAll Declared.subType (env.requires.entries.flatMap periodicFns)

def declared (event : EventConfig) : Declared := ⟨some event.nameSpace,some event.type,some event.subType,event.options⟩

/-- The file content with the events of the environment. -/
def mixed (fileContent : FileContent) (adHocCAP : List EventConfig) : FileContent :=
  ⟨fileContent.events ++ mapEnvEvents env.configEvents ++ adHocCAP.map declared,
    fileContent.periodicEvents ++ mapEnvEvents env.configPeriodicEvents ++ cdsQueuePeriodicEventsFromEnv env⟩

def mixFileContentWithEnv (eventMap : List Entry) (fileContent : FileContent) : List Entry × Option ConfigError :=
  match OutboxConfig.cdsQueueEventsFromEnv env.toEnvironment with
  | .error error => (eventMap,some (.event error))
  | .ok adHocCAP => setFileContent env eventMap (mixed env fileContent adHocCAP)

end

def events (eventMap : List Entry) : List Entry := eventMap.filter (fun entry => !entry.isPeriodic)

def periodicEvents (eventMap : List Entry) : List Entry := eventMap.filter Entry.isPeriodic

def getEventConfig (eventMap : List Entry) (type subType nameSpace : String) : Option Entry :=
  Keyed.get? Entry.key eventMap (generateKey nameSpace type subType)

/-- What the checks of a periodic event let through. -/
structure Scheduled (env : Environment) (event : EventConfig) : Prop where
  passes : ∀ check ∈ basicChecks env event, check.1 = false
  byCron : (read event.options "cron").truthy = true → (read event.options "interval").truthy = false ∧
    ∃ next afterNext, env.cron (read event.options "cron") = .dates next afterNext ∧ next + 10000 < afterNext
  byInterval : (read event.options "cron").truthy = false → (read event.options "interval").truthy = true ∧
    tooShort env (read event.options "interval") = false

theorem read_same {options others : Options} {name : String} (same : options name = others name) :
    read options name = read others name := by
  rw [OutboxConfig.read,OutboxConfig.read,same]

theorem assign_other {options : Options} {name other : String} {value : Value} (apart : other ≠ name) :
    assign options name value other = options other := if_neg apart

theorem orDefault_other {options : Options} {name other : String} {value : Value} (apart : other ≠ name) :
    orDefault options name value other = options other := if_neg apart

theorem withTimezone_other (env : Environment) (options : Options) {name : String}
    (other : name ∉ ["utc","useCronTimezone","tz"]) : withTimezone env options name = options name := by
  simp only [List.mem_cons,List.not_mem_nil,or_false,not_or] at other
  obtain ⟨utc,useCronTimezone,tz⟩ := other
  unfold withTimezone withTimezoneFlags
  dsimp only
  rw [assign_other tz]
  split
  · rw [orDefault_other useCronTimezone,orDefault_other utc]
  · rw [assign_other useCronTimezone,orDefault_other utc]

/-- What `validatePeriodicConfig` makes of a valid event. -/
def zoned (env : Environment) (event : EventConfig) : EventConfig :=
  if (read event.options "cron").truthy then {event with options := withTimezone env event.options} else event

theorem basicEventValidation_iff {env : Environment} {event : EventConfig} :
    basicEventValidation env event = .ok () ↔ ∀ check ∈ basicChecks env event, check.1 = false := by
  unfold basicEventValidation
  cases failed : (basicChecks env event).find? Prod.fst with
  | none => simpa using List.find?_eq_none.mp failed
  | some check =>
    have member := List.mem_of_find?_eq_some failed
    have flag := List.find?_some failed
    constructor
    · intro impossible
      cases impossible
    · intro passes
      rw [passes check member] at flag
      cases flag

theorem passes_withTimezone {env : Environment} {event : EventConfig} :
    (∀ check ∈ basicChecks env {event with options := withTimezone env event.options}, check.1 = false) ↔
      ∀ check ∈ basicChecks env event, check.1 = false := by
  simp only [basicChecks,List.forall_mem_cons,List.not_mem_nil,IsEmpty.forall_iff,implies_true,and_true]
  repeat rw [read_same (withTimezone_other env event.options (by decide))]

theorem diff_iff (next afterNext : Int) :
    ((afterNext - next : Int) : Rat) / 1000 ≤ (MIN_INTERVAL_SEC : Rat) ↔ ¬next + 10000 < afterNext := by
  rw [div_le_iff₀ (by norm_num)]
  have bound : (MIN_INTERVAL_SEC : Rat) * 1000 = ((10000 : Int) : Rat) := by norm_num [MIN_INTERVAL_SEC]
  rw [bound,Int.cast_le]
  omega

theorem map_ok_iff {α β : Type} {first : Except ConfigError α} {f : α → β} {last : β} :
    first.map f = .ok last ↔ ∃ value, first = .ok value ∧ f value = last := by
  cases first with
  | error error => simp [Except.map]
  | ok value => simp [Except.map]

/-- A check that fails for an event that is not scheduled. -/
theorem refused_iff {env : Environment} {event valid : EventConfig} {result : Except ConfigError EventConfig}
    {error : ConfigError} (thrown : result = .error error) (unscheduled : ¬Scheduled env event) :
    result = .ok valid ↔ Scheduled env event ∧ valid = zoned env event := by
  rw [thrown]
  exact ⟨fun impossible => (by cases impossible),fun both => absurd both.1 unscheduled⟩

theorem validated_iff {env : Environment} {event valid : EventConfig} :
    (basicEventValidation env event).map (fun _ => event) = .ok valid ↔
      (∀ check ∈ basicChecks env event, check.1 = false) ∧ valid = event := by
  rw [map_ok_iff,← basicEventValidation_iff]
  constructor
  · rintro ⟨_,passes,rfl⟩
    exact ⟨passes,rfl⟩
  · rintro ⟨passes,rfl⟩
    exact ⟨(),passes,rfl⟩

theorem validatePeriodicConfig_iff {env : Environment} {event valid : EventConfig} :
    validatePeriodicConfig env event = .ok valid ↔ Scheduled env event ∧ valid = zoned env event := by
  cases cron : (read event.options "cron").truthy with
  | false =>
    cases interval : (read event.options "interval").truthy with
    | false =>
      refine refused_iff (by simp [validatePeriodicConfig,cron,interval]; rfl) (fun scheduled => ?_)
      have given := (scheduled.byInterval cron).1
      rw [interval] at given
      cases given
    | true =>
      cases short : tooShort env (read event.options "interval") with
      | true =>
        refine refused_iff (by simp [validatePeriodicConfig,cron,interval,short]; rfl) (fun scheduled => ?_)
        have long := (scheduled.byInterval cron).2
        rw [short] at long
        cases long
      | false =>
        have value : validatePeriodicConfig env event = (basicEventValidation env event).map (fun _ => event) := by
          simp [validatePeriodicConfig,cron,interval,short]
        have same : zoned env event = event := by simp [zoned,cron]
        rw [value,validated_iff,same]
        refine and_congr_left (fun _ => ⟨fun passes => ⟨passes,?_,?_⟩,Scheduled.passes⟩)
        · intro given
          rw [cron] at given
          cases given
        · exact fun _ => ⟨interval,short⟩
  | true =>
    cases interval : (read event.options "interval").truthy with
    | true =>
      refine refused_iff (by simp [validatePeriodicConfig,cron,interval]; rfl) (fun scheduled => ?_)
      have absent := (scheduled.byCron cron).1
      rw [interval] at absent
      cases absent
    | false =>
      cases parsed : env.cron (read event.options "cron") with
      | invalid =>
        refine refused_iff (by simp [validatePeriodicConfig,cron,interval,parsed]; rfl) (fun scheduled => ?_)
        obtain ⟨_,_,_,dates,_⟩ := scheduled.byCron cron
        rw [parsed] at dates
        cases dates
      | ended =>
        refine refused_iff (by simp [validatePeriodicConfig,cron,interval,parsed]; rfl) (fun scheduled => ?_)
        obtain ⟨_,_,_,dates,_⟩ := scheduled.byCron cron
        rw [parsed] at dates
        cases dates
      | dates next afterNext =>
        by_cases far : next + 10000 < afterNext
        · have value : validatePeriodicConfig env event =
              (basicEventValidation env (zoned env event)).map (fun _ => zoned env event) := by
            simp only [validatePeriodicConfig,cron,interval,parsed,Bool.not_true,Bool.false_and,Bool.and_false,
              Bool.false_eq_true,if_false,if_true,zoned,diff_iff,far,not_true]
          have same : zoned env event = {event with options := withTimezone env event.options} := by simp [zoned,cron]
          rw [value,validated_iff]
          refine and_congr_left (fun _ => ?_)
          rw [same,passes_withTimezone]
          refine ⟨fun passes => ⟨passes,fun _ => ⟨interval,next,afterNext,parsed,far⟩,fun given => ?_⟩,Scheduled.passes⟩
          rw [cron] at given
          cases given
        · refine refused_iff (by
            simp only [validatePeriodicConfig,cron,interval,parsed,Bool.not_true,Bool.false_and,Bool.and_false,
              Bool.false_eq_true,if_false,if_true,diff_iff,far,not_false_eq_true]
            rfl) (fun scheduled => ?_)
          obtain ⟨_,_,_,dates,apart⟩ := scheduled.byCron cron
          rw [parsed] at dates
          cases dates
          exact far apart

section
variable (env : Environment)

def prepared (event : Declared) : EventConfig :=
  OutboxConfig.basicEventTransformation env.toEnvironment (periodicEvent env event)

/-- What an ad-hoc event is in the map if its checks let it through. -/
def adHocEntry (event : Declared) : Entry := ⟨OutboxConfig.completed env.toEnvironment (adHocEvent env event),false⟩

def periodicEntry (event : Declared) : Entry :=
  ⟨OutboxConfig.basicEventTransformationAfterValidate (zoned env (prepared env event)),true⟩

def ValidAdHoc (event : Declared) : Prop := OutboxConfig.Valid env.toEnvironment (adHocEvent env event)

def ValidPeriodic (event : Declared) : Prop := Scheduled env (prepared env event)

theorem completeAdHoc_iff {event : Declared} {entry : Entry} :
    completeAdHoc env event = .ok entry ↔ ValidAdHoc env event ∧ entry = adHocEntry env event := by
  by_cases valid : ValidAdHoc env event
  · have done : completeAdHoc env event = .ok (adHocEntry env event) := by
      simp only [completeAdHoc,OutboxConfig.finish_valid valid]
      rfl
    rw [done,Except.ok.injEq]
    exact ⟨fun same => ⟨valid,same.symm⟩,fun both => both.2.symm⟩
  · obtain ⟨error,thrown⟩ := OutboxConfig.finish_invalid valid
    have refused : completeAdHoc env event = .error (.event error) := by simp only [completeAdHoc,thrown]
    rw [refused]
    exact ⟨fun impossible => (by cases impossible),fun both => absurd both.1 valid⟩

theorem completePeriodic_iff {event : Declared} {entry : Entry} :
    completePeriodic env event = .ok entry ↔ ValidPeriodic env event ∧ entry = periodicEntry env event := by
  rw [completePeriodic,map_ok_iff]
  constructor
  · rintro ⟨valid,passed,rfl⟩
    obtain ⟨scheduled,rfl⟩ := validatePeriodicConfig_iff.mp passed
    exact ⟨scheduled,rfl⟩
  · rintro ⟨scheduled,rfl⟩
    exact ⟨_,validatePeriodicConfig_iff.mpr ⟨scheduled,rfl⟩,rfl⟩

theorem key_periodicEntry (event : Declared) : (periodicEntry env event).key = keyOf (periodicEvent env event) := by
  unfold periodicEntry zoned
  split
  · rfl
  · rfl

def AcceptedAdHoc (events : List Declared) : Prop :=
  (∀ event ∈ events, ValidAdHoc env event) ∧ (events.map (fun event => keyOf (adHocEvent env event))).Nodup

def AcceptedPeriodic (events : List Declared) : Prop :=
  (∀ event ∈ events, ValidPeriodic env event) ∧ (events.map (fun event => keyOf (periodicEvent env event))).Nodup

theorem acceptedAdHoc_iff {events : List Declared} {done : List Entry} :
    Registry.Accepted (fun event => keyOf (adHocEvent env event)) (completeAdHoc env) events done ↔
      AcceptedAdHoc env events ∧ done = events.map (adHocEntry env) := by
  rw [Registry.Accepted,Registry.mapM_iff (fun _ _ => completeAdHoc_iff env),AcceptedAdHoc]
  exact and_right_comm

theorem acceptedPeriodic_iff {events : List Declared} {done : List Entry} :
    Registry.Accepted (fun event => keyOf (periodicEvent env event)) (completePeriodic env) events done ↔
      AcceptedPeriodic env events ∧ done = events.map (periodicEntry env) := by
  rw [Registry.Accepted,Registry.mapM_iff (fun _ _ => completePeriodic_iff env),AcceptedPeriodic]
  exact and_right_comm

theorem adHoc_own (event : Declared) (entry : Entry) (completed : completeAdHoc env event = .ok entry) :
    entry.key = keyOf (adHocEvent env event) ∧ (!entry.isPeriodic) = true := by
  obtain ⟨_,rfl⟩ := (completeAdHoc_iff env).mp completed
  exact ⟨rfl,rfl⟩

theorem periodic_own (event : Declared) (entry : Entry) (completed : completePeriodic env event = .ok entry) :
    entry.key = keyOf (periodicEvent env event) ∧ entry.isPeriodic = true := by
  obtain ⟨_,rfl⟩ := (completePeriodic_iff env).mp completed
  exact ⟨key_periodicEntry env event,rfl⟩

theorem keys_adHoc (events : List Declared) :
    (events.map (adHocEntry env)).map Entry.key = events.map (fun event => keyOf (adHocEvent env event)) := by
  rw [List.map_map]
  rfl

theorem keys_periodic (events : List Declared) :
    (events.map (periodicEntry env)).map Entry.key = events.map (fun event => keyOf (periodicEvent env event)) := by
  rw [List.map_map]
  exact List.map_congr_left (fun event _ => key_periodicEntry env event)

theorem adHocs_iff {events : List Declared} {map : List Entry} : events.foldlM (addAdHocEvent env) [] = .ok map ↔
    AcceptedAdHoc env events ∧ map = events.map (adHocEntry env) := by
  unfold addAdHocEvent
  rw [Registry.putNews_iff (adHoc_own env) (by simp)]
  constructor
  · rintro ⟨done,accepted,rfl⟩
    obtain ⟨fine,rfl⟩ := (acceptedAdHoc_iff env).mp accepted
    exact ⟨fine,Registry.putAll_distinct _ (by rw [keys_adHoc]; exact fine.2)⟩
  · rintro ⟨fine,rfl⟩
    refine ⟨_,(acceptedAdHoc_iff env).mpr ⟨fine,rfl⟩,?_⟩
    exact (Registry.putAll_distinct _ (by rw [keys_adHoc]; exact fine.2)).symm

theorem not_periodic (events : List Declared) : ∀ entry ∈ events.map (adHocEntry env), entry.isPeriodic = false := by
  intro entry member
  obtain ⟨event,_,rfl⟩ := List.mem_map.mp member
  rfl

theorem periodics_iff {events adHoc : List Declared} {map : List Entry} :
    events.foldlM (addPeriodicEvent env) (adHoc.map (adHocEntry env)) = .ok map ↔
      AcceptedPeriodic env events ∧
        map = (events.map (periodicEntry env)).foldl (Keyed.put Entry.key) (adHoc.map (adHocEntry env)) := by
  unfold addPeriodicEvent
  rw [Registry.putNews_iff (periodic_own env) (not_periodic env adHoc)]
  constructor
  · rintro ⟨done,accepted,rfl⟩
    obtain ⟨fine,rfl⟩ := (acceptedPeriodic_iff env).mp accepted
    exact ⟨fine,rfl⟩
  · rintro ⟨fine,rfl⟩
    exact ⟨_,(acceptedPeriodic_iff env).mpr ⟨fine,rfl⟩,rfl⟩

theorem all_periodic (events : List Declared) : ∀ entry ∈ events.map (periodicEntry env), entry.isPeriodic = true := by
  intro entry member
  obtain ⟨event,_,rfl⟩ := List.mem_map.mp member
  rfl

/-- The map of an accepted configuration. -/
def eventMapOf (config : FileContent) : List Entry :=
  (config.periodicEvents.map (periodicEntry env)).foldl (Keyed.put Entry.key) (config.events.map (adHocEntry env))

theorem setFileContent_iff {before map : List Entry} {config : FileContent} :
    setFileContent env before config = (map,none) ↔
      AcceptedAdHoc env config.events ∧ AcceptedPeriodic env config.periodicEvents ∧ map = eventMapOf env config := by
  unfold setFileContent
  constructor
  · intro loaded
    cases first : config.events.foldlM (addAdHocEvent env) [] with
    | error error => simp [first] at loaded
    | ok adHoc =>
      obtain ⟨fine,rfl⟩ := (adHocs_iff env).mp first
      rw [first] at loaded
      cases second : config.periodicEvents.foldlM (addPeriodicEvent env) (config.events.map (adHocEntry env)) with
      | error error => simp [second] at loaded
      | ok both =>
        simp only [second,Prod.mk.injEq,and_true] at loaded
        obtain ⟨also,rfl⟩ := (periodics_iff env).mp second
        exact ⟨fine,also,loaded.symm⟩
  · rintro ⟨fine,also,rfl⟩
    rw [(adHocs_iff env).mpr ⟨fine,rfl⟩]
    simp only [(periodics_iff env).mpr ⟨also,rfl⟩]
    rfl

theorem nodup_eventMapOf {config : FileContent} (fine : AcceptedAdHoc env config.events) :
    ((eventMapOf env config).map Entry.key).Nodup :=
  Registry.nodup_foldl_put _ (by rw [keys_adHoc]; exact fine.2) _

theorem periodicEvents_eventMapOf {config : FileContent} (fine : AcceptedAdHoc env config.events)
    (also : AcceptedPeriodic env config.periodicEvents) :
    (periodicEvents (eventMapOf env config)).Perm (config.periodicEvents.map (periodicEntry env)) := by
  have distinct : ((config.periodicEvents.map (periodicEntry env)).map Entry.key).Nodup := by
    rw [keys_periodic]
    exact also.2
  refine (List.perm_ext_iff_of_nodup ((nodup_eventMapOf env fine).of_map.filter _) distinct.of_map).mpr ?_
  intro entry
  rw [List.mem_filter,eventMapOf,Registry.mem_foldl_put _ distinct]
  constructor
  · rintro ⟨given | ⟨other,_⟩,kind⟩
    · exact given
    · rw [not_periodic env config.events entry other] at kind
      cases kind
  · intro given
    exact ⟨Or.inl given,all_periodic env config.periodicEvents entry given⟩

theorem events_eventMapOf (config : FileContent) :
    events (eventMapOf env config) = (config.events.map (adHocEntry env)).filter (fun entry =>
      entry.key ∉ config.periodicEvents.map (fun event => keyOf (periodicEvent env event))) := by
  have dropped : ∀ entry ∈ config.periodicEvents.map (periodicEntry env), (!entry.isPeriodic) = false := by
    intro entry member
    rw [all_periodic env config.periodicEvents entry member]
    rfl
  have kept : (config.events.map (adHocEntry env)).filter (fun entry => !entry.isPeriodic) =
      config.events.map (adHocEntry env) := by
    refine List.filter_eq_self.mpr (fun entry member => ?_)
    rw [not_periodic env config.events entry member]
    rfl
  rw [events,eventMapOf,Registry.filter_foldl_put _ dropped,kept,keys_periodic]

end

/-- A configuration is accepted iff every event passes its checks and no two of a kind have the same key. The map then
has the periodic events, and the ad-hoc events without those whose key a periodic event has. -/
theorem configuration_accepted_iff (env : Environment) (before : List Entry) (config : FileContent) :
    ((setFileContent env before config).2 = none ↔
      AcceptedAdHoc env config.events ∧ AcceptedPeriodic env config.periodicEvents) ∧
    ((setFileContent env before config).2 = none →
      ((setFileContent env before config).1.map Entry.key).Nodup ∧
      (periodicEvents (setFileContent env before config).1).Perm (config.periodicEvents.map (periodicEntry env)) ∧
      events (setFileContent env before config).1 = (config.events.map (adHocEntry env)).filter (fun entry =>
        entry.key ∉ config.periodicEvents.map (fun event => keyOf (periodicEvent env event)))) := by
  have accepted : (setFileContent env before config).2 = none → AcceptedAdHoc env config.events ∧
      AcceptedPeriodic env config.periodicEvents ∧ (setFileContent env before config).1 = eventMapOf env config :=
    fun passed => (setFileContent_iff env).mp (Prod.ext rfl passed)
  refine ⟨⟨fun passed => ⟨(accepted passed).1,(accepted passed).2.1⟩,fun both => ?_⟩,fun passed => ?_⟩
  · rw [(setFileContent_iff env).mpr ⟨both.1,both.2,rfl⟩]
  · obtain ⟨fine,also,map⟩ := accepted passed
    simp only [map]
    exact ⟨nodup_eventMapOf env fine,periodicEvents_eventMapOf env fine also,events_eventMapOf env config⟩

section
variable (env : Environment)

end

/-- Options whose time zone is decided. -/
structure InTimezone (env : Environment) (options : Options) : Prop where
  utc : OutboxConfig.nullish (read options "utc") = false
  useCronTimezone : hasCronTimezone env = true → OutboxConfig.nullish (read options "useCronTimezone") = false
  unused : hasCronTimezone env = false → options "useCronTimezone" = some (.bool false)
  tz : options "tz" = some (timezone env options)

section
variable {env : Environment} {options : Options}

theorem read_flags (name : String) (apart : name ≠ "tz") :
    read (withTimezone env options) name = read (withTimezoneFlags env options) name := by
  rw [withTimezone,OutboxConfig.read_assign,if_neg apart]

theorem inTimezone_withTimezone : InTimezone env (withTimezone env options) := by
  refine ⟨?_,?_,?_,?_⟩
  · rw [read_flags "utc" (by decide),withTimezoneFlags]
    split
    · rw [OutboxConfig.read_orDefault,if_neg (by decide),OutboxConfig.read_orDefault,if_pos rfl]
      exact OutboxConfig.nullish_coalesce rfl
    · rw [OutboxConfig.read_assign,if_neg (by decide),OutboxConfig.read_orDefault,if_pos rfl]
      exact OutboxConfig.nullish_coalesce rfl
  · intro given
    rw [read_flags "useCronTimezone" (by decide),withTimezoneFlags,if_pos given,OutboxConfig.read_orDefault,if_pos rfl]
    exact OutboxConfig.nullish_coalesce rfl
  · intro unset
    simp [withTimezone,withTimezoneFlags,unset,assign]
  · have same : timezone env (withTimezone env options) = timezone env (withTimezoneFlags env options) := by
      rw [timezone,timezone,read_flags "utc" (by decide),read_flags "useCronTimezone" (by decide)]
    rw [same]
    simp [withTimezone,assign]

theorem InTimezone.same (decided : InTimezone env options) : withTimezone env options = options := by
  have flags : withTimezoneFlags env options = options := by
    rw [withTimezoneFlags,OutboxConfig.orDefault_given decided.utc]
    split
    · rename_i given
      exact OutboxConfig.orDefault_given (decided.useCronTimezone given)
    · rename_i unset
      exact OutboxConfig.assign_read (decided.unused (by simpa using unset))
  rw [withTimezone,flags]
  exact OutboxConfig.assign_read decided.tz

theorem InTimezone.agree (decided : InTimezone env options) {other : Options}
    (same : ∀ name ∈ ["utc","useCronTimezone","tz"], other name = options name) : InTimezone env other := by
  have reads : ∀ name ∈ ["utc","useCronTimezone","tz"], read other name = read options name := by
    intro name listed
    rw [OutboxConfig.read,OutboxConfig.read,same name listed]
  have zone : timezone env other = timezone env options := by
    rw [timezone,timezone,reads "utc" (by decide),reads "useCronTimezone" (by decide)]
  refine ⟨?_,?_,?_,?_⟩
  · rw [reads "utc" (by decide)]
    exact decided.utc
  · rw [reads "useCronTimezone" (by decide)]
    exact decided.useCronTimezone
  · rw [same "useCronTimezone" (by decide)]
    exact decided.unused
  · rw [same "tz" (by decide),zone]
    exact decided.tz

end

/-- The options a periodic event always has in the map. -/
def defaultedPeriodic : List String :=
  ["load","priority","increasePriorityOverTime","keepAliveInterval","checkForNextChunk","propagateHeaders",
    "propagateContextProperties","retryFailedAfter","retryOpenAfter"]

/-- A configuration that the way of a periodic event into the map leaves as it is. -/
structure Settled (env : Environment) (event : EventConfig) : Prop where
  given : ∀ name ∈ defaultedPeriodic, OutboxConfig.nullish (read event.options name) = false
  keepAlive : event.options "keepAliveMaxInProgressTime" = some (.num
    (OutboxConfig.times OutboxConfig.DEFAULT_MAX_FACTOR_STUCK_2_KEEP_ALIVE_INTERVAL
      (env.numberOf (read event.options "keepAliveInterval"))))
  timezone : (read event.options "cron").truthy = true → InTimezone env event.options

section
variable {env : Environment} {event : EventConfig} (settled : Settled env event)

include settled

theorem Settled.orDefault {name : String} (listed : name ∈ defaultedPeriodic) (value : Value) :
    orDefault event.options name value = event.options :=
  OutboxConfig.orDefault_given (settled.given name listed)

theorem Settled.transformed : OutboxConfig.basicEventTransformation env.toEnvironment event = event := by
  simp only [OutboxConfig.basicEventTransformation]
  rw [settled.orDefault (by decide),settled.orDefault (by decide),settled.orDefault (by decide),
    settled.orDefault (by decide),OutboxConfig.assign_read settled.keepAlive,settled.orDefault (by decide)]

theorem Settled.zoned : zoned env event = event := by
  unfold ConfigFile.zoned
  split
  · rename_i cron
    rw [(settled.timezone cron).same]
  · rfl

theorem Settled.afterValidate : OutboxConfig.basicEventTransformationAfterValidate event = event := by
  simp only [OutboxConfig.basicEventTransformationAfterValidate]
  rw [settled.orDefault (by decide),settled.orDefault (by decide),settled.orDefault (by decide),
    settled.orDefault (by decide)]

end

section
variable (env : Environment) (event : Declared)

theorem zoned_other {name : String} (other : name ∉ ["utc","useCronTimezone","tz"]) (prepared : EventConfig) :
    (zoned env prepared).options name = prepared.options name := by
  unfold zoned
  split
  · exact withTimezone_other env prepared.options other
  · rfl

/-- After the first defaults no other options are set. -/
theorem periodicEntry_other {name : String} (other : name ∉ ["utc","useCronTimezone","tz","propagateHeaders",
    "propagateContextProperties","retryFailedAfter","retryOpenAfter"]) :
    (periodicEntry env event).event.options name = (prepared env event).options name := by
  simp only [List.mem_cons,List.not_mem_nil,or_false,not_or] at other
  obtain ⟨utc,useCronTimezone,tz,propagateHeaders,propagateContextProperties,retryFailedAfter,retryOpenAfter⟩ := other
  simp only [periodicEntry,OutboxConfig.basicEventTransformationAfterValidate]
  rw [orDefault_other retryOpenAfter,orDefault_other retryFailedAfter,orDefault_other propagateContextProperties,
    orDefault_other propagateHeaders]
  exact zoned_other env (by simp [utc,useCronTimezone,tz]) _

theorem settled_periodicEntry : Settled env (periodicEntry env event).event := by
  refine ⟨?_,?_,?_⟩
  · intro name listed
    simp only [defaultedPeriodic,List.mem_cons,List.not_mem_nil,or_false] at listed
    simp only [periodicEntry,OutboxConfig.basicEventTransformationAfterValidate,OutboxConfig.read_orDefault]
    rcases listed with rfl | rfl | rfl | rfl | rfl | rfl | rfl | rfl | rfl
    all_goals
      simp only [String.reduceEq,if_true,if_false]
    case inl | inr.inl | inr.inr.inl | inr.inr.inr.inl | inr.inr.inr.inr.inl =>
      rw [read_same (zoned_other env (by decide) _)]
      simp only [prepared,OutboxConfig.basicEventTransformation,OutboxConfig.read_orDefault,OutboxConfig.read_assign,
        String.reduceEq,if_true,if_false]
      exact OutboxConfig.nullish_coalesce rfl
    all_goals exact OutboxConfig.nullish_coalesce rfl
  · rw [periodicEntry_other env event (by decide),read_same (periodicEntry_other env event (by decide))]
    simp [prepared,OutboxConfig.basicEventTransformation,OutboxConfig.read_assign,orDefault,assign]
  · intro cron
    rw [read_same (periodicEntry_other env event (by decide))] at cron
    have decided : InTimezone env (zoned env (prepared env event)).options := by
      rw [zoned,if_pos cron]
      exact inTimezone_withTimezone
    refine decided.agree (fun name listed => ?_)
    simp only [List.mem_cons,List.not_mem_nil,or_false] at listed
    simp only [periodicEntry,OutboxConfig.basicEventTransformationAfterValidate,orDefault,assign]
    rcases listed with rfl | rfl | rfl
    all_goals simp

theorem scheduled_periodicEntry (valid : ValidPeriodic env event) : Scheduled env (periodicEntry env event).event := by
  have own (name : String) (other : name ∉ ["utc","useCronTimezone","tz","propagateHeaders",
      "propagateContextProperties","retryFailedAfter","retryOpenAfter"]) :=
    read_same (periodicEntry_other env event other)
  have same : (periodicEntry env event).event.type = (prepared env event).type ∧
      (periodicEntry env event).event.subType = (prepared env event).subType := by
    unfold periodicEntry zoned
    split
    · exact ⟨rfl,rfl⟩
    · exact ⟨rfl,rfl⟩
  refine ⟨?_,?_,?_⟩
  · have passes := valid.passes
    simp only [basicChecks,List.forall_mem_cons] at passes ⊢
    rw [own "impl" (by decide),own "appNames" (by decide),own "appInstances" (by decide),own "priority" (by decide),
      own "load" (by decide),same.1,same.2]
    exact ⟨passes.1,passes.2.1,passes.2.2.1,passes.2.2.2.1,passes.2.2.2.2.1,passes.2.2.2.2.2.1,passes.2.2.2.2.2.2.1,
      by simp⟩
  · rw [own "cron" (by decide),own "interval" (by decide)]
    exact valid.byCron
  · rw [own "cron" (by decide),own "interval" (by decide)]
    exact valid.byInterval

theorem settled_adHocEntry (valid : ValidAdHoc env event) :
    OutboxConfig.finish env.toEnvironment (adHocEntry env event).event = .ok (adHocEntry env event).event := by
  have allowed : OutboxConfig.sanitizeParamsAdHocEvent (adHocEvent env event).options = (adHocEvent env event).options :=
    OutboxConfig.sanitize_idem _
  have named : (adHocEvent env event).subType ≠ "" := by
    have checks := valid
    simp only [ValidAdHoc,OutboxConfig.Valid,OutboxConfig.checks,List.forall_mem_cons] at checks
    exact of_decide_eq_false checks.2.2.2.2.1
  have again : OutboxConfig.Valid env.toEnvironment (adHocEntry env event).event :=
    OutboxConfig.valid_completed allowed valid named
  rw [OutboxConfig.finish_valid again]
  exact congrArg Except.ok (OutboxConfig.completed_complete (OutboxConfig.complete_completed allowed))

end

/-- Every event of the map has passed its checks, and completing it once more changes nothing; a periodic event has
either a cron expression with its time zone or an interval. -/
theorem accepted_entries_settled (env : Environment) (before : List Entry) (config : FileContent)
    (accepted : (setFileContent env before config).2 = none) :
    ∀ entry ∈ (setFileContent env before config).1,
      (entry.isPeriodic = false → OutboxConfig.finish env.toEnvironment entry.event = .ok entry.event) ∧
      (entry.isPeriodic = true → Scheduled env entry.event ∧
        validatePeriodicConfig env (OutboxConfig.basicEventTransformation env.toEnvironment entry.event) =
          .ok entry.event ∧
        OutboxConfig.basicEventTransformationAfterValidate entry.event = entry.event ∧
        ((read entry.event.options "cron").truthy = true →
          read entry.event.options "tz" = timezone env entry.event.options)) := by
  obtain ⟨fine,also,map⟩ := (setFileContent_iff env).mp (Prod.ext rfl accepted)
  intro entry member
  simp only [map,eventMapOf] at member
  have distinct : ((config.periodicEvents.map (periodicEntry env)).map Entry.key).Nodup := by
    rw [keys_periodic]
    exact also.2
  rcases (Registry.mem_foldl_put _ distinct).mp member with periodic | ⟨adHoc,_⟩
  · obtain ⟨event,listed,rfl⟩ := List.mem_map.mp periodic
    have settled := settled_periodicEntry env event
    have scheduled := scheduled_periodicEntry env event (also.1 event listed)
    refine ⟨fun impossible => (by cases impossible),fun _ => ⟨scheduled,?_,settled.afterValidate,fun cron => ?_⟩⟩
    · rw [settled.transformed]
      exact validatePeriodicConfig_iff.mpr ⟨scheduled,settled.zoned.symm⟩
    · rw [OutboxConfig.read,(settled.timezone cron).tz]
      rfl
  · obtain ⟨event,listed,rfl⟩ := List.mem_map.mp adHoc
    exact ⟨fun _ => settled_adHocEntry env event (fine.1 event listed),fun impossible => (by cases impossible)⟩

def option (name : String) (value : Value) : Options := assign (fun _ => none) name value

/-- One outboxed service with an action and a periodic function. -/
def serviceEnvironment : Environment where
  nameSpace := "default"
  isMultiTenancy := true
  instanceLoadLimit := .finite 100
  outbox := none
  queue := none
  requires := ⟨[("OrderService",⟨some (.on ⟨none,option "cron" (.str "0 0 * * *")⟩ ⟨[("orderCreated",⟨none,fun _ => none⟩),
    ("cleanUp",⟨none,option "interval" (.nat 120)⟩)],by decide⟩),none⟩)],List.nodup_singleton _⟩
  numberOf := fun value => match value with
    | .num number => number
    | _ => .nan
  parsesCron := fun _ => true
  cronTimezone := some "Europe/Berlin"
  cron := fun _ => .dates 0 300000
  configEvents := Dict.empty
  configPeriodicEvents := Dict.empty

def tasks : FileContent :=
  ⟨[⟨none,some "Notifications",some "Task",option "impl" (.str "./Task")⟩],
    [⟨none,some "Locks",some "CleanUp",assign (option "impl" (.str "./CleanUp")) "cron" (.str "*/5 * * * *")⟩]⟩

theorem accepted_entries_settled_tasks :
    (setFileContent serviceEnvironment [] tasks).1.length = 2 ∧
    ∀ entry ∈ (setFileContent serviceEnvironment [] tasks).1, entry.isPeriodic = true →
      Scheduled serviceEnvironment entry.event := by
  have accepted : (setFileContent serviceEnvironment [] tasks).2 = none :=
    Option.isNone_iff_eq_none.mp (by decide +kernel)
  refine ⟨by decide +kernel,fun entry member periodic => ?_⟩
  exact ((accepted_entries_settled serviceEnvironment [] tasks accepted entry member).2 periodic).1

theorem getEventConfig_mem {eventMap : List Entry} (distinct : (eventMap.map Entry.key).Nodup) {entry : Entry}
    (member : entry ∈ eventMap) :
    getEventConfig eventMap entry.event.type entry.event.subType entry.event.nameSpace = some entry :=
  Keyed.get?_mem Entry.key distinct member

theorem toList_generateKey (nameSpace type subType : String) : (generateKey nameSpace type subType).toList =
    nameSpace.toList ++ '#'::('#'::(type.toList ++ '#'::('#'::subType.toList))) := by
  simp [generateKey,String.intercalate_cons_cons]

/-- Without a # in namespaces and types a key has only one type. -/
theorem type_of_key {nameSpace other type another subType last : String} (plain : '#' ∉ nameSpace.toList)
    (plainOther : '#' ∉ other.toList) (plainType : '#' ∉ type.toList) (plainAnother : '#' ∉ another.toList)
    (same : generateKey nameSpace type subType = generateKey other another last) : type = another := by
  have texts := congrArg String.toList same
  rw [toList_generateKey,toList_generateKey] at texts
  obtain ⟨_,rest⟩ := Separated.plain_before_inj plain plainOther texts
  exact String.toList_injective (Separated.plain_before_inj plainType plainAnother (List.cons.inj rest).2).1

section
variable {env : Environment} {adHocCAP : List EventConfig}
  (registered : OutboxConfig.cdsQueueEventsFromEnv env.toEnvironment = .ok adHocCAP)

include registered

theorem settled_registered : ∀ config ∈ adHocCAP, OutboxConfig.Settled env.toEnvironment config := by
  have logged := @OutboxConfig.logged_cdsQueueEventsFromEnv env.toEnvironment []
  by_cases valid : ∀ service ∈ env.requires.entries, OutboxConfig.ValidService env.toEnvironment service
  · have same := registered.symm.trans (logged.1 valid)
    cases same
    exact fun config member => OutboxConfig.settled_registrations valid config (Keyed.mem_putAll _ member)
  · obtain ⟨error,thrown⟩ := logged.2 valid
    have impossible := registered.symm.trans thrown
    cases impossible

theorem mixed_eq (before : List Entry) (content : FileContent) :
    mixFileContentWithEnv env before content = setFileContent env before (mixed env content adHocCAP) := by
  simp only [mixFileContentWithEnv,registered]

omit registered in
theorem adHocEntry_declared {config : EventConfig} (settled : OutboxConfig.Settled env.toEnvironment config) :
    adHocEntry env (declared config) = ⟨config,false⟩ := by
  have same : adHocEvent env (declared config) = config := by
    simp only [adHocEvent,declared,Option.getD_some,settled.complete.allowed]
  rw [adHocEntry,same,OutboxConfig.completed_complete settled.complete]

end

/-- The configurations of the outboxed services are found in the map of an accepted configuration as they were
registered: no periodic event takes the place of one of them unless a namespace or a type has a # in it. -/
theorem outbox_configurations_kept (env : Environment) (before : List Entry) (content : FileContent)
    (adHocCAP : List EventConfig) (registered : OutboxConfig.cdsQueueEventsFromEnv env.toEnvironment = .ok adHocCAP)
    (accepted : (mixFileContentWithEnv env before content).2 = none)
    (plain : ∀ event ∈ (mixed env content adHocCAP).periodicEvents,
      '#' ∉ (periodicEvent env event).nameSpace.toList ∧ '#' ∉ (periodicEvent env event).type.toList)
    (config : EventConfig) (member : config ∈ adHocCAP) (named : '#' ∉ config.nameSpace.toList) :
    getEventConfig (mixFileContentWithEnv env before content).1 config.type config.subType config.nameSpace =
      some ⟨config,false⟩ := by
  rw [mixed_eq registered] at accepted ⊢
  obtain ⟨_,views⟩ := configuration_accepted_iff env before (mixed env content adHocCAP)
  obtain ⟨distinct,_,adHoc⟩ := views accepted
  have settled := settled_registered registered config member
  have kept : Entry.mk config false ∈ events (setFileContent env before (mixed env content adHocCAP)).1 := by
    rw [adHoc]
    refine List.mem_filter.mpr ⟨?_,?_⟩
    · refine List.mem_map.mpr ⟨declared config,?_,adHocEntry_declared settled⟩
      exact List.mem_append_right _ (List.mem_map_of_mem member)
    · refine decide_eq_true (fun taken => ?_)
      obtain ⟨event,listed,same⟩ := List.mem_map.mp taken
      obtain ⟨nameSpace,type⟩ := plain event listed
      have outbox : '#' ∉ config.type.toList := by
        rw [settled.type]
        decide
      have types := type_of_key nameSpace named type outbox same
      rw [settled.type] at types
      have texts := congrArg (fun text : String => text.toList.getLast?) types
      simp [periodicEvent,SUFFIX_PERIODIC,CAP_EVENT_TYPE] at texts
  have found := getEventConfig_mem distinct (List.mem_filter.mp kept).1
  exact found

theorem tasks_accepted : (mixFileContentWithEnv serviceEnvironment [] tasks).2 = none :=
  Option.isNone_iff_eq_none.mp (by decide +kernel)

theorem outbox_configurations_kept_tasks : ∃ adHocCAP,
    OutboxConfig.cdsQueueEventsFromEnv serviceEnvironment.toEnvironment = .ok adHocCAP ∧
    ∀ config ∈ adHocCAP, getEventConfig (mixFileContentWithEnv serviceEnvironment [] tasks).1 config.type config.subType
      config.nameSpace = some ⟨config,false⟩ := by
  have named : ((OutboxConfig.cdsQueueEventsFromEnv serviceEnvironment.toEnvironment).toOption.map (fun adHocCAP =>
      adHocCAP.all (fun config => !config.nameSpace.toList.contains '#'))) = some true := by decide +kernel
  cases registered : OutboxConfig.cdsQueueEventsFromEnv serviceEnvironment.toEnvironment with
  | error error =>
    rw [registered] at named
    cases named
  | ok adHocCAP =>
    rw [registered] at named
    have plain : (mixed serviceEnvironment tasks adHocCAP).periodicEvents.all (fun event =>
        !(periodicEvent serviceEnvironment event).nameSpace.toList.contains '#' &&
        !(periodicEvent serviceEnvironment event).type.toList.contains '#') = true := by
      change (mixed serviceEnvironment tasks []).periodicEvents.all _ = true
      decide +kernel
    refine ⟨adHocCAP,rfl,fun config member => ?_⟩
    refine outbox_configurations_kept serviceEnvironment [] tasks adHocCAP registered tasks_accepted ?_ config member ?_
    · intro event listed
      simpa using List.all_eq_true.mp plain event listed
    · simpa using List.all_eq_true.mp (Option.some.inj named) config member

/-- The function of a service is one of the environment, and cron or interval makes it periodic. -/
structure Periodic (env : Environment) (serviceName : String) (settings : Settings) (fn : String × Settings) : Prop where
  function : ∃ required events, env.requires.get? serviceName = some required ∧
    required.config = some (.on settings events) ∧ events.get? fn.1 = some fn.2
  isPeriodic : fn.2.isPeriodic = true

theorem mem_periodicFns {env : Environment} {event : Declared} :
    event ∈ env.requires.entries.flatMap periodicFns ↔
      ∃ serviceName settings fn, Periodic env serviceName settings fn ∧ event = periodicFn serviceName settings fn := by
  rw [List.mem_flatMap]
  constructor
  · rintro ⟨service,listed,inside⟩
    unfold periodicFns at inside
    split at inside
    · rename_i settings functions config
      obtain ⟨fn,kept,rfl⟩ := List.mem_map.mp inside
      obtain ⟨key,periodic⟩ := List.mem_filter.mp kept
      exact ⟨service.1,settings,fn,⟨⟨service.2,functions,Dict.mem_entries.mp listed,config,Dict.mem_entries.mp key⟩,
        periodic⟩,rfl⟩
    · cases inside
  · rintro ⟨serviceName,settings,fn,⟨⟨required,functions,found,config,key⟩,periodic⟩,rfl⟩
    refine ⟨(serviceName,required),Dict.mem_entries.mpr found,?_⟩
    simp only [periodicFns,config]
    exact List.mem_map_of_mem (List.mem_filter.mpr ⟨Dict.mem_entries.mpr key,periodic⟩)

/-- Cron and interval are the ones of the function, whatever stands in the section. -/
theorem schedule_periodicFn (env : Environment) (serviceName : String) (settings : Settings) (fn : String × Settings)
    {name : String} (schedule : name = "cron" ∨ name = "interval") :
    (periodicEntry env (periodicFn serviceName settings fn)).event.options name = fn.2.options name := by
  rcases schedule with rfl | rfl
  all_goals
    rw [periodicEntry_other env _ (by decide)]
    simp [prepared,OutboxConfig.basicEventTransformation,orDefault,assign,periodicEvent,sanitizeParamsPeriodicEvent,
      ALLOWED_EVENT_OPTIONS_PERIODIC_EVENT,OutboxConfig.ALLOWED_EVENT_OPTIONS_BASE,periodicFn,spread]

/-- Every periodic function of an outboxed service is a periodic event of an accepted configuration, with the cron
expression or the interval of a function of its name. -/
theorem periodic_functions_loaded (env : Environment) (before : List Entry) (content : FileContent)
    (accepted : (mixFileContentWithEnv env before content).2 = none) (serviceName : String) (settings : Settings)
    (fn : String × Settings) (periodic : Periodic env serviceName settings fn) :
    ∃ entry ∈ periodicEvents (mixFileContentWithEnv env before content).1,
      entry.event.type = CAP_EVENT_TYPE ++ SUFFIX_PERIODIC ∧ entry.event.subType = join "." serviceName fn.1 ∧
      ∃ another general other, Periodic env another general other ∧ join "." another other.1 = join "." serviceName fn.1 ∧
        entry.event.options "cron" = other.2.options "cron" ∧
        entry.event.options "interval" = other.2.options "interval" := by
  cases registered : OutboxConfig.cdsQueueEventsFromEnv env.toEnvironment with
  | error error => simp [mixFileContentWithEnv,registered] at accepted
  | ok adHocCAP =>
    rw [mixed_eq registered] at accepted ⊢
    obtain ⟨_,views⟩ := configuration_accepted_iff env before (mixed env content adHocCAP)
    obtain ⟨_,loaded,_⟩ := views accepted
    have listed : periodicFn serviceName settings fn ∈ env.requires.entries.flatMap periodicFns :=
      mem_periodicFns.mpr ⟨serviceName,settings,fn,periodic,rfl⟩
    -- a later function of the same name has taken the place
    obtain ⟨event,last⟩ : ∃ event, Keyed.get? Declared.subType (cdsQueuePeriodicEventsFromEnv env)
        (periodicFn serviceName settings fn).subType = some event := by
      rw [cdsQueuePeriodicEventsFromEnv,Keyed.get?_putAll]
      have kept : periodicFn serviceName settings fn ∈ (env.requires.entries.flatMap periodicFns).filter
          (fun event => event.subType = (periodicFn serviceName settings fn).subType) :=
        List.mem_filter.mpr ⟨listed,by simp⟩
      exact ⟨_,List.getLast?_eq_some_getLast (List.ne_nil_of_mem kept)⟩
    have inside : event ∈ cdsQueuePeriodicEventsFromEnv env := List.mem_of_find?_eq_some last
    have same : event.subType = (periodicFn serviceName settings fn).subType := by
      have found := @List.find?_some _ (fun item : Declared => decide (item.subType =
        (periodicFn serviceName settings fn).subType)) event _ last
      simpa using found
    obtain ⟨another,general,other,own,rfl⟩ := mem_periodicFns.mp (Keyed.mem_putAll _ inside)
    have names : join "." another other.1 = join "." serviceName fn.1 := Option.some.inj same
    refine ⟨periodicEntry env (periodicFn another general other),?_,?_,?_,another,general,other,own,names,
      schedule_periodicFn env another general other (Or.inl rfl),schedule_periodicFn env another general other (Or.inr rfl)⟩
    · exact loaded.mem_iff.mpr (List.mem_map_of_mem (List.mem_append_right _ inside))
    · simp only [periodicEntry,OutboxConfig.basicEventTransformationAfterValidate,zoned]
      split
      · rfl
      · rfl
    · rw [← names]
      simp only [periodicEntry,OutboxConfig.basicEventTransformationAfterValidate,zoned]
      split
      · rfl
      · rfl

theorem periodic_functions_loaded_cleanUp :
    ∃ entry ∈ periodicEvents (mixFileContentWithEnv serviceEnvironment [] tasks).1,
      entry.event.type = "CAP_OUTBOX_PERIODIC" ∧ entry.event.subType = "OrderService.cleanUp" := by
  obtain ⟨entry,member,type,subType,_⟩ := periodic_functions_loaded serviceEnvironment [] tasks tasks_accepted
    "OrderService" ⟨none,option "cron" (.str "0 0 * * *")⟩ ("cleanUp",⟨none,option "interval" (.nat 120)⟩)
    ⟨⟨_,_,rfl,rfl,rfl⟩,by decide⟩
  exact ⟨entry,member,type,subType⟩

end EventQueue.ConfigFile

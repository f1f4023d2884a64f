import EventQueue.Constants
import EventQueue.OutboxSubType
import EventQueue.Lib.Keyed
import EventQueue.Lib.Value

/-! The configurations of outboxed services with all their options: the base configuration of a service,
the sections of its events merged over it, defaults and checks, and the event map they fill. Namespace,
type and subtype are the key of a configuration and stand beside its options. Periodic events go to a
list of their own and are left out. -/
namespace EventQueue.OutboxConfig
open Js (Value Number)
open Saga (SAGA_SUCCESS SAGA_FAILED SAGA_DONE)
open SubType (CAP_EVENT_TYPE join split)

/-- The options an object has itself; `undefined` is a value of its own. -/
abbrev Options := String → Option Value

structure Settings where
  nameSpace : Option String
  options : Options

/-- The value of `outbox` or `queued`; `true` is a section without settings. -/
inductive Section
  | off
  | on (settings : Settings) (events : Dict Settings)

structure Required where
  outbox : Option Section
  queued : Option Section

structure EventConfig where
  nameSpace : String
  type : String
  subType : String
  options : Options

structure Environment where
  nameSpace : String
  isMultiTenancy : Bool
  instanceLoadLimit : Number
  /-- `cds.requires.outbox` and `cds.requires.queue`. -/
  outbox : Option Settings
  queue : Option Settings
  /-- `cds.env.requires`. -/
  requires : Dict Required
  /-- `Number(value)`. -/
  numberOf : Value → Number
  /-- `CronExpressionParser.parse` accepts the value. -/
  parsesCron : Value → Bool

inductive EventQueueError
  | duplicateEventRegistration (type subType : String)
  | multiInstanceProcessingNotAllowed (type subType : String)
  | cantParseCronExpression (type subType : String) (expression : Value)
  | missingImpl (type subType : String)
  | missingType (event : EventConfig)
  | missingSubType (event : EventConfig)
  | appNamesFormat (type subType : String) (appNames : Value)
  | appInstancesFormat (type subType : String) (appInstances : Value)
  | priorityNotAllowed (priority : Value) (label : String)
  | loadHigherThanLimit (load : Value) (label : String)

def DEFAULT_LOAD : Value := .nat 1
def DEFAULT_PRIORITY : Value := .str "medium"
def DEFAULT_INCREASE_PRIORITY : Value := .bool true
def DEFAULT_KEEP_ALIVE_INTERVAL : Value := .nat 60
def DEFAULT_MAX_FACTOR_STUCK_2_KEEP_ALIVE_INTERVAL : Rat := 7 / 2
def DEFAULT_INHERIT_TRACE_CONTEXT : Value := .bool true
def DEFAULT_CHECK_FOR_NEXT_CHUNK : Value := .bool true
def DEFAULT_RETRY_AFTER : Value := .nat (5 * 60 * 1000)
def CAP_PARALLEL_DEFAULT : Value := .nat 5
def CAP_MAX_ATTEMPTS_DEFAULT : Value := .nat 5

def ALLOWED_EVENT_OPTIONS_BASE : List String :=
  ["load","impl","transactionMode","deleteFinishedEventsAfterDays","useEventQueueUser","priority",
    "keepAliveInterval","increasePriorityOverTime","keepAliveMaxInProgressTime","appNames","appInstances",
    "internalEvent"]

def ALLOWED_EVENT_OPTIONS_AD_HOC : List String :=
  ALLOWED_EVENT_OPTIONS_BASE ++ ["inheritTraceContext","selectMaxChunkSize","parallelEventProcessing",
    "retryAttempts","processAfterCommit","checkForNextChunk","retryFailedAfter","propagateHeaders",
    "propagateContextProperties","retryOpenAfter","multiInstanceProcessing","kind","timeBucket"]

def nullish : Value → Bool
  | .undefined => true
  | .null => true
  | _ => false

/-- `left ?? right`. -/
def coalesce (left right : Value) : Value := if nullish left then right else left

def read (options : Options) (name : String) : Value := (options name).getD .undefined

def assign (options : Options) (name : String) (value : Value) : Options :=
  fun other => if other = name then some value else options other

/-- `{ ...base, ...options }`. -/
def spread (base options : Options) : Options := fun name => (options name).or (base name)

/-- `options[name] = options[name] ?? value`. -/
def orDefault (options : Options) (name : String) (value : Value) : Options :=
  assign options name (coalesce (read options name) value)

def cleanUndefined (input : Options) : Options := fun name =>
  match input name with
  | some .undefined => none
  | value => value

def sanitizeParamsAdHocEvent (config : Options) : Options :=
  fun name => if name ∈ ALLOWED_EVENT_OPTIONS_AD_HOC then config name else none

def mixCAPPropertyNamesWithEventQueueNames (config : Options) : Options :=
  let parallel := read config "parallel"
  let selectMaxChunkSize := coalesce (read config "selectMaxChunkSize") (read config "chunkSize")
  let parallelEventProcessing := coalesce (read config "parallelEventProcessing")
    (if parallel.truthy then CAP_PARALLEL_DEFAULT else parallel)
  let retryAttempts := coalesce (read config "retryAttempts") (read config "maxAttempts")
  let named := assign (assign (assign (fun _ => none) "selectMaxChunkSize" selectMaxChunkSize)
    "parallelEventProcessing" parallelEventProcessing) "retryAttempts" retryAttempts
  cleanUndefined (spread named config)

def times (factor : Rat) : Number → Number
  | .finite value => .finite (value * factor)
  | other => other

/-- `left > right`. -/
def exceeds (left right : Number) : Bool := left ≠ .nan && right ≠ .nan && !right.ge left

def isString : Value → Bool
  | .str _ => true
  | _ => false

def isNumber : Value → Bool
  | .num _ => true
  | _ => false

def isArrayOf (fits : Value → Bool) : Value → Bool
  | .arr items => items.all fits
  | _ => false

def isPriority : Value → Bool
  | .str text => (Priorities.ofString text).isSome
  | _ => false

def EventConfig.key (event : EventConfig) : String × String × String := (event.nameSpace,event.type,event.subType)

def Section.settings : Section → Option Settings
  | .off => none
  | .on settings _ => some settings

def Settings.isPeriodic (settings : Settings) : Bool :=
  (read settings.options "interval").truthy || (read settings.options "cron").truthy

/-- `value.outbox ?? value.queued`. -/
def Required.config (required : Required) : Option Section := required.outbox.or required.queued

section
variable (env : Environment)

def basicEventTransformation (event : EventConfig) : EventConfig :=
  let options := orDefault event.options "load" DEFAULT_LOAD
  let options := orDefault options "priority" DEFAULT_PRIORITY
  let options := orDefault options "increasePriorityOverTime" DEFAULT_INCREASE_PRIORITY
  let options := orDefault options "keepAliveInterval" DEFAULT_KEEP_ALIVE_INTERVAL
  let options := assign options "keepAliveMaxInProgressTime"
    (.num (times DEFAULT_MAX_FACTOR_STUCK_2_KEEP_ALIVE_INTERVAL (env.numberOf (read options "keepAliveInterval"))))
  let options := orDefault options "checkForNextChunk" DEFAULT_CHECK_FOR_NEXT_CHUNK
  {event with options := options}

/-- The checks of `#validateAdHocEvents` and `#basicEventValidation` in their order, each with its error. -/
def checks (event : EventConfig) : List (Bool × EventQueueError) :=
  let timeBucket := read event.options "timeBucket"
  let appNames := read event.options "appNames"
  let appInstances := read event.options "appInstances"
  let priority := read event.options "priority"
  let load := read event.options "load"
  [(env.isMultiTenancy && (read event.options "multiInstanceProcessing").truthy,
      .multiInstanceProcessingNotAllowed event.type event.subType),
    (timeBucket.truthy && !env.parsesCron timeBucket,.cantParseCronExpression event.type event.subType timeBucket),
    (!(read event.options "impl").truthy,.missingImpl event.type event.subType),
    (event.type = "",.missingType event),
    (event.subType = "",.missingSubType event),
    (appNames.truthy && !isArrayOf isString appNames,.appNamesFormat event.type event.subType appNames),
    (appInstances.truthy && !isArrayOf isNumber appInstances,.appInstancesFormat event.type event.subType appInstances),
    (!isPriority priority,.priorityNotAllowed priority "initEvent"),
    (exceeds (env.numberOf load) env.instanceLoadLimit,.loadHigherThanLimit load "initEvent")]

def validateAdHocEvents (event : EventConfig) : Except EventQueueError EventConfig :=
  match (checks env event).find? Prod.fst with
  | some check => .error check.2
  | none => .ok {event with options := orDefault event.options "inheritTraceContext" DEFAULT_INHERIT_TRACE_CONTEXT}

def basicEventTransformationAfterValidate (event : EventConfig) : EventConfig :=
  let options := orDefault event.options "propagateHeaders" (.arr [])
  let options := orDefault options "propagateContextProperties" (.arr [])
  let options := orDefault options "retryFailedAfter" DEFAULT_RETRY_AFTER
  let options := orDefault options "retryOpenAfter" DEFAULT_RETRY_AFTER
  {event with options := options}

def finish (event : EventConfig) : Except EventQueueError EventConfig :=
  (validateAdHocEvents env (basicEventTransformation env event)).map basicEventTransformationAfterValidate

def sectionOf (serviceName : String) : Option Section := (env.requires.get? serviceName).bind Required.config

/-- `config.events?.[key]`. -/
def configured (serviceName key : String) : Option Settings :=
  match sectionOf env serviceName with
  | some (.on _ events) => events.get? key
  | _ => none

/-- `Object.assign` over the objects among the arguments. -/
def assignAll (sources : List (Option Settings)) : Settings :=
  sources.reduceOption.foldl (fun result source =>
    ⟨source.nameSpace.or result.nameSpace,spread result.options source.options⟩) ⟨none,fun _ => none⟩

def getBasicCapOutboxEventConfig (serviceName : String) : Settings :=
  let required := env.requires.get? serviceName
  assignAll [env.outbox,env.queue,required.bind (fun required => required.outbox.bind Section.settings),
    required.bind (fun required => required.queued.bind Section.settings)]

def getCdsOutboxEventSpecificConfig (serviceName action : String) : Option Settings :=
  ((configured env serviceName action).or (
    match split '/' action with
    | withoutSaga::sagaSuffix::_ =>
      if sagaSuffix ∈ [SAGA_FAILED,SAGA_SUCCESS,SAGA_DONE] then configured env serviceName withoutSaga else none
    | _ => none)).map (fun settings =>
      {settings with options := mixCAPPropertyNamesWithEventQueueNames settings.options})

def baseEvent (serviceName : String) (config : Settings) : EventConfig :=
  let kind := coalesce (read config.options "kind") (.str "persistent-queue")
  let implied := assign (assign (fun _ => none) "impl" (.str "./outbox/EventQueueGenericOutboxHandler")) "kind" kind
  let mixed := spread implied (mixCAPPropertyNamesWithEventQueueNames config.options)
  let options := sanitizeParamsAdHocEvent (spread mixed config.options)
  let options := orDefault options "retryAttempts" CAP_MAX_ATTEMPTS_DEFAULT
  ⟨config.nameSpace.getD env.nameSpace,CAP_EVENT_TYPE,serviceName,assign options "internalEvent" (.bool true)⟩

def addCAPOutboxEventBase (serviceName : String) (config : Settings) : Except EventQueueError EventConfig :=
  finish env (baseEvent env serviceName config)

/-- Settings merged over the base configuration. -/
def merged (baseServiceConfig : EventConfig) (subType : String) (settings : Option Settings) : EventConfig :=
  let specific := (settings.map Settings.options).getD (fun _ => none)
  {baseServiceConfig with
    nameSpace := (settings.bind Settings.nameSpace).getD baseServiceConfig.nameSpace
    subType := subType
    options := assign (sanitizeParamsAdHocEvent (spread baseServiceConfig.options specific)) "internalEvent" (.bool true)}

def addCAPOutboxEventSpecificAction (baseServiceConfig : EventConfig) (serviceName actionName : String) :
    Except EventQueueError EventConfig :=
  finish env (merged baseServiceConfig (join "." serviceName actionName)
    (getCdsOutboxEventSpecificConfig env serviceName actionName))

/-- One saga suffix of an action: with a generic key for the suffix the action itself is added again. -/
def registerSaga (serviceName fnName : String) (events : Dict Settings) (srvConfig specificEventConfig : EventConfig)
    (adHoc : List EventConfig) (sagaSuffix : String) : Except EventQueueError (List EventConfig) :=
  if (events.get? sagaSuffix).isSome then
    (addCAPOutboxEventSpecificAction env srvConfig serviceName fnName).map (Keyed.put EventConfig.key adHoc)
  else
    let sagaConfig := {specificEventConfig with subType := join "/" specificEventConfig.subType sagaSuffix}
    pure (Keyed.put EventConfig.key adHoc sagaConfig)

def registerFn (serviceName : String) (events : Dict Settings) (srvConfig : EventConfig) (adHoc : List EventConfig)
    (fn : String × Settings) : Except EventQueueError (List EventConfig) :=
  if fn.2.isPeriodic then pure adHoc
  else do
    let specificEventConfig ← addCAPOutboxEventSpecificAction env srvConfig serviceName fn.1
    [SAGA_SUCCESS,SAGA_DONE,SAGA_FAILED].foldlM (registerSaga env serviceName fn.1 events srvConfig specificEventConfig)
      (Keyed.put EventConfig.key adHoc specificEventConfig)

def registerService (adHoc : List EventConfig) (service : String × Required) :
    Except EventQueueError (List EventConfig) :=
  match service.2.config with
  | some (.on _ events) => do
    let basicServiceConfig := getBasicCapOutboxEventConfig env service.1
    let srvConfig ← addCAPOutboxEventBase env service.1 basicServiceConfig
    events.entries.foldlM (registerFn env service.1 events srvConfig) (Keyed.put EventConfig.key adHoc srvConfig)
  | _ => pure adHoc

def cdsQueueEventsFromEnv : Except EventQueueError (List EventConfig) :=
  env.requires.entries.foldlM (registerService env) []

/-- `set fileContent` for one event. -/
def addEvent (eventMap : List EventConfig) (event : EventConfig) : Except EventQueueError (List EventConfig) :=
  let sanitized := {event with options := sanitizeParamsAdHocEvent event.options}
  if (Keyed.get? EventConfig.key eventMap event.key).isSome then
    .error (.duplicateEventRegistration event.type event.subType)
  else (finish env sanitized).map (Keyed.put EventConfig.key eventMap)

def eventMapFromEnv : Except EventQueueError (List EventConfig) := do
  let adHoc ← cdsQueueEventsFromEnv env
  adHoc.foldlM (addEvent env) []

def getEventConfig (eventMap : List EventConfig) (type subType nameSpace : String) : Option EventConfig :=
  Keyed.get? EventConfig.key eventMap (nameSpace,type,subType)

def findBaseCAPServiceWithoutNamespace (eventMap : List EventConfig) (serviceName : String) : Option EventConfig :=
  eventMap.find? (fun event => event.type = CAP_EVENT_TYPE && event.subType = serviceName)

/-- The subtype `outboxed.handle` chooses. -/
def chosenSubType (serviceName event : String) : String :=
  if (getCdsOutboxEventSpecificConfig env serviceName event).isSome then join "." serviceName event else serviceName

end

theorem read_assign (options : Options) (name other : String) (value : Value) :
    read (assign options name value) other = if other = name then value else read options other := by
  unfold read assign
  split
  · rfl
  · rfl

theorem read_orDefault (options : Options) (name other : String) (value : Value) :
    read (orDefault options name value) other =
      if other = name then coalesce (read options name) value else read options other :=
  read_assign options name other _

theorem nullish_coalesce {left right : Value} (given : nullish right = false) : nullish (coalesce left right) = false := by
  unfold coalesce
  split
  · exact given
  · rename_i present
    simpa using present

theorem assign_read {options : Options} {name : String} {value : Value} (own : options name = some value) :
    assign options name value = options := by
  funext other
  unfold assign
  split
  · rename_i same
    rw [same,own]
  · rfl

theorem orDefault_given {options : Options} {name : String} {value : Value}
    (given : nullish (read options name) = false) : orDefault options name value = options := by
  apply assign_read
  rw [coalesce,if_neg (by simp [given])]
  cases own : options name with
  | none => simp [read,own,nullish] at given
  | some value => simp [read,own]

/-- The options that a completed event always has. -/
def defaulted : List String :=
  ["load","priority","increasePriorityOverTime","keepAliveInterval","checkForNextChunk","inheritTraceContext",
    "propagateHeaders","propagateContextProperties","retryFailedAfter","retryOpenAfter"]

/-- Options that sanitizing and completing leave as they are. -/
structure Complete (env : Environment) (options : Options) : Prop where
  allowed : sanitizeParamsAdHocEvent options = options
  given : ∀ name ∈ defaulted, nullish (read options name) = false
  keepAlive : options "keepAliveMaxInProgressTime" = some
    (.num (times DEFAULT_MAX_FACTOR_STUCK_2_KEEP_ALIVE_INTERVAL (env.numberOf (read options "keepAliveInterval"))))

/-- What `finish` makes of a valid event. -/
def completed (env : Environment) (event : EventConfig) : EventConfig :=
  let transformed := basicEventTransformation env event
  let options := orDefault transformed.options "inheritTraceContext" DEFAULT_INHERIT_TRACE_CONTEXT
  basicEventTransformationAfterValidate {transformed with options := options}

def Valid (env : Environment) (event : EventConfig) : Prop :=
  ∀ check ∈ checks env (basicEventTransformation env event), check.1 = false

theorem finish_valid {env : Environment} {event : EventConfig} (valid : Valid env event) :
    finish env event = .ok (completed env event) := by
  have passed : (checks env (basicEventTransformation env event)).find? Prod.fst = none :=
    List.find?_eq_none.mpr (fun check member => by simpa using valid check member)
  simp only [finish,validateAdHocEvents,passed]
  rfl

theorem finish_invalid {env : Environment} {event : EventConfig} (invalid : ¬Valid env event) :
    ∃ error, finish env event = .error error := by
  cases failed : (checks env (basicEventTransformation env event)).find? Prod.fst with
  | none => exact absurd (fun check member => by simpa using List.find?_eq_none.mp failed check member) invalid
  | some check => exact ⟨check.2,by simp only [finish,validateAdHocEvents,failed]; rfl⟩

theorem sanitize_idem (options : Options) :
    sanitizeParamsAdHocEvent (sanitizeParamsAdHocEvent options) = sanitizeParamsAdHocEvent options := by
  funext name
  simp only [sanitizeParamsAdHocEvent]
  split
  · rfl
  · rfl

theorem sanitize_assign {options : Options} {name : String} (listed : name ∈ ALLOWED_EVENT_OPTIONS_AD_HOC)
    (value : Value) (allowed : sanitizeParamsAdHocEvent options = options) :
    sanitizeParamsAdHocEvent (assign options name value) = assign options name value := by
  funext other
  have own := congrFun allowed other
  simp only [sanitizeParamsAdHocEvent,assign] at own ⊢
  by_cases same : other = name
  · simp [same,listed]
  · simpa [same] using own

theorem sanitize_orDefault {options : Options} {name : String} (listed : name ∈ ALLOWED_EVENT_OPTIONS_AD_HOC)
    (value : Value) (allowed : sanitizeParamsAdHocEvent options = options) :
    sanitizeParamsAdHocEvent (orDefault options name value) = orDefault options name value :=
  sanitize_assign listed _ allowed

section
variable {env : Environment} {event : EventConfig}

theorem complete_completed (allowed : sanitizeParamsAdHocEvent event.options = event.options) :
    Complete env (completed env event).options := by
  refine ⟨?_,?_,?_⟩
  · simp only [completed,basicEventTransformation,basicEventTransformationAfterValidate]
    repeat' first
      | apply sanitize_orDefault
      | apply sanitize_assign
      | exact allowed
      | decide
  · intro name listed
    simp only [defaulted,List.mem_cons,List.not_mem_nil,or_false] at listed
    simp only [completed,basicEventTransformation,basicEventTransformationAfterValidate,read_orDefault,read_assign]
    rcases listed with rfl | rfl | rfl | rfl | rfl | rfl | rfl | rfl | rfl | rfl
    all_goals
      simp only [String.reduceEq,if_true,if_false]
      exact nullish_coalesce rfl
  · have own : (completed env event).options "keepAliveMaxInProgressTime" = some
        (.num (times DEFAULT_MAX_FACTOR_STUCK_2_KEEP_ALIVE_INTERVAL
          (env.numberOf (coalesce (read event.options "keepAliveInterval") DEFAULT_KEEP_ALIVE_INTERVAL)))) := by
      simp [completed,basicEventTransformation,basicEventTransformationAfterValidate,orDefault,read,assign]
    rw [own]
    simp [completed,basicEventTransformation,basicEventTransformationAfterValidate,read_orDefault,read_assign]

theorem orDefault_complete (complete : Complete env event.options) {name : String} (listed : name ∈ defaulted)
    (value : Value) : orDefault event.options name value = event.options :=
  orDefault_given (complete.given name listed)

theorem transformed_complete (complete : Complete env event.options) : basicEventTransformation env event = event := by
  simp only [basicEventTransformation]
  rw [orDefault_complete complete (by decide),orDefault_complete complete (by decide),
    orDefault_complete complete (by decide),orDefault_complete complete (by decide),
    assign_read complete.keepAlive,orDefault_complete complete (by decide)]

/-- Completing twice changes nothing. -/
theorem completed_complete (complete : Complete env event.options) : completed env event = event := by
  simp only [completed,basicEventTransformationAfterValidate,transformed_complete complete]
  rw [orDefault_complete complete (by decide),orDefault_complete complete (by decide),
    orDefault_complete complete (by decide),orDefault_complete complete (by decide),
    orDefault_complete complete (by decide)]

/-- The checks do not look at the defaults set after them, nor at the subtype beyond its being there. -/
theorem valid_completed (allowed : sanitizeParamsAdHocEvent event.options = event.options) (valid : Valid env event)
    {subType : String} (named : subType ≠ "") : Valid env {completed env event with subType := subType} := by
  have complete : Complete env ({completed env event with subType := subType} : EventConfig).options :=
    complete_completed allowed
  unfold Valid at valid ⊢
  rw [transformed_complete complete]
  simp only [checks,List.forall_mem_cons] at valid ⊢
  simp only [completed,basicEventTransformation,basicEventTransformationAfterValidate,read_orDefault,read_assign,
    String.reduceEq,if_true,if_false] at valid ⊢
  obtain ⟨multiInstance,timeBucket,impl,type,_,appNames,appInstances,priority,load,rest⟩ := valid
  exact ⟨multiInstance,timeBucket,impl,type,by simpa using named,appNames,appInstances,priority,load,rest⟩

end

/-- The completed base configuration of a service. -/
def srvConfigOf (env : Environment) (serviceName : String) : EventConfig :=
  completed env (baseEvent env serviceName (getBasicCapOutboxEventConfig env serviceName))

def specificEvent (env : Environment) (serviceName fnName : String) : EventConfig :=
  merged (srvConfigOf env serviceName) (join "." serviceName fnName)
    (getCdsOutboxEventSpecificConfig env serviceName fnName)

/-- The configuration of an action of a service. -/
def configOf (env : Environment) (serviceName fnName : String) : EventConfig :=
  completed env (specificEvent env serviceName fnName)

def EventConfig.rename (config : EventConfig) (subType : String) : EventConfig := {config with subType := subType}

/-- What one key of a section puts into the map. -/
def fnLog (env : Environment) (serviceName : String) (events : Dict Settings) (fn : String × Settings) :
    List EventConfig :=
  let own := configOf env serviceName fn.1
  if fn.2.isPeriodic then []
  else own::[SAGA_SUCCESS,SAGA_DONE,SAGA_FAILED].map (fun sagaSuffix =>
    if (events.get? sagaSuffix).isSome then own else own.rename (join "/" own.subType sagaSuffix))

def serviceLog (env : Environment) (service : String × Required) : List EventConfig :=
  match service.2.config with
  | some (.on _ events) => srvConfigOf env service.1::events.entries.flatMap (fnLog env service.1 events)
  | _ => []

def ValidService (env : Environment) (service : String × Required) : Prop :=
  match service.2.config with
  | some (.on _ events) => Valid env (baseEvent env service.1 (getBasicCapOutboxEventConfig env service.1)) ∧
      ∀ fn ∈ events.entries, fn.2.isPeriodic = false → Valid env (specificEvent env service.1 fn.1)
  | _ => True

def registrations (env : Environment) : List EventConfig := env.requires.entries.flatMap (serviceLog env)

section
variable {env : Environment}

theorem addSpecific_valid {serviceName fnName : String} (valid : Valid env (specificEvent env serviceName fnName)) :
    addCAPOutboxEventSpecificAction env (srvConfigOf env serviceName) serviceName fnName =
      .ok (configOf env serviceName fnName) := finish_valid valid

theorem logged_registerSaga {serviceName fnName : String} (events : Dict Settings)
    (valid : Valid env (specificEvent env serviceName fnName)) (sagaSuffix : String) :
    Keyed.Logged EventConfig.key
      (fun adHoc => registerSaga env serviceName fnName events (srvConfigOf env serviceName)
        (configOf env serviceName fnName) adHoc sagaSuffix) True
      [if (events.get? sagaSuffix).isSome then configOf env serviceName fnName
        else (configOf env serviceName fnName).rename (join "/" (configOf env serviceName fnName).subType sagaSuffix)] := by
  unfold registerSaga
  split
  · simp only [addSpecific_valid valid]
    exact Keyed.logged_put EventConfig.key _
  · exact Keyed.logged_put EventConfig.key _

theorem logged_registerFn (serviceName : String) (events : Dict Settings) (fn : String × Settings) :
    Keyed.Logged EventConfig.key (fun adHoc => registerFn env serviceName events (srvConfigOf env serviceName) adHoc fn)
      (fn.2.isPeriodic = false → Valid env (specificEvent env serviceName fn.1)) (fnLog env serviceName events fn) := by
  by_cases periodic : fn.2.isPeriodic = true
  · simp only [registerFn,fnLog,periodic,if_true]
    exact fun map => ⟨fun _ => rfl,fun invalid => absurd (fun given => Bool.noConfusion given) invalid⟩
  · simp only [registerFn,fnLog,periodic]
    intro map
    by_cases valid : Valid env (specificEvent env serviceName fn.1)
    · have sagas := Keyed.logged_foldlM EventConfig.key [SAGA_SUCCESS,SAGA_DONE,SAGA_FAILED]
        (fun sagaSuffix _ => logged_registerSaga events valid sagaSuffix)
      simp only [addSpecific_valid valid]
      refine ⟨fun _ => ?_,fun invalid => absurd (fun _ => valid) invalid⟩
      exact (sagas _).1 (fun _ _ => trivial)
    · obtain ⟨error,thrown⟩ := finish_invalid valid
      refine ⟨fun given => absurd (given (by simp)) valid,fun _ => ⟨error,?_⟩⟩
      change (addCAPOutboxEventSpecificAction env (srvConfigOf env serviceName) serviceName fn.1 >>= _) = _
      rw [show addCAPOutboxEventSpecificAction env (srvConfigOf env serviceName) serviceName fn.1 = .error error from thrown]
      rfl

theorem logged_registerService (service : String × Required) :
    Keyed.Logged EventConfig.key (fun adHoc => registerService env adHoc service) (ValidService env service)
      (serviceLog env service) := by
  unfold registerService ValidService serviceLog
  split
  · rename_i settings events config
    intro map
    by_cases valid : Valid env (baseEvent env service.1 (getBasicCapOutboxEventConfig env service.1))
    · have added : addCAPOutboxEventBase env service.1 (getBasicCapOutboxEventConfig env service.1) =
          .ok (srvConfigOf env service.1) := finish_valid valid
      have keys := Keyed.logged_foldlM EventConfig.key events.entries
        (fun fn _ => @logged_registerFn env service.1 events fn)
      simp only [added,List.foldl_cons]
      exact ⟨fun given => (keys _).1 given.2,fun invalid => (keys _).2 (fun every => invalid ⟨valid,every⟩)⟩
    · obtain ⟨error,thrown⟩ := finish_invalid valid
      have added : addCAPOutboxEventBase env service.1 (getBasicCapOutboxEventConfig env service.1) = .error error :=
        thrown
      simp only [added]
      exact ⟨fun given => absurd given.1 valid,fun _ => ⟨error,rfl⟩⟩
  · exact Keyed.logged_pure EventConfig.key

theorem logged_cdsQueueEventsFromEnv :
    Keyed.Logged EventConfig.key (fun adHoc => env.requires.entries.foldlM (registerService env) adHoc)
      (∀ service ∈ env.requires.entries, ValidService env service) (registrations env) :=
  Keyed.logged_foldlM EventConfig.key env.requires.entries (fun service _ => logged_registerService service)

theorem join_ne_empty {separator left right : String} (visible : separator ≠ "") : join separator left right ≠ "" := by
  intro empty
  have chars := congrArg String.toList empty
  simp only [join,String.toList_append,String.toList_empty,List.append_eq_nil_iff] at chars
  exact visible (String.toList_eq_nil_iff.mp chars.1.2)

theorem base_allowed (serviceName : String) (config : Settings) :
    sanitizeParamsAdHocEvent (baseEvent env serviceName config).options = (baseEvent env serviceName config).options :=
  sanitize_assign (by decide) _ (sanitize_orDefault (by decide) _ (sanitize_idem _))

theorem specific_allowed (serviceName fnName : String) :
    sanitizeParamsAdHocEvent (specificEvent env serviceName fnName).options =
      (specificEvent env serviceName fnName).options := sanitize_assign (by decide) _ (sanitize_idem _)

/-- What `set fileContent` takes over unchanged. -/
structure Settled (env : Environment) (config : EventConfig) : Prop where
  complete : Complete env config.options
  valid : Valid env config
  type : config.type = CAP_EVENT_TYPE

theorem settled_srvConfigOf {serviceName : String}
    (valid : Valid env (baseEvent env serviceName (getBasicCapOutboxEventConfig env serviceName))) :
    Settled env (srvConfigOf env serviceName) := by
  have named : serviceName ≠ "" := by
    have check := valid (serviceName = "",.missingSubType _) (by
      simp only [checks,List.mem_cons]
      exact Or.inr (Or.inr (Or.inr (Or.inr (Or.inl rfl)))))
    simpa using check
  exact ⟨complete_completed (base_allowed _ _),valid_completed (base_allowed _ _) valid named,rfl⟩

theorem settled_configOf {serviceName fnName subType : String} (valid : Valid env (specificEvent env serviceName fnName))
    (named : subType ≠ "") : Settled env ((configOf env serviceName fnName).rename subType) :=
  ⟨complete_completed (specific_allowed _ _),valid_completed (specific_allowed _ _) valid named,rfl⟩

theorem subType_configOf (serviceName fnName : String) :
    (configOf env serviceName fnName).subType = join "." serviceName fnName := rfl

theorem mem_fnLog {serviceName : String} {events : Dict Settings} {fn : String × Settings} {config : EventConfig} :
    config ∈ fnLog env serviceName events fn ↔ fn.2.isPeriodic = false ∧
      (config = configOf env serviceName fn.1 ∨ ∃ sagaSuffix ∈ [SAGA_SUCCESS,SAGA_DONE,SAGA_FAILED],
        events.get? sagaSuffix = none ∧
          config = (configOf env serviceName fn.1).rename (join "/" (join "." serviceName fn.1) sagaSuffix)) := by
  unfold fnLog
  by_cases periodic : fn.2.isPeriodic = true
  · simp [periodic]
  · simp only [periodic,Bool.false_eq_true,if_false,List.mem_cons,List.mem_map,subType_configOf,true_and]
    constructor
    · rintro (own | ⟨sagaSuffix,listed,rfl⟩)
      · exact Or.inl own
      · split
        · exact Or.inl rfl
        · rename_i absent
          exact Or.inr ⟨sagaSuffix,listed,by simpa using absent,rfl⟩
    · rintro (own | ⟨sagaSuffix,listed,absent,rfl⟩)
      · exact Or.inl own
      · exact Or.inr ⟨sagaSuffix,listed,by simp [absent]⟩

theorem settled_registrations (valid : ∀ service ∈ env.requires.entries, ValidService env service) :
    ∀ config ∈ registrations env, Settled env config := by
  intro config member
  obtain ⟨service,listed,logged⟩ := List.mem_flatMap.mp member
  have given := valid service listed
  unfold serviceLog at logged
  unfold ValidService at given
  split at logged
  · rename_i settings events found
    simp only [found] at given
    rcases List.mem_cons.mp logged with rfl | own
    · exact settled_srvConfigOf given.1
    · obtain ⟨fn,key,put⟩ := List.mem_flatMap.mp own
      obtain ⟨adHoc,rfl | ⟨sagaSuffix,_,_,rfl⟩⟩ := mem_fnLog.mp put
      · exact settled_configOf (given.2 fn key adHoc) (join_ne_empty (by decide))
      · exact settled_configOf (given.2 fn key adHoc) (join_ne_empty (by decide))
  · cases logged

theorem addEvent_settled {eventMap : List EventConfig} {config : EventConfig} (settled : Settled env config)
    (fresh : ∀ other ∈ eventMap, other.key ≠ config.key) :
    addEvent env eventMap config = .ok (eventMap ++ [config]) := by
  have absent : Keyed.get? EventConfig.key eventMap config.key = none :=
    List.find?_eq_none.mpr (fun other member => by simpa using fresh other member)
  have finished : finish env config = .ok config := by
    rw [finish_valid settled.valid,completed_complete settled.complete]
  simp only [addEvent,absent,settled.complete.allowed]
  change Except.map _ (finish env config) = _
  rw [finished]
  exact congrArg Except.ok (Keyed.put_absent EventConfig.key fresh)

theorem addEvents_settled {eventMap events : List EventConfig}
    (distinct : ((eventMap ++ events).map EventConfig.key).Nodup) (settled : ∀ config ∈ events, Settled env config) :
    events.foldlM (addEvent env) eventMap = .ok (eventMap ++ events) := by
  induction events generalizing eventMap with
  | nil => simp [pure,Except.pure]
  | cons config rest ih =>
    have fresh : ∀ other ∈ eventMap, other.key ≠ config.key := by
      intro other member same
      rw [List.map_append,List.nodup_append] at distinct
      exact distinct.2.2 _ (List.mem_map_of_mem member) _ (List.mem_map_of_mem List.mem_cons_self) same
    rw [List.foldlM_cons,addEvent_settled (settled config List.mem_cons_self) fresh]
    change rest.foldlM (addEvent env) (eventMap ++ [config]) = _
    rw [ih (by simpa using distinct) (fun other member => settled other (List.mem_cons_of_mem config member))]
    simp

/-- The map is built if every event listed is valid, and holds what the sections put into it in their order. -/
theorem eventMapFromEnv_iff {eventMap : List EventConfig} : eventMapFromEnv env = .ok eventMap ↔
    (∀ service ∈ env.requires.entries, ValidService env service) ∧
      eventMap = Keyed.putAll EventConfig.key (registrations env) := by
  have built : ∀ valid : ∀ service ∈ env.requires.entries, ValidService env service,
      eventMapFromEnv env = .ok (Keyed.putAll EventConfig.key (registrations env)) := by
    intro valid
    have adHoc : cdsQueueEventsFromEnv env = .ok (Keyed.putAll EventConfig.key (registrations env)) :=
      (logged_cdsQueueEventsFromEnv []).1 valid
    have kept : ∀ config ∈ Keyed.putAll EventConfig.key (registrations env), Settled env config :=
      fun config member => settled_registrations valid config (Keyed.mem_putAll EventConfig.key member)
    unfold eventMapFromEnv
    rw [adHoc]
    exact addEvents_settled (Keyed.nodup_putAll EventConfig.key _) kept
  constructor
  · intro done
    by_cases valid : ∀ service ∈ env.requires.entries, ValidService env service
    · rw [built valid] at done
      exact ⟨valid,(Except.ok.inj done).symm⟩
    · obtain ⟨error,thrown⟩ := (@logged_cdsQueueEventsFromEnv env []).2 valid
      have failed : cdsQueueEventsFromEnv env = .error error := thrown
      rw [eventMapFromEnv,failed] at done
      cases done
  · rintro ⟨valid,rfl⟩
    exact built valid

end

/-- A configuration without its options. -/
def EventConfig.entry (config : EventConfig) : SubType.Entry := ⟨config.nameSpace,config.type,config.subType,false⟩

def Settings.names (settings : Settings) : SubType.FnConfig :=
  if settings.isPeriodic then .periodic settings.nameSpace else .adHoc settings.nameSpace

def Required.names (env : Environment) (required : Required) : SubType.Required :=
  match required.config with
  | some (.on settings events) =>
    let basic := assignAll [env.outbox,env.queue,required.outbox.bind Section.settings,required.queued.bind Section.settings]
    .queued ⟨basic.nameSpace,settings.nameSpace,events.map Settings.names⟩
  | _ => .unqueued

/-- The environment with the names and namespaces of its sections alone. -/
def Environment.names (env : Environment) : SubType.Environment :=
  ⟨env.requires.map (Required.names env),env.nameSpace,[],[]⟩

section
variable {env : Environment}

theorem setEntry_put (map : List EventConfig) (config : EventConfig) :
    SubType.setEntry (map.map EventConfig.entry) config.entry = (Keyed.put EventConfig.key map config).map EventConfig.entry := by
  have same : ∀ other : EventConfig, config.entry.sameKey other.entry = decide (other.key = config.key) := by
    intro other
    rw [SubType.Entry.sameKey,decide_eq_decide]
    simp only [EventConfig.entry,EventConfig.key,Prod.mk.injEq]
    constructor
    · intro equal
      exact ⟨equal.1.symm,equal.2.1.symm,equal.2.2.symm⟩
    · intro equal
      exact ⟨equal.1.symm,equal.2.1.symm,equal.2.2.symm⟩
  unfold SubType.setEntry SubType.setWhere Keyed.put
  simp only [List.any_map,Function.comp_def,same,List.map_map]
  split
  · rw [List.map_map]
    apply List.map_congr_left
    intro other _
    by_cases own : other.key = config.key
    · simp [own]
    · simp [own]
  · simp

theorem names_get {queue : SubType.Queue} {events : Dict Settings} (keys : queue.events = events.map Settings.names)
    (key : String) : queue.configured key = (events.get? key).map Settings.names := by
  rw [SubType.Queue.configured,keys,Dict.get?_map]
  cases events.get? key with
  | none => rfl
  | some settings =>
    have truthy : settings.names.truthy = true := by
      unfold Settings.names
      split
      · rfl
      · rfl
    simp [truthy]

theorem names_configured (serviceName key : String) :
    (SubType.queueOf env.names serviceName).bind (fun queue => queue.configured key) =
      (configured env serviceName key).map Settings.names := by
  unfold SubType.queueOf configured sectionOf Environment.names
  simp only [Dict.get?_map]
  cases found : env.requires.get? serviceName with
  | none => rfl
  | some required =>
    simp only [Option.map_some,Option.bind_some,Required.names]
    cases config : required.config with
    | none => rfl
    | some own =>
      cases own with
      | off => rfl
      | on settings events =>
        simp only [SubType.Required.queue,Option.bind_some]
        exact names_get rfl key

theorem names_specific (serviceName action : String) :
    (SubType.getCdsOutboxEventSpecificConfig env.names serviceName action).bind SubType.FnConfig.nameSpace =
      (getCdsOutboxEventSpecificConfig env serviceName action).bind Settings.nameSpace := by
  have names : ∀ found : Option Settings, (found.map Settings.names).bind SubType.FnConfig.nameSpace =
      (found.map (fun settings =>
        {settings with options := mixCAPPropertyNamesWithEventQueueNames settings.options})).bind Settings.nameSpace := by
    intro found
    cases found with
    | none => rfl
    | some settings =>
      simp only [Option.map_some,Option.bind_some,Settings.names]
      split
      · rfl
      · rfl
  have found := @names_configured env serviceName
  unfold SubType.getCdsOutboxEventSpecificConfig getCdsOutboxEventSpecificConfig
  rw [← names]
  congr 1
  cases queue : SubType.queueOf env.names serviceName with
  | none =>
    have absent : ∀ key, configured env serviceName key = none := by
      intro key
      have own := found key
      rw [queue] at own
      simpa using own.symm
    simp only [absent,Option.bind_none]
    cases SubType.split '/' action with
    | nil => rfl
    | cons withoutSaga rest => cases rest with
      | nil => rfl
      | cons sagaSuffix more => simp
  | some queue' =>
    have own : ∀ key, queue'.configured key = (configured env serviceName key).map Settings.names := by
      intro key
      have same := found key
      rwa [queue] at same
    simp only [Option.bind_some,own,Option.map_or]
    cases SubType.split '/' action with
    | nil => rfl
    | cons withoutSaga rest => cases rest with
      | nil => rfl
      | cons sagaSuffix more =>
        simp only
        split
        · rfl
        · rfl

section
variable {serviceName : String} {required : Required} {settings : Settings} {events : Dict Settings}

theorem entry_configOf (fnName : String) :
    SubType.addCAPOutboxEventSpecificAction env.names (srvConfigOf env serviceName).entry serviceName fnName =
      (configOf env serviceName fnName).entry := by
  unfold SubType.addCAPOutboxEventSpecificAction
  simp only [names_specific]
  rfl

theorem entry_registerSaga {queue : SubType.Queue} (keys : queue.events = events.map Settings.names) (fnName : String)
    (map : List EventConfig) (sagaSuffix : String) :
    SubType.registerSaga env.names queue serviceName fnName (srvConfigOf env serviceName).entry
        (map.map EventConfig.entry) sagaSuffix =
      (Keyed.put EventConfig.key map (if (events.get? sagaSuffix).isSome then configOf env serviceName fnName
        else (configOf env serviceName fnName).rename
          (join "/" (configOf env serviceName fnName).subType sagaSuffix))).map EventConfig.entry := by
  have generic : (queue.configured sagaSuffix).isSome = (events.get? sagaSuffix).isSome := by
    rw [names_get keys,Option.isSome_map]
  unfold SubType.registerSaga
  simp only [entry_configOf,generic]
  split
  · exact setEntry_put _ _
  · exact setEntry_put map ((configOf env serviceName fnName).rename _)

theorem entry_registerFn {queue : SubType.Queue} (keys : queue.events = events.map Settings.names)
    {result : SubType.CapEvents} {map : List EventConfig} (same : result.adHoc = map.map EventConfig.entry)
    (fn : String × Settings) :
    (SubType.registerFn env.names queue serviceName (srvConfigOf env serviceName).entry result (fn.1,fn.2.names)).adHoc =
      ((fnLog env serviceName events fn).foldl (Keyed.put EventConfig.key) map).map EventConfig.entry := by
  have periodic : fn.2.names.isPeriodic = fn.2.isPeriodic := by
    unfold Settings.names
    split
    · rename_i given
      exact given.symm
    · rename_i given
      exact (Bool.eq_false_iff.mpr given).symm
  unfold SubType.registerFn fnLog
  simp only [periodic]
  split
  · exact same
  · simp only [List.foldl_cons,List.foldl_nil,List.map_cons,List.map_nil,entry_configOf,same,setEntry_put,
      entry_registerSaga keys]

/-- A loop that puts entries and one that puts the configurations they are of. -/
theorem entry_foldl {α β : Type} {step : SubType.CapEvents → β → SubType.CapEvents} {names : α → β}
    {log : α → List EventConfig} (items : List α)
    (each : ∀ item ∈ items, ∀ (result : SubType.CapEvents) (map : List EventConfig),
      result.adHoc = map.map EventConfig.entry →
        (step result (names item)).adHoc = ((log item).foldl (Keyed.put EventConfig.key) map).map EventConfig.entry)
    {result : SubType.CapEvents} {map : List EventConfig} (same : result.adHoc = map.map EventConfig.entry) :
    ((items.map names).foldl step result).adHoc =
      ((items.flatMap log).foldl (Keyed.put EventConfig.key) map).map EventConfig.entry := by
  induction items generalizing result map with
  | nil => exact same
  | cons item rest ih =>
    rw [List.map_cons,List.foldl_cons,List.flatMap_cons,List.foldl_append]
    exact ih (fun other inside => each other (List.mem_cons_of_mem item inside)) (each item List.mem_cons_self _ _ same)

theorem entry_registerService (found : env.requires.get? serviceName = some required) {result : SubType.CapEvents}
    {map : List EventConfig} (same : result.adHoc = map.map EventConfig.entry) :
    (SubType.registerService env.names result (serviceName,required.names env)).adHoc =
      ((serviceLog env (serviceName,required)).foldl (Keyed.put EventConfig.key) map).map EventConfig.entry := by
  unfold SubType.registerService serviceLog Required.names
  simp only
  cases config : required.config with
  | none => exact same
  | some own =>
    cases own with
    | off => exact same
    | on settings events =>
      have base : SubType.addCAPOutboxEventBase env.names serviceName
          ⟨(assignAll [env.outbox,env.queue,required.outbox.bind Section.settings,
            required.queued.bind Section.settings]).nameSpace,settings.nameSpace,events.map Settings.names⟩ =
            (srvConfigOf env serviceName).entry := by
        unfold srvConfigOf getBasicCapOutboxEventConfig
        rw [found]
        rfl
      simp only [SubType.Required.queue,base,List.foldl_cons]
      refine entry_foldl events.entries (fun fn _ result map own => ?_) ?_
      · exact entry_registerFn rfl own fn
      · simp only [same]
        exact setEntry_put _ _

end

/-- Without its options the map is the one of the names and namespaces. -/
theorem entry_eventMap {eventMap : List EventConfig} (built : eventMapFromEnv env = .ok eventMap) :
    (SubType.cdsQueueEventsFromEnv env.names).adHoc = eventMap.map EventConfig.entry := by
  obtain ⟨_,rfl⟩ := eventMapFromEnv_iff.mp built
  have empty : (⟨[],[]⟩ : SubType.CapEvents).adHoc = ([] : List EventConfig).map EventConfig.entry := rfl
  refine entry_foldl env.requires.entries (fun service member result map same => ?_) empty
  exact entry_registerService (Dict.mem_entries.mp member) same

end

end EventQueue.OutboxConfig

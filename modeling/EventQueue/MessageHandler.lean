import EventQueue.ApplicationFilter
import EventQueue.BroadcastEvent
import EventQueue.OutboxServiceName
import EventQueue.TenantIds

/-! What an instance does with a message of another one: `_messageHandlerProcessEvents` of `redis/redisSub.js` decides
whether the event is processed here, and `runEventCombinationForTenant` hands it to the worker queue. -/
namespace EventQueue.MessageHandler
open Broadcast (Message EVENT_MESSAGE_CHANNEL)
open SubType (CAP_EVENT_TYPE SUFFIX_PERIODIC)
open TenantIds (Filters isTenantIdValidCb)

structure EventConfig where
  multiInstanceProcessing : Bool
  /-- The names and instances the event is restricted to. -/
  application : ApplicationFilter.EventConfig

/-- By the key of namespace, type and subtype. -/
abbrev EventMap := String → Option EventConfig

def generateKey (nameSpace type subType : String) : String := "##".intercalate [nameSpace,type,subType]

/-- A service that is queued without an entry in the environment, with the settings from its options. -/
structure Service where
  nameSpace : Option String
  config : EventConfig

/-- What does not change while an instance runs. -/
structure Application where
  environment : SubType.Environment
  call : ApplicationFilter.Call
  /-- The patterns that are regular expressions. -/
  compile : String → List Char → Option ApplicationFilter.Matcher
  /-- `cds.connect.to`; none if it fails or the options of the service are refused. -/
  connect : String → Option Service
  nameSpace : String
  processingNamespaces : List String
  filters : Filters
  /-- In milliseconds, rounded as in the expiry of a lock. -/
  globalTxTimeout : Nat

/-- What changes: the switch of the queue, the event map, and where the regular expressions of an event stand. -/
structure Config where
  isEventQueueActive : Bool
  eventMap : EventMap
  lastIndex : String → ApplicationFilter.State

/-- Why a message is dropped, with the text that is logged. -/
inductive Refusal
  | tenantNotProcessed
  /-- Skipping processing because runner is deactivated! -/
  | deactivated
  /-- could not find CAP Service configuration to process event! -/
  | serviceNotFound
  /-- could not connect to outboxed service -/
  | notConnected
  /-- cannot find configuration for published event. Event won't be processed -/
  | notConfigured
  /-- event is not configured to be processed on this app-name -/
  | otherApplication
  /-- could not parse event information -/
  | failed
  deriving DecidableEq

def channel (nameSpace : String) : String := "##".intercalate [nameSpace,EVENT_MESSAGE_CHANNEL]

def isCapOutboxEvent (type : String) : Bool := [CAP_EVENT_TYPE,CAP_EVENT_TYPE ++ SUFFIX_PERIODIC].contains type

def messageKey (message : Message) : String := generateKey message.nameSpace message.type message.subType

section
variable (app : Application)

/-- `initEventQueueRedisSubscribe`: the channels the handler listens to. -/
def channels : List String := app.processingNamespaces.map channel

def getEventConfig (config : Config) (message : Message) : Option EventConfig := config.eventMap (messageKey message)

def addCAPServiceWithoutEnvConfig (serviceName : String) (service : Service) (config : Config) : Config :=
  let key := generateKey (service.nameSpace.getD app.nameSpace) CAP_EVENT_TYPE serviceName
  {config with eventMap := Function.update config.eventMap key (some service.config)}

/-- The configuration with the event known, or why the message is dropped. -/
def knownEvent (config : Config) (message : Message) : Except Refusal Config :=
  if (getEventConfig config message).isSome then .ok config
  else if isCapOutboxEvent message.type then
    let normalized := ServiceName.normalizeSubType app.environment message.type message.subType
    match app.connect (normalized.srvName.getD "") with
    | none => .error .notConnected
    | some service =>
      if normalized.actionName.getD "" ≠ "" then .error .serviceNotFound
      else .ok (addCAPServiceWithoutEnvConfig app message.subType service config)
  else .error .notConfigured

/-- None if there is no configuration under the normalised subtype, which throws. -/
def shouldBeProcessedInThisApplication (config : Config) (message : Message) : Option (Bool × Config) :=
  let subType := (ServiceName.normalizeSubType app.environment message.type message.subType).subType
  let key := generateKey message.nameSpace message.type subType
  (config.eventMap key).map (fun event =>
    let (result,state) := ApplicationFilter.shouldBeProcessedInThisApplication app.compile event.application
      (config.lastIndex key) app.call
    (result,{config with lastIndex := Function.update config.lastIndex key state}))

/-- The part after the configuration is known. -/
def handleKnown (config : Config) (message : Message) : Except Refusal Bool × Config :=
  match getEventConfig config message with
  | none => (.error .otherApplication,config)
  | some event =>
    match shouldBeProcessedInThisApplication app config message with
    | none => (.error .failed,config)
    | some (false,next) => (.error .otherApplication,next)
    | some (true,next) => (.ok (!event.multiInstanceProcessing),next)

/-- A message that is not dropped goes to the worker queue: as `true` if the function there takes the lock of the
message first, which `runEventCombinationForTenant` does unless many instances may process the event. -/
def messageHandlerProcessEvents (config : Config) (message : Message) : Except Refusal Bool × Config :=
  if !isTenantIdValidCb app.filters .eventProcessing message.tenantId then (.error .tenantNotProcessed,config)
  else if !config.isEventQueueActive then (.error .deactivated,config)
  else match knownEvent app config message with
    | .error refusal => (.error refusal,config)
    | .ok known => handleKnown app known message

end

section
variable {app : Application}

/-- What is configured before is configured after. -/
def Keeps (before after : Config) : Prop := ∀ key, (before.eventMap key).isSome → (after.eventMap key).isSome

theorem Keeps.refl (config : Config) : Keeps config config := fun _ found => found

theorem knownEvent_keeps {config known : Config} {message : Message} (found : knownEvent app config message = .ok known) :
    Keeps config known := by
  unfold knownEvent at found
  split at found
  · cases found
    exact Keeps.refl config
  · split at found
    · simp only at found
      split at found
      · cases found
      · split at found
        · cases found
        · cases found
          intro key before
          unfold addCAPServiceWithoutEnvConfig
          simp only [Function.update_apply]
          split
          · rfl
          · exact before
    · cases found

theorem shouldBeProcessed_keeps {config next : Config} {message : Message} {result : Bool}
    (answered : shouldBeProcessedInThisApplication app config message = some (result,next)) : next.eventMap = config.eventMap := by
  obtain ⟨event,_,same⟩ := Option.map_eq_some_iff.mp answered
  cases same
  rfl

theorem handleKnown_keeps (config : Config) (message : Message) :
    (handleKnown app config message).2.eventMap = config.eventMap := by
  unfold handleKnown
  split
  · rfl
  · split
    · rfl
    · rename_i answered
      exact shouldBeProcessed_keeps answered
    · rename_i answered
      exact shouldBeProcessed_keeps answered

theorem handler_keeps (config : Config) (message : Message) :
    Keeps config (messageHandlerProcessEvents app config message).2 := by
  unfold messageHandlerProcessEvents
  split
  · exact Keeps.refl config
  · split
    · exact Keeps.refl config
    · split
      · exact Keeps.refl config
      · rename_i known found
        intro key before
        rw [handleKnown_keeps]
        exact knownEvent_keeps found key before

theorem handleKnown_ok {config : Config} {message : Message} {exclusive : Bool}
    (run : (handleKnown app config message).1 = .ok exclusive) :
    ∃ event, getEventConfig config message = some event ∧ exclusive = !event.multiInstanceProcessing := by
  unfold handleKnown at run
  split at run
  · cases run
  · rename_i event configured
    split at run
    · cases run
    · cases run
    · cases run
      exact ⟨event,configured,rfl⟩

/-- A message that is not dropped has passed every check. -/
theorem handler_ok {config : Config} {message : Message} {exclusive : Bool}
    (run : (messageHandlerProcessEvents app config message).1 = .ok exclusive) :
    isTenantIdValidCb app.filters .eventProcessing message.tenantId = true ∧ config.isEventQueueActive = true ∧
      ∃ event, getEventConfig (messageHandlerProcessEvents app config message).2 message = some event ∧
        exclusive = !event.multiInstanceProcessing := by
  unfold messageHandlerProcessEvents at run ⊢
  split at run
  · cases run
  · rename_i tenant
    split at run
    · cases run
    · rename_i active
      split at run
      · cases run
      · rename_i known found
        rw [if_neg tenant,if_neg active]
        refine ⟨by simpa using tenant,by simpa using active,?_⟩
        rw [getEventConfig,handleKnown_keeps]
        exact handleKnown_ok run

end

end EventQueue.MessageHandler

import EventQueue.ConfigFile
import EventQueue.Lib.Transition

/-! `initialize.js`: the start of an instance, between the answers it waits for (of Redis and of the file system) and
the database that connects whenever it likes. -/
namespace EventQueue.Startup
open ConfigFile (Declared FileContent ConfigError Entry mixFileContentWithEnv)
open Js (Value)

/-- Options of `initialize` or of `cds.env.eventQueue`; what is not given is `undefined` or `null`. -/
structure Options where
  configFilePath : Option String
  events : Option (Dict (Option Declared))
  periodicEvents : Option (Dict (Option Declared))
  registerAsEventProcessor : Option Bool
  processEventsAfterPublish : Option Bool
  runInterval : Option Value
  disableRedis : Option Bool
  useAsCAPOutbox : Option Bool
  useAsCAPQueue : Option Bool
  cronTimezone : Option String
  crashOnRedisUnavailable : Option Bool
  nameSpace : Option String
  processingNamespaces : Option (List String)

def Options.none : Options := ⟨.none,.none,.none,.none,.none,.none,.none,.none,.none,.none,.none,.none,.none⟩

/-- The variables of the configuration that the start reads. -/
structure Config where
  configFilePath : Option String
  registerAsEventProcessor : Bool
  processEventsAfterPublish : Bool
  disableRedis : Bool
  useAsCAPOutbox : Bool
  crashOnRedisUnavailable : Bool
  processingNamespaces : List String
  /-- With `namespace`, `cronTimezone`, `configEvents` and `configPeriodicEvents`. -/
  environment : ConfigFile.Environment

/-- What the instance finds around it. -/
structure Host where
  env : Options
  redisIsBound : Bool
  environment : ConfigFile.Environment

inductive StartError
  | invalidInterval
  | connectionCheck
  | redisConnectionFailure
  | configFile
  | config (error : ConfigError)

inductive Stage
  | idle
  | checkingRedis
  | readingFile
  | finished
  | failed (error : StartError)

inductive Runner
  | singleTenantDb
  | multiTenancyDb
  | singleTenantRedis
  | multiTenancyRedis
  deriving DecidableEq

inductive Effect
  /-- `registerEventQueueDbHandler`. -/
  | dbHandler
  /-- `monkeyPatchCAPOutbox`. -/
  | outboxed
  | shutdownHandler
  | unsubscribeHandler
  | redisUnsubscribeHandler
  | subscription (nameSpace : String)
  /-- `_scheduleFunction`, which goes on if there are events. -/
  | runner (runner : Runner) (allEvents : List Entry)

structure State where
  initialized : Bool
  stage : Stage
  /-- From then on `cds.on("connect")` is heard. -/
  config : Option Config
  redisEnabled : Bool
  eventMap : List Entry
  /-- How often `initFinished.then(registerEventProcessors)` has still to run. -/
  waiting : Nat
  /-- `initEventQueueRedisSubscribe._initDone`. -/
  subscribed : Bool
  effects : List Effect
  -- The rest is history that no function reads back.
  /-- Connections of the database that were heard. -/
  connects : Nat

def State.initial : State := ⟨false,.idle,none,false,[],0,false,[],0⟩

/-- The content of a file as the two parsers read it. -/
structure File where
  yaml : Option FileContent
  json : Option FileContent

inductive Action
  /-- A call of `initialize`. -/
  | call (options : Options)
  | connect (service : String)
  /-- The answer of `connectionCheck`, none if it throws. -/
  | connectionCheck (reply : Option Bool)
  /-- The answer of `readFile`, none if it throws. -/
  | readFile (reply : Option File)
  /-- A reaction to `initFinished`. -/
  | react

def isInterval : Value → Bool
  | .num (.finite value) => value.isInt && decide (10 * 1000 < value)
  | _ => false

section
variable (host : Host)

/-- `options[name] ?? cds.env.eventQueue?.[name]`. -/
def given {α : Type} (options : Options) (name : Options → Option α) : Option α := (name options).or (name host.env)

/-- `useAsCAPQueue` sets `useAsCAPOutbox`, which stays once it is set. -/
def mixConfigVarsWithEnv (options : Options) : Except StartError Config :=
  let runInterval := (given host options Options.runInterval).getD (.nat (25 * 60 * 1000))
  if isInterval runInterval then .ok {
    configFilePath := given host options Options.configFilePath
    registerAsEventProcessor := (given host options Options.registerAsEventProcessor).getD true
    processEventsAfterPublish := (given host options Options.processEventsAfterPublish).getD true
    disableRedis := (given host options Options.disableRedis).getD true
    useAsCAPOutbox := (given host options Options.useAsCAPOutbox).getD false ||
      (given host options Options.useAsCAPQueue).getD false
    crashOnRedisUnavailable := (given host options Options.crashOnRedisUnavailable).getD false
    processingNamespaces := (given host options Options.processingNamespaces).getD ["default"]
    environment := {host.environment with
      nameSpace := (given host options Options.nameSpace).getD "default"
      cronTimezone := given host options Options.cronTimezone
      configEvents := (given host options Options.events).getD Dict.empty
      configPeriodicEvents := (given host options Options.periodicEvents).getD Dict.empty}}
  else .error .invalidInterval

def Config.hasConfigEvents (config : Config) : Bool :=
  !(config.environment.configEvents.keys.isEmpty && config.environment.configPeriodicEvents.keys.isEmpty)

/-- The extension in small or capital letters. -/
def hasExtension (configFilepath extension : String) : Bool :=
  decide (extension.toList <:+ configFilepath.toList.map Char.toLower)

/-- Without a path nothing can be read, and the events may all be configured elsewhere. -/
def readConfigFromFile (config : Config) (file : Option File) : Option FileContent :=
  match config.configFilePath.filter (· ≠ "") with
  | none => if config.useAsCAPOutbox || config.hasConfigEvents then some ⟨[],[]⟩ else none
  | some configFilepath => file.bind (fun file =>
    if hasExtension configFilepath ".yaml" || hasExtension configFilepath ".yml" then file.yaml
    else if hasExtension configFilepath ".json" then file.json
    else none)

def runnerOf (redisEnabled : Bool) : Runner :=
  match redisEnabled,host.environment.isMultiTenancy with
  | true,true => .multiTenancyRedis
  | true,false => .singleTenantRedis
  | false,true => .multiTenancyDb
  | false,false => .singleTenantDb

def _scheduleFunction (runner : Runner) (allEvents : List Entry) : List Effect :=
  if allEvents.isEmpty then [] else [.runner runner allEvents]

/-- The effects of `initEventQueueRedisSubscribe`. -/
def initEventQueueRedisSubscribe (config : Config) (state : State) : List Effect :=
  if state.subscribed || !state.redisEnabled then [] else config.processingNamespaces.map Effect.subscription

def registerEventProcessors (config : Config) (state : State) : State :=
  let unsubscribed := Effect.unsubscribeHandler :: if state.redisEnabled then [Effect.redisUnsubscribeHandler] else []
  if config.registerAsEventProcessor then
    {state with
      subscribed := state.subscribed || state.redisEnabled
      effects := state.effects ++ unsubscribed ++ initEventQueueRedisSubscribe config state ++
        _scheduleFunction (runnerOf host state.redisEnabled) state.eventMap}
  else {state with effects := state.effects ++ unsubscribed}

def State.fail (state : State) (error : StartError) : State := {state with stage := .failed error}

/-- `initialize`: the first call counts, whatever becomes of it. -/
def initializeQueue (state : State) (options : Options) : State :=
  if state.initialized then state
  else
    match mixConfigVarsWithEnv host options with
    | .error error => {state with initialized := true,stage := .failed error}
    | .ok config =>
      let redisEnabled := !config.disableRedis && host.redisIsBound
      {state with
        initialized := true
        config := some config
        redisEnabled := redisEnabled
        stage := if redisEnabled then .checkingRedis else .readingFile}

def connect (config : Config) (state : State) (service : String) : State :=
  if service = "db" then {state with
    waiting := state.waiting + 1
    effects := state.effects ++ if config.processEventsAfterPublish then [.dbHandler] else []
    connects := state.connects + 1}
  else state

def connectionChecked (config : Config) (state : State) : Option Bool → State
  | none => state.fail .connectionCheck
  | some enabled =>
    if !enabled && config.crashOnRedisUnavailable then {state with redisEnabled := enabled}.fail .redisConnectionFailure
    else {state with redisEnabled := enabled,stage := .readingFile}

def fileRead (config : Config) (state : State) (file : Option File) : State :=
  match readConfigFromFile config file with
  | none => state.fail .configFile
  | some fileContent =>
    match mixFileContentWithEnv config.environment state.eventMap fileContent with
    | (eventMap,some error) => {state with eventMap := eventMap}.fail (.config error)
    | (eventMap,none) => {state with
      eventMap := eventMap
      stage := .finished
      effects := state.effects ++ (if config.useAsCAPOutbox then [.outboxed] else []) ++ [.shutdownHandler]}

def step (state : State) : Action → Option State
  | .call options => some (initializeQueue host state options)
  | .connect service =>
    match state.config with
    | some config => some (connect config state service)
    | none => some state
  | .connectionCheck reply =>
    match state.stage,state.config with
    | .checkingRedis,some config => some (connectionChecked config state reply)
    | _,_ => none
  | .readFile reply =>
    match state.stage,state.config with
    | .readingFile,some config => some (fileRead config state reply)
    | _,_ => none
  | .react =>
    match state.stage,state.config,state.waiting with
    | .finished,some config,waiting + 1 => some (registerEventProcessors host config {state with waiting := waiting})
    | _,_,_ => none

end

@[simp] theorem connect_config (config : Config) (state : State) (service : String) :
    (connect config state service).config = state.config := by
  unfold connect
  split <;> rfl

@[simp] theorem connectionChecked_config (config : Config) (state : State) (reply : Option Bool) :
    (connectionChecked config state reply).config = state.config := by
  cases reply with
  | none => rfl
  | some enabled =>
    unfold connectionChecked
    dsimp only
    split <;> rfl

@[simp] theorem fileRead_config (config : Config) (state : State) (file : Option File) :
    (fileRead config state file).config = state.config := by
  unfold fileRead
  split
  · rfl
  · split <;> rfl

@[simp] theorem registerEventProcessors_config (host : Host) (config : Config) (state : State) :
    (registerEventProcessors host config state).config = state.config := by
  unfold registerEventProcessors
  cases config.registerAsEventProcessor <;> rfl

def Effect.runner? : Effect → Option (Runner × List Entry)
  | .runner kind allEvents => some (kind,allEvents)
  | _ => none

def Effect.subscription? : Effect → Option String
  | .subscription nameSpace => some nameSpace
  | _ => none

def Effect.isDbHandler : Effect → Bool
  | .dbHandler => true
  | _ => false

/-- The runners of a processor with events: one for each connection of the database, of the kind that Redis and the
tenants ask for. -/
def runnersOf (host : Host) (config : Config) (state : State) : List (Runner × List Entry) :=
  if config.registerAsEventProcessor && !state.eventMap.isEmpty then
    List.replicate (state.connects - state.waiting) (runnerOf host state.redisEnabled,state.eventMap)
  else []

/-- The subscriptions of a processor with Redis: one for each namespace, however often the database connects. -/
def subscriptionsOf (config : Config) (state : State) : List String :=
  if config.registerAsEventProcessor && state.redisEnabled && decide (state.waiting < state.connects) then
    config.processingNamespaces
  else []

/-- The events are those of the file and of the environment, without any error; and Redis is used unless it is off, or
does not answer and does not have to. -/
structure Loaded (host : Host) (config : Config) (redisEnabled : Bool) (eventMap : List Entry) : Prop where
  events : ∃ fileContent, mixFileContentWithEnv config.environment [] fileContent = (eventMap,none)
  bound : redisEnabled = true → config.disableRedis = false ∧ host.redisIsBound = true
  noFallback : config.crashOnRedisUnavailable = true → config.disableRedis = false → host.redisIsBound = true →
    redisEnabled = true

/-- The runners, subscriptions and handlers of the database among the effects. -/
structure Seen (effects : List Effect) (runners : List (Runner × List Entry)) (subscriptions : List String)
    (dbHandlers : Nat) : Prop where
  runners : effects.filterMap Effect.runner? = runners
  subscriptions : effects.filterMap Effect.subscription? = subscriptions
  dbHandlers : effects.countP Effect.isDbHandler = dbHandlers

def Stage.isFinished : Stage → Bool
  | .finished => true
  | _ => false

theorem isFinished_iff (stage : Stage) : stage.isFinished = true ↔ stage = .finished := by
  cases stage <;> simp [Stage.isFinished]

/-- The stages on the way to the end. -/
def Stage.unread : Stage → Prop
  | .checkingRedis => True
  | .readingFile => True
  | _ => False

/-- What holds once the variables of the configuration are set. -/
structure Configured (host : Host) (state : State) (config : Config) : Prop where
  options : ∃ options, mixConfigVarsWithEnv host options = .ok config
  initialized : state.initialized = true
  pending : state.stage ≠ .finished → state.waiting = state.connects
  heard : state.waiting ≤ state.connects
  unread : state.stage.unread → state.eventMap = []
  bound : state.redisEnabled = true → config.disableRedis = false ∧ host.redisIsBound = true
  checking : state.stage = .checkingRedis → state.redisEnabled = true
  reading : state.stage = .readingFile → config.crashOnRedisUnavailable = true → config.disableRedis = false →
    host.redisIsBound = true → state.redisEnabled = true
  finished : state.stage = .finished → Loaded host config state.redisEnabled state.eventMap
  subscribed : state.subscribed =
    (config.registerAsEventProcessor && state.redisEnabled && decide (state.waiting < state.connects))
  seen : Seen state.effects (runnersOf host config state) (subscriptionsOf config state)
    (if config.processEventsAfterPublish then state.connects else 0)

theorem Seen.append {effects others : List Effect} {runners more : List (Runner × List Entry)}
    {subscriptions further : List String} {dbHandlers added : Nat} (seen : Seen effects runners subscriptions dbHandlers)
    (other : Seen others more further added) :
    Seen (effects ++ others) (runners ++ more) (subscriptions ++ further) (dbHandlers + added) := by
  refine ⟨?_,?_,?_⟩
  · rw [List.filterMap_append,seen.runners,other.runners]
  · rw [List.filterMap_append,seen.subscriptions,other.subscriptions]
  · rw [List.countP_append,seen.dbHandlers,other.dbHandlers]

theorem seen_dbHandler (processes : Bool) :
    Seen (if processes then [.dbHandler] else []) [] [] (if processes then 1 else 0) := by
  cases processes with
  | false => exact ⟨rfl,rfl,rfl⟩
  | true => exact ⟨rfl,rfl,rfl⟩

theorem seen_loaded (useAsCAPOutbox : Bool) :
    Seen ((if useAsCAPOutbox then [.outboxed] else []) ++ [.shutdownHandler]) [] [] 0 := by
  cases useAsCAPOutbox with
  | false => exact ⟨rfl,rfl,rfl⟩
  | true => exact ⟨rfl,rfl,rfl⟩

theorem seen_unsubscribed (redisEnabled : Bool) :
    Seen (.unsubscribeHandler::if redisEnabled then [.redisUnsubscribeHandler] else []) [] [] 0 := by
  cases redisEnabled with
  | false => exact ⟨rfl,rfl,rfl⟩
  | true => exact ⟨rfl,rfl,rfl⟩

theorem seen_subscriptions (nameSpaces : List String) : Seen (nameSpaces.map Effect.subscription) [] nameSpaces 0 := by
  induction nameSpaces with
  | nil => exact ⟨rfl,rfl,rfl⟩
  | cons nameSpace rest ih =>
    refine ⟨?_,?_,?_⟩
    · simp [Effect.runner?]
    · simpa [Effect.subscription?] using ih.subscriptions
    · simp [Effect.isDbHandler]

theorem seen_scheduled (runner : Runner) (allEvents : List Entry) :
    Seen (_scheduleFunction runner allEvents) (if allEvents.isEmpty then [] else [(runner,allEvents)]) [] 0 := by
  unfold _scheduleFunction
  split
  · exact ⟨rfl,rfl,rfl⟩
  · exact ⟨rfl,rfl,rfl⟩

/-- No connection of the database has been reacted to. -/
theorem runners_none (host : Host) (config : Config) {state : State} (none : state.waiting = state.connects) :
    runnersOf host config state = [] ∧ subscriptionsOf config state = [] := by
  simp [runnersOf,subscriptionsOf,none]

theorem seen_initEventQueueRedisSubscribe (config : Config) (state : State) :
    Seen (initEventQueueRedisSubscribe config state) []
      (if state.subscribed || !state.redisEnabled then [] else config.processingNamespaces) 0 := by
  unfold initEventQueueRedisSubscribe
  split
  · exact ⟨rfl,rfl,rfl⟩
  · exact seen_subscriptions config.processingNamespaces

section
variable {host : Host} {state : State} {config : Config} (configured : Configured host state config)

include configured

/-- A step that waits for an answer, before the end. -/
theorem Configured.moved {next : State} (unfinished : state.stage ≠ .finished)
    (initialized : next.initialized = state.initialized) (waiting : next.waiting = state.waiting)
    (connects : next.connects = state.connects) (subscribed : next.subscribed = state.subscribed)
    (effects : ∃ others, next.effects = state.effects ++ others ∧ Seen others [] [] 0)
    (unread : next.stage.unread → next.eventMap = []) (bound : next.redisEnabled = true → config.disableRedis = false ∧
      host.redisIsBound = true) (unchecked : next.stage ≠ .checkingRedis)
    (reading : next.stage = .readingFile → config.crashOnRedisUnavailable = true → config.disableRedis = false →
      host.redisIsBound = true → next.redisEnabled = true)
    (finished : next.stage = .finished → Loaded host config next.redisEnabled next.eventMap) :
    Configured host next config := by
  have untouched := configured.pending unfinished
  have none : next.waiting = next.connects := by rw [waiting,connects,untouched]
  obtain ⟨running,subscribing⟩ := runners_none host config untouched
  obtain ⟨noRunner,noSubscription⟩ := runners_none host config none
  obtain ⟨others,appended,plain⟩ := effects
  refine ⟨configured.options,initialized.trans configured.initialized,fun _ => none,none.le,unread,bound,
    fun checking => absurd checking unchecked,reading,finished,?_,?_⟩
  · rw [subscribed,configured.subscribed,untouched,none]
    simp
  · have seen := configured.seen.append plain
    rw [running,subscribing] at seen
    rw [appended,noRunner,noSubscription,connects]
    exact seen

theorem Configured.connect (service : String) : Configured host (connect config state service) config := by
  unfold Startup.connect
  split
  · have same : runnersOf host config {state with waiting := state.waiting + 1,connects := state.connects + 1} =
        runnersOf host config state := by
      simp [runnersOf]
    refine {configured with pending := ?_,heard := Nat.succ_le_succ configured.heard,subscribed := ?_,seen := ?_}
    · intro unfinished
      exact congrArg (· + 1) (configured.pending unfinished)
    · simpa using configured.subscribed
    · have seen := configured.seen.append (seen_dbHandler config.processEventsAfterPublish)
      rw [List.append_nil,List.append_nil,← same] at seen
      refine ⟨seen.runners,?_,?_⟩
      · simpa [subscriptionsOf] using seen.subscriptions
      · rw [seen.dbHandlers]
        split <;> rfl
  · exact configured

theorem Configured.connectionChecked (checking : state.stage = .checkingRedis) (reply : Option Bool) :
    Configured host (connectionChecked config state reply) config := by
  have unfinished : state.stage ≠ .finished := by simp [checking]
  have bound := configured.bound (configured.checking checking)
  have empty := configured.unread (by simp [checking,Stage.unread])
  have effects : ∃ others, state.effects = state.effects ++ others ∧ Seen others [] [] 0 :=
    ⟨[],(List.append_nil _).symm,rfl,rfl,rfl⟩
  cases reply with
  | none =>
    refine configured.moved unfinished rfl rfl rfl rfl effects ?_ ?_ ?_ ?_ ?_
    all_goals simp [Startup.connectionChecked,State.fail,Stage.unread,bound]
  | some enabled =>
    unfold Startup.connectionChecked
    dsimp only
    split
    · refine configured.moved unfinished rfl rfl rfl rfl effects ?_ ?_ ?_ ?_ ?_
      all_goals simp [State.fail,Stage.unread,bound]
    · rename_i kept
      refine configured.moved unfinished rfl rfl rfl rfl effects (fun _ => empty) (fun _ => bound) ?_ ?_ ?_
      · simp
      · intro _ crash _ _
        simpa [crash] using kept
      · simp

theorem Configured.fileRead (reading : state.stage = .readingFile) (reply : Option File) :
    Configured host (fileRead config state reply) config := by
  have unfinished : state.stage ≠ .finished := by simp [reading]
  have empty := configured.unread (by simp [reading,Stage.unread])
  have failed (eventMap : List Entry) (error : StartError) :
      Configured host ({state with eventMap := eventMap}.fail error) config := by
    refine configured.moved unfinished rfl rfl rfl rfl ⟨[],(List.append_nil _).symm,rfl,rfl,rfl⟩ ?_ configured.bound
      ?_ ?_ ?_
    all_goals simp [State.fail,Stage.unread]
  unfold Startup.fileRead
  split
  · exact failed state.eventMap .configFile
  · rename_i fileContent read
    split
    · rename_i eventMap error refused
      exact failed eventMap (.config error)
    · rename_i eventMap accepted
      rw [empty] at accepted
      refine configured.moved unfinished rfl rfl rfl rfl ⟨_,List.append_assoc _ _ _,seen_loaded config.useAsCAPOutbox⟩ ?_
        configured.bound ?_ ?_ (fun _ => ⟨⟨fileContent,accepted⟩,configured.bound,configured.reading reading⟩)
      · simp [Stage.unread]
      · simp
      · simp

/-- One more connection has been reacted to. -/
theorem Configured.react {waiting : Nat} (finished : state.stage = .finished) (one : state.waiting = waiting + 1) :
    Configured host (registerEventProcessors host config {state with waiting := waiting}) config := by
  have heard := configured.heard
  have later : waiting < state.connects := by omega
  have count : state.connects - waiting = state.connects - state.waiting + 1 := by omega
  have once := configured.subscribed
  have unsubscribed := configured.seen.append (seen_unsubscribed state.redisEnabled)
  unfold registerEventProcessors
  cases processor : config.registerAsEventProcessor with
  | false =>
    refine {configured with
      pending := fun unfinished => absurd finished unfinished,heard := later.le,subscribed := ?_,seen := ?_}
    · simpa [processor] using once
    · simpa [runnersOf,subscriptionsOf,processor] using unsubscribed
  | true =>
    have subscribing := unsubscribed.append (seen_initEventQueueRedisSubscribe config
      {state with waiting := waiting})
    have seen := subscribing.append (seen_scheduled (runnerOf host state.redisEnabled) state.eventMap)
    refine {configured with
      pending := fun unfinished => absurd finished unfinished,heard := later.le,subscribed := ?_,seen := ?_}
    · rw [once,processor]
      cases state.redisEnabled <;> simp [later]
    · refine ⟨?_,?_,?_⟩
      · refine seen.runners.trans ?_
        cases empty : state.eventMap.isEmpty with
        | true => simp [runnersOf,empty]
        | false => simp [runnersOf,empty,processor,count,List.replicate_succ']
      · refine seen.subscriptions.trans ?_
        cases enabled : state.redisEnabled with
        | false => simp [subscriptionsOf,enabled]
        | true =>
          by_cases before : state.waiting < state.connects
          · simp [subscriptionsOf,enabled,processor,once,before,later]
          · simp [subscriptionsOf,enabled,processor,once,before,later]
      · exact seen.dbHandlers

end

/-- What holds before the variables of the configuration are set. -/
structure Unset (state : State) : Prop where
  unfinished : state.stage ≠ .finished
  eventMap : state.eventMap = []
  subscribed : state.subscribed = false
  effects : state.effects = []
  waiting : state.waiting = 0
  connects : state.connects = 0

structure Sound (host : Host) (state : State) : Prop where
  idle : state.initialized = false → state.stage = .idle
  unset : state.config = none → Unset state
  configured : ∀ config, state.config = some config → Configured host state config

theorem initial_sound (host : Host) : Sound host State.initial :=
  ⟨fun _ => rfl,fun _ => ⟨Stage.noConfusion,rfl,rfl,rfl,rfl,rfl⟩,fun _ configured => by cases configured⟩

theorem sound_of_configured {host : Host} {state : State} {config : Config} (same : state.config = some config)
    (configured : Configured host state config) : Sound host state := by
  refine ⟨fun uncalled => ?_,fun none => ?_,fun other given => ?_⟩
  · rw [configured.initialized] at uncalled
    cases uncalled
  · rw [same] at none
    cases none
  · cases same.symm.trans given
    exact configured

section
variable {host : Host} {state next : State} (sound : Sound host state)

include sound

theorem Sound.initializeQueue (options : Options) : Sound host (initializeQueue host state options) := by
  unfold Startup.initializeQueue
  split
  · exact sound
  · rename_i uncalled
    have none : state.config = none := by
      cases given : state.config with
      | none => rfl
      | some config => exact absurd (sound.configured config given).initialized uncalled
    have unset := sound.unset none
    split
    · rename_i error _
      refine ⟨fun again => Bool.noConfusion again,fun _ => ⟨by simp,unset.eventMap,unset.subscribed,unset.effects,
        unset.waiting,unset.connects⟩,fun config given => ?_⟩
      rw [none] at given
      cases given
    · rename_i config mixed
      refine sound_of_configured rfl ⟨⟨options,mixed⟩,rfl,?_,?_,?_,?_,?_,?_,?_,?_,?_⟩
      · exact fun _ => unset.waiting.trans unset.connects.symm
      · exact (unset.waiting.trans unset.connects.symm).le
      · exact fun _ => unset.eventMap
      · simp
      · intro checking
        by_contra off
        simp [off] at checking
      · intro reading _ enabled bound
        simp [enabled,bound] at reading
      · intro finished
        dsimp only at finished
        split at finished <;> cases finished
      · simp [unset.subscribed,unset.waiting,unset.connects]
      · simp [unset.effects,runnersOf,subscriptionsOf,unset.waiting,unset.connects]
        exact ⟨rfl,rfl,rfl⟩

theorem Sound.step {action : Action} (taken : step host state action = some next) : Sound host next := by
  cases action with
  | call options =>
    cases taken
    exact sound.initializeQueue options
  | connect service =>
    simp only [Startup.step] at taken
    split at taken
    · rename_i config given
      cases taken
      exact sound_of_configured (by simp [given]) ((sound.configured config given).connect service)
    · cases taken
      exact sound
  | connectionCheck reply =>
    simp only [Startup.step] at taken
    split at taken
    · rename_i config checking given
      cases taken
      exact sound_of_configured (by simp [given]) ((sound.configured config given).connectionChecked checking reply)
    · cases taken
  | readFile reply =>
    simp only [Startup.step] at taken
    split at taken
    · rename_i config reading given
      cases taken
      exact sound_of_configured (by simp [given]) ((sound.configured config given).fileRead reading reply)
    · cases taken
  | react =>
    simp only [Startup.step] at taken
    split at taken
    · rename_i config waiting finished given one
      cases taken
      exact sound_of_configured (by simp [given]) ((sound.configured config given).react finished one)
    · cases taken

omit sound in
theorem sound_reached {actions : List Action} (reached : Transition.run (step host) State.initial actions = some state) :
    Sound host state :=
  Transition.invariant (step host) (fun _ _ => True) (Sound host) (fun _ _ _ sound _ taken => sound.step taken)
    State.initial state actions (initial_sound host) (Transition.along_true _ _ _) reached

theorem Sound.untouched (unfinished : state.stage ≠ .finished) :
    state.effects.filterMap Effect.runner? = [] ∧ state.effects.filterMap Effect.subscription? = [] := by
  cases given : state.config with
  | none =>
    rw [(sound.unset given).effects]
    exact ⟨rfl,rfl⟩
  | some config =>
    have configured := sound.configured config given
    obtain ⟨running,subscribing⟩ := runners_none host config (configured.pending unfinished)
    exact ⟨configured.seen.runners.trans running,configured.seen.subscriptions.trans subscribing⟩

end

/-- The handlers that so many connections of the database give. -/
def handlersOf (config : Option Config) (count : Nat) : List Effect :=
  List.replicate (if (config.map Config.processEventsAfterPublish).getD false then count else 0) .dbHandler

/-- What came after a start that has failed. -/
structure Final (middle state : State) : Prop where
  initialized : state.initialized = true
  stage : state.stage = middle.stage
  config : state.config = middle.config
  eventMap : state.eventMap = middle.eventMap
  heard : middle.connects ≤ state.connects
  effects : state.effects = middle.effects ++ handlersOf middle.config (state.connects - middle.connects)

theorem Final.connect {middle state : State} (final : Final middle state) {config : Config}
    (given : state.config = some config) (service : String) : Final middle (connect config state service) := by
  unfold Startup.connect
  split
  · refine {final with heard := Nat.le_succ_of_le final.heard,effects := ?_}
    have count : state.connects + 1 - middle.connects = state.connects - middle.connects + 1 := by
      have heard := final.heard
      omega
    have config := final.config.symm.trans given
    rw [final.effects,count,handlersOf,handlersOf,config]
    cases processes : Config.processEventsAfterPublish _ <;> simp [processes,List.replicate_succ']
  · exact final

theorem Final.step {host : Host} {middle state next : State} {error : StartError} {action : Action}
    (failed : middle.stage = .failed error) (final : Final middle state) (taken : step host state action = some next) :
    Final middle next := by
  have stage := final.stage.trans failed
  cases action with
  | call options =>
    cases taken
    rw [initializeQueue,if_pos final.initialized]
    exact final
  | connect service =>
    simp only [Startup.step] at taken
    split at taken
    · rename_i config given
      cases taken
      exact final.connect given service
    · cases taken
      exact final
  | connectionCheck reply => simp [Startup.step,stage] at taken
  | readFile reply => simp [Startup.step,stage] at taken
  | react => simp [Startup.step,stage] at taken

end EventQueue.Startup

import EventQueue.Selection
import EventQueue.OutboxServiceName

/-! `getOpenQueueEntries` of the runner beside the selection of the processors. Both queries say which rows are due;
they differ in how long an event may be in progress before it counts as stuck. -/
namespace EventQueue.OpenEvents
open Selection (Processor newDate atMost whereClause refDateStartAfter)
open SubType (CAP_EVENT_TYPE SUFFIX_PERIODIC)

def MS_IN_DAYS : Nat := 24 * 60 * 60 * 1000
def DEFAULT_MAX_FACTOR_STUCK_2_KEEP_ALIVE_INTERVAL : Rat := 7 / 2

structure EventConfig where
  isPeriodic : Bool
  retryAttempts : Int
  selectMaxChunkSize : Nat
  /-- In seconds. -/
  keepAliveInterval : Rat
  appNames : Option (List String)
  appInstances : Option (List Int)

/-- `#basicEventTransformation`. -/
def EventConfig.keepAliveMaxInProgressTime (config : EventConfig) : Rat :=
  config.keepAliveInterval * DEFAULT_MAX_FACTOR_STUCK_2_KEEP_ALIVE_INTERVAL

/-- By the key of namespace, type and subtype. -/
abbrev EventMap := String → Option EventConfig

def generateKey (nameSpace type subType : String) : String := "##".intercalate [nameSpace,type,subType]

/-- A service that is queued without an entry in the environment, with the settings from its options. -/
structure Service where
  nameSpace : Option String
  config : EventConfig

structure Application where
  environment : SubType.Environment
  applicationName : String
  applicationInstance : Int
  /-- The test of a text that is a regular expression. -/
  regex : String → Option (String → Bool)
  /-- `cds.connect.to`; none if it fails. -/
  connect : String → Option Service
  nameSpace : String
  processingNamespaces : List String
  runInterval : Nat
  globalTxTimeout : Rat

structure Combination where
  nameSpace : Option String
  type : String
  subType : String
  deriving DecidableEq

def Combination.key (combination : Combination) : String :=
  generateKey (combination.nameSpace.getD "") combination.type combination.subType

def combinationOf (row : Selection.Row) : Combination := ⟨row.nameSpace,row.type,row.subType⟩

section
variable (app : Application)

def appNameFits (appNames : List String) : Bool :=
  if appNames.any (fun name => (app.regex name).isSome) then
    appNames.any (fun name => match app.regex name with
      | some test => test app.applicationName
      | none => appNames.contains app.applicationName)
  else appNames.contains app.applicationName

/-- None if there is no configuration under the normalised subtype, which throws. -/
def shouldBeProcessedInThisApplication (eventMap : EventMap) (combination : Combination) : Option Bool :=
  let subType := (ServiceName.normalizeSubType app.environment combination.type combination.subType).subType
  (eventMap (Combination.key {combination with subType := subType})).map (fun config =>
    config.appNames.all (appNameFits app) &&
      config.appInstances.all (fun instances => instances.contains app.applicationInstance))

def isCapOutboxEvent (type : String) : Bool := [CAP_EVENT_TYPE,CAP_EVENT_TYPE ++ SUFFIX_PERIODIC].contains type

def addCAPServiceWithoutEnvConfig (serviceName : String) (service : Service) (eventMap : EventMap) : EventMap :=
  Function.update eventMap (generateKey (service.nameSpace.getD app.nameSpace) CAP_EVENT_TYPE serviceName)
    (some service.config)

def createdOrDueSince (now : Nat) (row : Selection.Row) : Bool :=
  let since : Int := now - 30 * MS_IN_DAYS
  row.createdAt.any (fun time => decide (since ≤ time)) || row.startAfter.any (fun time => decide (since ≤ time))

/-- The date before which the runner takes an event in progress for stuck. -/
def stuckDate (now : Nat) : Int := newDate (now - app.globalTxTimeout)

def whereOpen (now : Nat) (row : Selection.Row) : Bool :=
  row.nameSpace.any (fun nameSpace => app.processingNamespaces.contains nameSpace) &&
    (row.startAfter.isNone || atMost row.startAfter (newDate (now + app.runInterval * (6 / 5 : Rat)))) &&
    (decide (row.status = EventProcessingStatus.Open) || decide (row.status = EventProcessingStatus.Error) ||
      decide (row.status = EventProcessingStatus.InProgress) && atMost row.lastAttemptTimestamp (stuckDate app now)) &&
    createdOrDueSince now row

structure Group where
  combination : Combination
  count : Nat
  deriving DecidableEq

/-- `groupBy` with counts; the database answers in any order. -/
def grouped (rows : List Selection.Row) : List Group :=
  (rows.map combinationOf).dedup.map (fun combination =>
    ⟨combination,rows.countP (fun row => combinationOf row = combination)⟩)

/-- The result so far, and the event map, to which queued services may be added. -/
structure State where
  result : List Group
  eventMap : EventMap

def State.push (state : State) (group : Group) : State := {state with result := state.result ++ [group]}

def State.pushIfProcessed (state : State) (group : Group) : State :=
  if shouldBeProcessedInThisApplication app state.eventMap group.combination = some true then state.push group
  else state

def handleGroup (filterAppSpecificEvents : Bool) (state : State) (group : Group) : State :=
  let combination := group.combination
  if !filterAppSpecificEvents then state.push group
  else if isCapOutboxEvent combination.type then
    match state.eventMap combination.key with
    | some _ => state.pushIfProcessed app group
    | none =>
      let normalized := ServiceName.normalizeSubType app.environment combination.type combination.subType
      match app.connect (normalized.srvName.getD "") with
      | none => state
      | some service =>
        if normalized.actionName.getD "" ≠ "" then state
        else State.pushIfProcessed app
          {state with eventMap := addCAPServiceWithoutEnvConfig app combination.subType service state.eventMap} group
  else match state.eventMap combination.key with
    | some _ => state.pushIfProcessed app group
    | none => state

def getOpenQueueEntries (filterAppSpecificEvents : Bool) (eventMap : EventMap) (answer : List Group) : State :=
  answer.foldl (handleGroup app filterAppSpecificEvents) ⟨[],eventMap⟩

def eventMaps (eventMap : EventMap) (answer : List Group) : List EventMap :=
  answer.inits.map (fun handled => (getOpenQueueEntries app true eventMap handled).eventMap)

def Wanted (eventMap : EventMap) (combination : Combination) : Prop :=
  (eventMap combination.key).isSome ∧ shouldBeProcessedInThisApplication app eventMap combination = some true

def processorOf (tenant : Option String) (now : Nat) (nameSpace type subType : String) (config : EventConfig) : Processor :=
  ⟨tenant,type,subType,nameSpace,config.isPeriodic,if config.isPeriodic then 1 else config.retryAttempts,
    config.selectMaxChunkSize,app.runInterval,config.keepAliveMaxInProgressTime,now⟩

variable (tenant : Option String) (eventMap : EventMap) (now : Nat)

/-- A row of a configured event in a processing namespace, created or due in the last thirty days, that a processor
would select now. -/
def Taken (row : Selection.Row) : Prop :=
  ∃ nameSpace config, row.nameSpace = some nameSpace ∧ nameSpace ∈ app.processingNamespaces ∧
    eventMap (combinationOf row).key = some config ∧ createdOrDueSince now row = true ∧
    whereClause (processorOf app tenant now nameSpace row.type row.subType config) now row = true

/-- The event is to be processed in this application, as long as the runner looks at its answer. -/
def ToBeProcessed (answer : List Group) (combination : Combination) : Prop :=
  ∀ current ∈ eventMaps app eventMap answer, Wanted app current combination

def Reported (answer : List Group) (combination : Combination) : Prop :=
  ∃ group ∈ (getOpenQueueEntries app true eventMap answer).result, group.combination = combination

/-- In progress for too long in the eyes of a processor, but not in those of the runner. -/
def Overlooked (row : Selection.Row) : Prop :=
  row.status = EventProcessingStatus.InProgress ∧ atMost row.lastAttemptTimestamp (stuckDate app now) = false

theorem pushIfProcessed_result (state : State) (group : Group) :
    (state.pushIfProcessed app group).result = state.result ∨
      (state.pushIfProcessed app group).result = state.result ++ [group] := by
  unfold State.pushIfProcessed
  split
  · exact Or.inr rfl
  · exact Or.inl rfl

theorem handleGroup_result (state : State) (group : Group) :
    (handleGroup app true state group).result = state.result ∨
      (handleGroup app true state group).result = state.result ++ [group] := by
  simp only [handleGroup,Bool.not_true,Bool.false_eq_true,if_false]
  split
  · split
    · exact pushIfProcessed_result app _ _
    · split
      · exact Or.inl rfl
      · split
        · exact Or.inl rfl
        · exact pushIfProcessed_result app {state with eventMap := _} group
  · split
    · exact pushIfProcessed_result app _ _
    · exact Or.inl rfl

theorem handleGroup_wanted {state : State} {group : Group} (wanted : Wanted app state.eventMap group.combination) :
    group ∈ (handleGroup app true state group).result := by
  obtain ⟨config,configured⟩ := Option.isSome_iff_exists.mp wanted.1
  simp [handleGroup,configured,State.pushIfProcessed,wanted.2,State.push]

theorem loop_result (answer : List Group) (state : State) :
    (∀ group ∈ state.result, group ∈ (answer.foldl (handleGroup app true) state).result) ∧
      ∀ group ∈ (answer.foldl (handleGroup app true) state).result, group ∈ state.result ∨ group ∈ answer := by
  induction answer generalizing state with
  | nil => simp
  | cons first rest ih =>
    obtain ⟨grows,inside⟩ := ih (handleGroup app true state first)
    rw [List.foldl_cons]
    obtain same | pushed := handleGroup_result app state first
    · rw [same] at grows inside
      refine ⟨grows,fun group reported => ?_⟩
      obtain before | later := inside group reported
      · exact Or.inl before
      · exact Or.inr (List.mem_cons_of_mem _ later)
    · rw [pushed] at grows inside
      refine ⟨fun group before => grows group (List.mem_append_left _ before),fun group reported => ?_⟩
      obtain before | later := inside group reported
      · obtain old | new := List.mem_append.mp before
        · exact Or.inl old
        · exact Or.inr (List.mem_cons.mpr (Or.inl (List.mem_singleton.mp new)))
      · exact Or.inr (List.mem_cons_of_mem _ later)

theorem reported_iff {answer : List Group} {combination : Combination}
    (wanted : ToBeProcessed app eventMap answer combination) :
    Reported app eventMap answer combination ↔ ∃ group ∈ answer, group.combination = combination := by
  constructor
  · intro reported
    obtain ⟨group,listed,same⟩ := reported
    obtain nothing | inside := (loop_result app answer ⟨[],eventMap⟩).2 group listed
    · cases nothing
    · exact ⟨group,inside,same⟩
  · intro returned
    obtain ⟨group,member,rfl⟩ := returned
    obtain ⟨before,after,parts⟩ := List.append_of_mem member
    have current : (getOpenQueueEntries app true eventMap before).eventMap ∈ eventMaps app eventMap answer := by
      refine List.mem_map.mpr ⟨before,?_,rfl⟩
      rw [List.mem_inits,parts]
      exact List.prefix_append _ _
    have pushed := handleGroup_wanted app (wanted _ current)
    refine ⟨group,?_,rfl⟩
    rw [parts,getOpenQueueEntries,List.foldl_append,List.foldl_cons]
    exact (loop_result app after _).1 group pushed

theorem mem_grouped {rows : List Selection.Row} {combination : Combination} :
    (∃ group ∈ grouped rows, group.combination = combination) ↔ ∃ row ∈ rows, combinationOf row = combination := by
  simp [grouped]

theorem taken_visible {row : Selection.Row} (taken : Taken app tenant eventMap now row) (seen : ¬ Overlooked app now row) :
    whereOpen app now row = true := by
  obtain ⟨nameSpace,config,named,processing,configured,recent,selected⟩ := taken
  simp only [whereClause,Bool.and_eq_true,Bool.or_eq_true,processorOf,refDateStartAfter] at selected
  obtain ⟨⟨_,due⟩,status⟩ := selected
  have inNamespace : row.nameSpace.any (fun nameSpace => app.processingNamespaces.contains nameSpace) = true := by
    simpa [named] using processing
  have state : (decide (row.status = EventProcessingStatus.Open) || decide (row.status = EventProcessingStatus.Error) ||
      decide (row.status = EventProcessingStatus.InProgress) &&
        atMost row.lastAttemptTimestamp (stuckDate app now)) = true := by
    obtain (first | failed) | inProgress := status
    · simp [first.1]
    · simp [failed.1.2]
    · have old : atMost row.lastAttemptTimestamp (stuckDate app now) = true := by
        by_contra young
        exact seen ⟨of_decide_eq_true inProgress.1,by simpa using young⟩
      simp [inProgress.1,old]
  simp only [whereOpen,inNamespace,state,recent,Bool.and_true,Bool.true_and,Bool.or_eq_true]
  exact due

/-- The runner reports whatever a processor would take iff for every row it overlooks it finds another row of the
same event. -/
theorem runner_sees_what_processors_take_iff (rows : List Selection.Row) (answer : List Group)
    (answered : answer.Perm (grouped (rows.filter (whereOpen app now)))) :
    (∀ row ∈ rows, Taken app tenant eventMap now row → ToBeProcessed app eventMap answer (combinationOf row) →
      Reported app eventMap answer (combinationOf row)) ↔
    ∀ row ∈ rows, Taken app tenant eventMap now row → ToBeProcessed app eventMap answer (combinationOf row) →
      Overlooked app now row →
      ∃ other ∈ rows, combinationOf other = combinationOf row ∧ whereOpen app now other = true := by
  have visible : ∀ combination, (∃ group ∈ answer, group.combination = combination) ↔
      ∃ other ∈ rows, combinationOf other = combination ∧ whereOpen app now other = true := by
    intro combination
    simp only [answered.mem_iff]
    rw [mem_grouped]
    simp only [List.mem_filter]
    constructor
    · intro found
      obtain ⟨other,member,same⟩ := found
      exact ⟨other,member.1,same,member.2⟩
    · intro found
      obtain ⟨other,member,same,due⟩ := found
      exact ⟨other,⟨member,due⟩,same⟩
  constructor
  · intro sees row member taken wanted _
    exact (visible _).mp ((reported_iff app eventMap wanted).mp (sees row member taken wanted))
  · intro found row member taken wanted
    rw [reported_iff app eventMap wanted,visible]
    by_cases overlooked : Overlooked app now row
    · exact found row member taken wanted overlooked
    · exact ⟨row,member,rfl,taken_visible app tenant eventMap now taken overlooked⟩

theorem newDate_neg (time : Rat) : newDate (-time) = -newDate time := by
  simp [newDate,Int.neg_tdiv]

theorem newDate_mono {first second : Rat} (ordered : first ≤ second) : newDate first ≤ newDate second := by
  have natural : ∀ {time : Rat}, 0 ≤ time → 0 ≤ newDate time := by
    intro time positive
    rw [Selection.newDate_eq_floor positive]
    exact Int.floor_nonneg.mpr positive
  by_cases positive : 0 ≤ first
  · rw [Selection.newDate_eq_floor positive,Selection.newDate_eq_floor (positive.trans ordered)]
    exact Int.floor_le_floor ordered
  · have mirrored : 0 ≤ -first := by linarith
    have below := natural mirrored
    rw [newDate_neg] at below
    by_cases later : 0 ≤ second
    · have above := natural later
      omega
    · have both : newDate (-second) ≤ newDate (-first) := by
        rw [Selection.newDate_eq_floor mirrored,Selection.newDate_eq_floor (by linarith)]
        exact Int.floor_le_floor (by linarith)
      rw [newDate_neg,newDate_neg] at both
      omega

theorem taken_not_overlooked {row : Selection.Row} (taken : Taken app tenant eventMap now row)
    (shorter : ∀ config, eventMap (combinationOf row).key = some config →
      app.globalTxTimeout ≤ config.keepAliveMaxInProgressTime * 1000) : ¬ Overlooked app now row := by
  intro overlooked
  obtain ⟨nameSpace,config,named,processing,configured,recent,selected⟩ := taken
  simp only [whereClause,Bool.and_eq_true,Bool.or_eq_true,processorOf,overlooked.1] at selected
  have old : atMost row.lastAttemptTimestamp (newDate (now - config.keepAliveMaxInProgressTime * 1000)) = true := by
    simpa [Selection.stuckDate,EventProcessingStatus.Open,EventProcessingStatus.Error,
      EventProcessingStatus.InProgress] using selected.2
  have earlier : newDate (now - config.keepAliveMaxInProgressTime * 1000) ≤ stuckDate app now :=
    newDate_mono (by linarith [shorter config configured])
  have young := overlooked.2
  cases last : row.lastAttemptTimestamp with
  | none => simp [atMost,last] at old
  | some time =>
    simp only [atMost,last,Option.any_some,decide_eq_true_eq,decide_eq_false_iff_not] at old young
    omega

end

def emptyEnvironment : SubType.Environment where
  requires := Dict.empty
  nameSpace := "default"
  events := []
  periodicEvents := []

def application (globalTxTimeout : Rat) : Application where
  environment := emptyEnvironment
  applicationName := "app"
  applicationInstance := 0
  regex _ := none
  connect _ := none
  nameSpace := "default"
  processingNamespaces := ["default"]
  runInterval := 25 * 60 * 1000
  globalTxTimeout := globalTxTimeout

/-- Every event is configured, with the default interval of the keep-alive. -/
def everyEvent : EventMap := fun _ => some ⟨false,20,100,60,none,none⟩

/-- In progress without a keep-alive for five minutes. -/
def stuckRow : Selection.Row :=
  ⟨"stuck","Notifications","Task",none,none,EventProcessingStatus.InProgress,none,1,some 9700000,some 9000000,none,
    none,none,some "default"⟩

theorem taken_stuckRow (globalTxTimeout : Rat) :
    Taken (application globalTxTimeout) none everyEvent 10000000 stuckRow := by
  have selected : whereClause (processorOf (application 0) none 10000000 "default" "Notifications" "Task"
      ⟨false,20,100,60,none,none⟩) 10000000 stuckRow = true := by decide +kernel
  exact ⟨"default",_,rfl,by simp [application],rfl,by decide,selected⟩

theorem runner_sees_what_processors_take_iff_short_timeout :
    Taken (application 210000) none everyEvent 10000000 stuckRow ∧
      ∀ row ∈ [stuckRow], Taken (application 210000) none everyEvent 10000000 row →
        ToBeProcessed (application 210000) everyEvent
          (grouped ([stuckRow].filter (whereOpen (application 210000) 10000000))) (combinationOf row) →
        Reported (application 210000) everyEvent
          (grouped ([stuckRow].filter (whereOpen (application 210000) 10000000))) (combinationOf row) := by
  refine ⟨taken_stuckRow _,(runner_sees_what_processors_take_iff (application 210000) none everyEvent 10000000 [stuckRow] _
    (List.Perm.refl _)).mpr ?_⟩
  intro row _ taken _ overlooked
  refine absurd overlooked (taken_not_overlooked _ _ _ _ taken ?_)
  intro config configured
  cases configured
  norm_num [application,EventConfig.keepAliveMaxInProgressTime,DEFAULT_MAX_FACTOR_STUCK_2_KEEP_ALIVE_INTERVAL]

/-- With the default of thirty minutes the runner does not see what a processor would take. -/
theorem runner_overlooks_stuck_event :
    grouped ([stuckRow].filter (whereOpen (application (30 * 60 * 1000)) 10000000)) = [] ∧
      ¬ ∀ row ∈ [stuckRow], Taken (application (30 * 60 * 1000)) none everyEvent 10000000 row →
        ToBeProcessed (application (30 * 60 * 1000)) everyEvent [] (combinationOf row) →
        Reported (application (30 * 60 * 1000)) everyEvent [] (combinationOf row) := by
  refine ⟨by decide +kernel,?_⟩
  intro sees
  have wanted : ToBeProcessed (application (30 * 60 * 1000)) everyEvent [] (combinationOf stuckRow) := by
    intro current listed
    have same : current = everyEvent := by simpa [eventMaps,getOpenQueueEntries] using listed
    subst same
    exact ⟨rfl,rfl⟩
  obtain ⟨group,listed,_⟩ := sees stuckRow (List.mem_singleton.mpr rfl) (taken_stuckRow _) wanted
  cases listed

end EventQueue.OpenEvents

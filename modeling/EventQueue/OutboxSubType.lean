import EventQueue.Saga
import EventQueue.Lib.Dict

/-! The subtypes of outboxed services: the publisher chooses one by a look at the environment, an
instance that starts with the same environment registers those of its sections. An event is
dropped if its subtype is not registered and names an action. -/
namespace EventQueue.SubType
open Saga (SAGA_SUCCESS SAGA_FAILED SAGA_DONE)

def CAP_EVENT_TYPE : String := "CAP_OUTBOX"
def SUFFIX_PERIODIC : String := "_PERIODIC"

inductive FnConfig
  /-- `false`, zero or the empty string. -/
  | falsy
  | adHoc (nameSpace : Option String)
  /-- With an interval or a cron expression. -/
  | periodic (nameSpace : Option String)

/-- The `outbox` or `queued` section of a service, with the namespace after all defaults are mixed in. -/
structure Queue where
  nameSpace : Option String
  ownNameSpace : Option String
  events : Dict FnConfig

inductive Required
  | disabled
  | unqueued
  | queued (queue : Queue)

/-- An entry of the event map; namespace, type and subtype are its key. -/
structure Entry where
  nameSpace : String
  type : String
  subType : String
  isPeriodic : Bool
  deriving DecidableEq

structure Environment where
  /-- `cds.env.requires`. -/
  requires : Dict Required
  nameSpace : String
  /-- Events from the configuration file and from `cds.env.eventQueue`. -/
  events : List Entry
  periodicEvents : List Entry

def FnConfig.truthy : FnConfig → Bool
  | .falsy => false
  | _ => true

def FnConfig.isPeriodic : FnConfig → Bool
  | .periodic _ => true
  | _ => false

def FnConfig.nameSpace : FnConfig → Option String
  | .falsy => none
  | .adHoc nameSpace => nameSpace
  | .periodic nameSpace => nameSpace

def Required.queue : Required → Option Queue
  | .queued queue => some queue
  | _ => none

/-- `config.events?.[key]` if it is truthy. -/
def Queue.configured (queue : Queue) (key : String) : Option FnConfig := (queue.events.get? key).filter FnConfig.truthy

def split (separator : Char) (text : String) : List String := (text.toList.splitOn separator).map String.ofList

def join (separator left right : String) : String := left ++ separator ++ right

def Entry.sameKey (entry other : Entry) : Bool :=
  decide (entry.nameSpace = other.nameSpace ∧ entry.type = other.type ∧ entry.subType = other.subType)

/-- `map[key] = entry`, where `same` tells which entries have that key. -/
def setWhere (same : Entry → Bool) (map : List Entry) (entry : Entry) : List Entry :=
  if map.any same then map.map (fun other => if same other then entry else other) else map ++ [entry]

def setEntry (map : List Entry) (entry : Entry) : List Entry := setWhere entry.sameKey map entry

section
variable (env : Environment)

def queueOf (serviceName : String) : Option Queue := (env.requires.get? serviceName).bind Required.queue

/-- The settings of the event itself, or of the action before a saga suffix. -/
def getCdsOutboxEventSpecificConfig (serviceName action : String) : Option FnConfig :=
  (queueOf env serviceName).bind (fun queue => (queue.configured action).or (
    match split '/' action with
    | withoutSaga::sagaSuffix::_ =>
      if sagaSuffix ∈ [SAGA_FAILED,SAGA_SUCCESS,SAGA_DONE] then queue.configured withoutSaga else none
    | _ => none))

def addCAPOutboxEventBase (serviceName : String) (queue : Queue) : Entry :=
  ⟨queue.nameSpace.getD env.nameSpace,CAP_EVENT_TYPE,serviceName,false⟩

def addCAPOutboxEventSpecificAction (baseServiceConfig : Entry) (serviceName actionName : String) : Entry :=
  let specific := getCdsOutboxEventSpecificConfig env serviceName actionName
  {baseServiceConfig with
    nameSpace := (specific.bind FnConfig.nameSpace).getD baseServiceConfig.nameSpace
    subType := join "." serviceName actionName}

structure CapEvents where
  adHoc : List Entry
  periodicEvents : List Entry

/-- One saga suffix of an action: with a generic key for the suffix the action itself is registered again. -/
def registerSaga (queue : Queue) (serviceName fnName : String) (srvConfig : Entry) (adHoc : List Entry)
    (sagaSuffix : String) : List Entry :=
  let specificEventConfig := addCAPOutboxEventSpecificAction env srvConfig serviceName fnName
  if (queue.configured sagaSuffix).isSome then setEntry adHoc specificEventConfig
  else setEntry adHoc {specificEventConfig with subType := join "/" specificEventConfig.subType sagaSuffix}

def registerFn (queue : Queue) (serviceName : String) (srvConfig : Entry) (result : CapEvents)
    (fn : String × FnConfig) : CapEvents :=
  if fn.2.isPeriodic then
    let subType := join "." serviceName fn.1
    let nameSpace := (fn.2.nameSpace.or queue.ownNameSpace).getD env.nameSpace
    let event : Entry := ⟨nameSpace,CAP_EVENT_TYPE,subType,false⟩
    {result with periodicEvents := setWhere (fun other => other.subType = subType) result.periodicEvents event}
  else
    let specificEventConfig := addCAPOutboxEventSpecificAction env srvConfig serviceName fn.1
    let adHoc := setEntry result.adHoc specificEventConfig
    let sagas := [SAGA_SUCCESS,SAGA_DONE,SAGA_FAILED]
    {result with adHoc := sagas.foldl (registerSaga env queue serviceName fn.1 srvConfig) adHoc}

def registerService (result : CapEvents) (service : String × Required) : CapEvents :=
  match service.2.queue with
  | none => result
  | some queue =>
    let srvConfig := addCAPOutboxEventBase env service.1 queue
    queue.events.entries.foldl (registerFn env queue service.1 srvConfig)
      {result with adHoc := setEntry result.adHoc srvConfig}

def cdsQueueEventsFromEnv : CapEvents := env.requires.entries.foldl (registerService env) ⟨[],[]⟩

/-- `set fileContent` for one ad-hoc event; a duplicate fails. -/
def addAdHoc (eventMap : List Entry) (event : Entry) : Option (List Entry) :=
  if eventMap.any event.sameKey then none else some (eventMap ++ [event])

def addPeriodic (eventMap : List Entry) (event : Entry) : Option (List Entry) :=
  let renamed := {event with type := event.type ++ SUFFIX_PERIODIC,isPeriodic := true}
  if eventMap.any (fun other => renamed.sameKey other && other.isPeriodic) then none
  else some (setEntry eventMap renamed)

def startedEventMap : Option (List Entry) := do
  let fromEnv := cdsQueueEventsFromEnv env
  let eventMap ← (env.events ++ fromEnv.adHoc).foldlM addAdHoc []
  (env.periodicEvents ++ fromEnv.periodicEvents).foldlM addPeriodic eventMap

def getEventConfig (eventMap : List Entry) (type subType nameSpace : String) : Option Entry :=
  eventMap.find? (Entry.sameKey ⟨nameSpace,type,subType,false⟩)

def findBaseCAPServiceWithoutNamespace (eventMap : List Entry) (serviceName : String) : Option Entry :=
  eventMap.find? (fun event => event.type = CAP_EVENT_TYPE && event.subType = serviceName)

/-- The subtype `outboxed.handle` chooses. -/
def chosenSubType (serviceName event : String) : String :=
  if (getCdsOutboxEventSpecificConfig env serviceName event).isSome then join "." serviceName event else serviceName

def known (serviceName : String) : Bool :=
  match env.requires.get? serviceName with
  | some .disabled => false
  | some _ => true
  | none => false

/-- The loop of `normalizeSubType`: the service and the parts that are left. -/
def findService (srvName : String) : List String → String × List String
  | [] => (srvName,[])
  | part::serviceParts =>
    if known env srvName then (srvName,part::serviceParts) else findService (join "." srvName part) serviceParts

def normalizeSubType (rawSubType : String) : String × Option String :=
  match split '.' rawSubType with
  | [] => (rawSubType,none)
  | first::serviceParts =>
    let found := findService env first serviceParts
    (found.1,found.2.head?)

end

def Lists (map : List Entry) (subType : String) : Prop :=
  ∃ entry ∈ map, entry.type = CAP_EVENT_TYPE ∧ entry.subType = subType

/-- What one entry of a section registers: the action and its saga suffixes without a generic key. -/
def FnRegisters (serviceName : String) (queue : Queue) (subType : String) (fn : String × FnConfig) : Prop :=
  fn.2.isPeriodic = false ∧ (join "." serviceName fn.1 = subType ∨
    ∃ sagaSuffix ∈ [SAGA_SUCCESS,SAGA_DONE,SAGA_FAILED], queue.configured sagaSuffix = none ∧
      join "/" (join "." serviceName fn.1) sagaSuffix = subType)

def Registers (env : Environment) (subType : String) : Prop :=
  ∃ service ∈ env.requires.entries, ∃ queue, service.2.queue = some queue ∧
    (service.1 = subType ∨ ∃ fn ∈ queue.events.entries, FnRegisters service.1 queue subType fn)

/-- The consumer takes the subtype for the service itself. -/
def OnTheFly (env : Environment) (serviceName subType : String) : Prop :=
  (normalizeSubType env subType).1 = serviceName ∧ (normalizeSubType env subType).2.getD "" = ""

/-- The subtype and the namespace the publisher chooses lead to a configuration of the freshly started
instance, or to the service. The publisher may have added entries since its own start. -/
def Resolvable (env : Environment) (eventMap added : List Entry) (fallback serviceName event : String) : Prop :=
  let subType := chosenSubType env serviceName event
  let srvConfig := findBaseCAPServiceWithoutNamespace (eventMap ++ added) subType
  (getEventConfig eventMap CAP_EVENT_TYPE subType ((srvConfig.map Entry.nameSpace).getD fallback)).isSome = true ∨
    OnTheFly env serviceName subType

instance (env : Environment) (serviceName subType : String) : Decidable (OnTheFly env serviceName subType) :=
  inferInstanceAs (Decidable (_ ∧ _))

instance (env : Environment) (eventMap added : List Entry) (fallback serviceName event : String) :
    Decidable (Resolvable env eventMap added fallback serviceName event) :=
  inferInstanceAs (Decidable (_ ∨ _))

section
variable {env : Environment}

theorem foldl_iff {α β : Type} (holds : β → Prop) {adds : α → Prop} {step : β → α → β}
    (each : ∀ result item, holds (step result item) ↔ holds result ∨ adds item) (items : List α) (result : β) :
    holds (items.foldl step result) ↔ holds result ∨ ∃ item ∈ items, adds item := by
  induction items generalizing result with
  | nil => simp
  | cons item rest ih =>
    rw [List.foldl_cons,ih,each,or_assoc]
    simp

theorem sameKey_iff {entry other : Entry} : entry.sameKey other = true ↔
    entry.nameSpace = other.nameSpace ∧ entry.type = other.type ∧ entry.subType = other.subType := by
  simp [Entry.sameKey]

theorem lists_setEntry {map : List Entry} {entry : Entry} {subType : String} :
    Lists (setEntry map entry) subType ↔
      Lists map subType ∨ entry.type = CAP_EVENT_TYPE ∧ entry.subType = subType := by
  unfold setEntry setWhere
  split
  · rename_i present
    obtain ⟨old,member,same⟩ := List.any_eq_true.mp present
    obtain ⟨_,type,name⟩ := sameKey_iff.mp same
    constructor
    · rintro ⟨_,listed,fits⟩
      obtain ⟨other,inside,rfl⟩ := List.mem_map.mp listed
      split at fits
      · exact Or.inr fits
      · exact Or.inl ⟨other,inside,fits⟩
    · rintro (⟨other,inside,fits⟩ | fits)
      · by_cases replaced : entry.sameKey other = true
        · obtain ⟨_,otherType,otherName⟩ := sameKey_iff.mp replaced
          refine ⟨entry,List.mem_map.mpr ⟨other,inside,if_pos replaced⟩,?_⟩
          rw [otherType,otherName]
          exact fits
        · exact ⟨other,List.mem_map.mpr ⟨other,inside,if_neg replaced⟩,fits⟩
      · exact ⟨entry,List.mem_map.mpr ⟨old,member,if_pos same⟩,fits⟩
  · simp only [Lists,List.mem_append,List.mem_singleton]
    constructor
    · rintro ⟨other,inside | rfl,fits⟩
      · exact Or.inl ⟨other,inside,fits⟩
      · exact Or.inr fits
    · rintro (⟨other,inside,fits⟩ | fits)
      · exact ⟨other,Or.inl inside,fits⟩
      · exact ⟨entry,Or.inr rfl,fits⟩

theorem lists_registerSaga {queue : Queue} {serviceName fnName : String} {srvConfig : Entry}
    (cap : srvConfig.type = CAP_EVENT_TYPE) {subType : String} (adHoc : List Entry) (sagaSuffix : String) :
    Lists (registerSaga env queue serviceName fnName srvConfig adHoc sagaSuffix) subType ↔
      Lists adHoc subType ∨ (if (queue.configured sagaSuffix).isSome then join "." serviceName fnName = subType
        else join "/" (join "." serviceName fnName) sagaSuffix = subType) := by
  unfold registerSaga
  split
  · rw [lists_setEntry]
    simp [addCAPOutboxEventSpecificAction,cap]
  · rw [lists_setEntry]
    simp [addCAPOutboxEventSpecificAction,cap]

theorem lists_registerFn {queue : Queue} {serviceName : String} {srvConfig : Entry}
    (cap : srvConfig.type = CAP_EVENT_TYPE) {subType : String} (result : CapEvents) (fn : String × FnConfig) :
    Lists (registerFn env queue serviceName srvConfig result fn).adHoc subType ↔
      Lists result.adHoc subType ∨ FnRegisters serviceName queue subType fn := by
  unfold registerFn FnRegisters
  split
  · rename_i periodic
    simp [periodic]
  · rename_i adHoc
    refine (foldl_iff (fun adHoc => Lists adHoc subType) (lists_registerSaga cap) _ _).trans ?_
    rw [lists_setEntry,or_assoc]
    simp only [addCAPOutboxEventSpecificAction,cap,true_and]
    refine or_congr_right ?_
    constructor
    · rintro (own | ⟨sagaSuffix,listed,found⟩)
      · exact ⟨by simpa using adHoc,Or.inl own⟩
      · split at found
        · exact ⟨by simpa using adHoc,Or.inl found⟩
        · rename_i unset
          exact ⟨by simpa using adHoc,Or.inr ⟨sagaSuffix,listed,by simpa using unset,found⟩⟩
    · rintro ⟨_,own | ⟨sagaSuffix,listed,unset,found⟩⟩
      · exact Or.inl own
      · exact Or.inr ⟨sagaSuffix,listed,by simpa [unset] using found⟩

theorem lists_registerService {subType : String} (result : CapEvents) (service : String × Required) :
    Lists (registerService env result service).adHoc subType ↔ Lists result.adHoc subType ∨
      ∃ queue, service.2.queue = some queue ∧
        (service.1 = subType ∨ ∃ fn ∈ queue.events.entries, FnRegisters service.1 queue subType fn) := by
  unfold registerService
  cases service.2.queue with
  | none => simp
  | some queue =>
    refine (foldl_iff (fun result : CapEvents => Lists result.adHoc subType) (lists_registerFn rfl) _ _).trans ?_
    rw [lists_setEntry,or_assoc]
    simp [addCAPOutboxEventBase]

theorem lists_cdsQueueEventsFromEnv {subType : String} :
    Lists (cdsQueueEventsFromEnv env).adHoc subType ↔ Registers env subType := by
  unfold cdsQueueEventsFromEnv Registers
  have none : ¬ Lists [] subType := by
    rintro ⟨_,listed,_⟩
    cases listed
  refine (foldl_iff (fun result : CapEvents => Lists result.adHoc subType) lists_registerService _ _).trans ?_
  simp [none]

theorem lists_addAdHoc {subType : String} (events eventMap result : List Entry)
    (added : events.foldlM addAdHoc eventMap = some result) :
    Lists result subType ↔ Lists eventMap subType ∨ Lists events subType := by
  induction events generalizing eventMap with
  | nil =>
    cases added
    simp [Lists]
  | cons event rest ih =>
    obtain ⟨next,first,remaining⟩ := Option.bind_eq_some_iff.mp added
    unfold addAdHoc at first
    split at first
    · cases first
    · cases first
      rw [ih _ remaining]
      simp [Lists,or_and_right,exists_or,or_assoc]

theorem periodic_type (type : String) : type ++ SUFFIX_PERIODIC ≠ CAP_EVENT_TYPE := by
  intro same
  have last := congrArg (fun text => text.toList.getLast?) same
  simp [SUFFIX_PERIODIC,CAP_EVENT_TYPE] at last

theorem lists_addPeriodic {subType : String} (events eventMap result : List Entry)
    (added : events.foldlM addPeriodic eventMap = some result) : Lists result subType ↔ Lists eventMap subType := by
  induction events generalizing eventMap with
  | nil =>
    cases added
    rfl
  | cons event rest ih =>
    obtain ⟨next,first,remaining⟩ := Option.bind_eq_some_iff.mp added
    unfold addPeriodic at first
    simp only at first
    split at first
    · cases first
    · cases first
      rw [ih _ remaining,lists_setEntry]
      simp [periodic_type]

theorem lists_startedEventMap {eventMap : List Entry} (started : startedEventMap env = some eventMap)
    (subType : String) : Lists eventMap subType ↔ Lists env.events subType ∨ Registers env subType := by
  obtain ⟨adHoc,first,second⟩ := Option.bind_eq_some_iff.mp started
  rw [lists_addPeriodic _ _ _ second,lists_addAdHoc _ _ _ first,← lists_cdsQueueEventsFromEnv]
  simp [Lists,or_and_right,exists_or]

theorem getEventConfig_published {eventMap added : List Entry} {subType fallback : String} :
    (getEventConfig eventMap CAP_EVENT_TYPE subType
      (((findBaseCAPServiceWithoutNamespace (eventMap ++ added) subType).map Entry.nameSpace).getD
        fallback)).isSome = true ↔ Lists eventMap subType := by
  simp only [getEventConfig,List.find?_isSome]
  constructor
  · rintro ⟨entry,member,same⟩
    obtain ⟨_,type,name⟩ := sameKey_iff.mp same
    exact ⟨entry,member,type.symm,name.symm⟩
  · rintro ⟨entry,member,type,name⟩
    cases found : eventMap.find? (fun event => event.type = CAP_EVENT_TYPE && event.subType = subType) with
    | none =>
      have absent := List.find?_eq_none.mp found entry member
      simp [type,name] at absent
    | some first =>
      have fits := List.find?_some found
      simp only [Bool.and_eq_true,decide_eq_true_eq] at fits
      refine ⟨first,List.mem_of_find?_eq_some found,?_⟩
      rw [findBaseCAPServiceWithoutNamespace,List.find?_append,found]
      exact sameKey_iff.mpr ⟨rfl,fits.1.symm,fits.2.symm⟩

theorem base_registered {serviceName : String} {queue : Queue}
    (required : env.requires.get? serviceName = some (.queued queue)) : Registers env serviceName :=
  ⟨(serviceName,.queued queue),Dict.mem_entries.mpr required,queue,rfl,Or.inl rfl⟩

theorem split_join (left right : String) : split '.' (join "." left right) = split '.' left ++ split '.' right := by
  have dot : ".".toList = ['.'] := rfl
  rw [split,join,String.toList_append,String.toList_append,dot,List.append_assoc,List.singleton_append,
    List.splitOn_append_cons_self,List.map_append]
  rfl

theorem join_assoc (left middle right : String) :
    join "." (join "." left middle) right = join "." left (join "." middle right) := by
  simp [join,String.append_assoc]

def rejoin (first : String) (parts : List String) : String := parts.foldl (join ".") first

theorem rejoin_append (first middle : String) (before after : List String) :
    rejoin first (before ++ middle::after) = join "." (rejoin first before) (rejoin middle after) := by
  simp only [rejoin,List.foldl_append,List.foldl_cons]
  induction after generalizing middle with
  | nil => rfl
  | cons part rest ih =>
    rw [List.foldl_cons,List.foldl_cons,← ih (join "." middle part),join_assoc]

theorem rejoin_ofList (first : List Char) (parts : List (List Char)) :
    rejoin (String.ofList first) (parts.map String.ofList) = String.ofList (['.'].intercalate (first::parts)) := by
  induction parts generalizing first with
  | nil => simp [rejoin]
  | cons part rest ih =>
    have dot : "." = String.ofList ['.'] := rfl
    have joined : join "." (String.ofList first) (String.ofList part) = String.ofList (first ++ '.'::part) := by
      rw [join,dot,← String.ofList_append,← String.ofList_append]
      simp
    rw [List.map_cons,rejoin,List.foldl_cons,joined,← rejoin,ih]
    cases rest <;> simp

theorem rejoin_split {text first : String} {parts : List String} (separated : split '.' text = first::parts) :
    rejoin first parts = text := by
  unfold split at separated
  cases pieces : text.toList.splitOn '.' with
  | nil => simp [pieces] at separated
  | cons piece rest =>
    rw [pieces,List.map_cons,List.cons.injEq] at separated
    obtain ⟨rfl,rfl⟩ := separated
    rw [rejoin_ofList,← pieces,List.intercalate_splitOn,String.ofList_toList]

theorem split_cons (text : String) : ∃ first parts, split '.' text = first::parts := by
  cases separated : split '.' text with
  | nil => exact absurd (List.map_eq_nil_iff.mp separated) (List.splitOn_ne_nil _ _)
  | cons first parts => exact ⟨first,parts,rfl⟩

theorem findService_spec (env : Environment) (first : String) (parts : List String) :
    ∃ used left, parts = used ++ left ∧ findService env first parts = (rejoin first used,left) ∧
      (∀ before part after, used = before ++ part::after → known env (rejoin first before) = false) ∧
      (left ≠ [] → known env (rejoin first used) = true) := by
  induction parts generalizing first with
  | nil => exact ⟨[],[],rfl,rfl,fun _ _ _ impossible => by simp at impossible,fun impossible => absurd rfl impossible⟩
  | cons part rest ih =>
    rw [findService]
    split
    · rename_i found
      exact ⟨[],part::rest,rfl,rfl,fun _ _ _ impossible => by simp at impossible,fun _ => found⟩
    · rename_i unknown
      obtain ⟨used,left,same,result,before,after⟩ := ih (join "." first part)
      refine ⟨part::used,left,by rw [same]; rfl,result,?_,after⟩
      intro earlier next later listed
      cases earlier with
      | nil => simpa [rejoin] using unknown
      | cons head tail =>
        rw [List.cons_append,List.cons.injEq] at listed
        obtain ⟨rfl,rest⟩ := listed
        exact before tail next later rest

theorem join_ne_left (left right : String) : left ≠ join "." left right := by
  intro same
  have lengths := congrArg String.length same
  have dot : ".".length = 1 := rfl
  simp only [join,String.length_append,dot] at lengths
  omega

/-- The loop stops at the service itself iff no part of its name before a dot is a required service; then it leaves
what follows the name. -/
theorem findService_own {serviceName first : String} {parts rest : List String}
    (own : split '.' serviceName = first::parts) (stops : known env serviceName = true ∨ rest = []) :
    ((findService env first (parts ++ rest)).1 = serviceName ↔
      ∀ shorter more, serviceName = join "." shorter more → known env shorter = false) ∧
    ((findService env first (parts ++ rest)).1 = serviceName → (findService env first (parts ++ rest)).2 = rest) := by
  have whole : rejoin first parts = serviceName := rejoin_split own
  obtain ⟨used,left,same,result,before,after⟩ := findService_spec env first (parts ++ rest)
  have reaches : used = parts ∧ left = rest ∨ ∃ part later, parts = used ++ part::later ∧ left ≠ [] := by
    rcases List.append_eq_append_iff.mp same with ⟨more,ahead,rest⟩ | ⟨more,behind,rest⟩
    · cases more with
      | nil => exact Or.inl ⟨by simpa using ahead,by simpa using rest.symm⟩
      | cons part later =>
        have unknown := before parts part later ahead
        rw [whole] at unknown
        obtain required | nothing := stops
        · rw [unknown] at required
          cases required
        · rw [nothing] at rest
          simp at rest
    · cases more with
      | nil => exact Or.inl ⟨by simpa using behind.symm,by simpa using rest⟩
      | cons part later => exact Or.inr ⟨part,later,behind,by simp [rest]⟩
  rw [result]
  obtain ⟨rfl,rfl⟩ | ⟨part,later,behind,unfinished⟩ := reaches
  · refine ⟨⟨fun _ shorter more named => ?_,fun _ => whole⟩,fun _ => rfl⟩
    obtain ⟨start,inside,ofShorter⟩ := split_cons shorter
    obtain ⟨next,beyond,ofMore⟩ := split_cons more
    rw [named,split_join,ofShorter,ofMore,List.cons_append,List.cons.injEq] at own
    obtain ⟨rfl,decomposed⟩ := own
    have unknown := before inside next beyond decomposed.symm
    rwa [rejoin_split ofShorter] at unknown
  · have shorter : serviceName = join "." (rejoin first used) (rejoin part later) := by
      rw [← whole,behind,rejoin_append]
    have elsewhere : rejoin first used ≠ serviceName := by
      rw [shorter]
      exact join_ne_left _ _
    refine ⟨⟨fun reached => absurd reached elsewhere,fun unknown => ?_⟩,fun reached => absurd reached elsewhere⟩
    have absent := unknown _ _ shorter
    rw [after unfinished] at absent
    cases absent

/-- Only an event with nothing before its first dot is taken for the service, and only if no part of the service's
name before a dot is itself a required service. -/
theorem onTheFly_iff {serviceName : String} (required : known env serviceName = true) (event : String) :
    OnTheFly env serviceName (join "." serviceName event) ↔ (split '.' event).head? = some "" ∧
      ∀ first rest, serviceName = join "." first rest → known env first = false := by
  obtain ⟨first,parts,own⟩ := split_cons serviceName
  obtain ⟨head,tail,other⟩ := split_cons event
  obtain ⟨reaches,leaves⟩ := findService_own own (Or.inl required : _ ∨ head::tail = [])
  simp only [OnTheFly,normalizeSubType,split_join,own,other,List.cons_append]
  rw [← reaches,and_comm]
  refine and_congr_left (fun reached => ?_)
  rw [leaves reached]
  simp

end

/-- The publisher's subtype can be resolved iff the service has no settings for the event, or the started instance
registers service and event, or the event has nothing before its first dot. -/
theorem chosen_subType_resolvable_iff (env : Environment) (eventMap : List Entry)
    (started : startedEventMap env = some eventMap) (serviceName : String) (queue : Queue)
    (required : env.requires.get? serviceName = some (.queued queue)) (event : String) (added : List Entry)
    (fallback : String) :
    Resolvable env eventMap added fallback serviceName event ↔
      getCdsOutboxEventSpecificConfig env serviceName event = none ∨
      Lists env.events (join "." serviceName event) ∨ Registers env (join "." serviceName event) ∨
      (split '.' event).head? = some "" ∧
        ∀ first rest, serviceName = join "." first rest → known env first = false := by
  rw [← onTheFly_iff (show known env serviceName = true by simp [known,required])]
  simp only [Resolvable,getEventConfig_published,lists_startedEventMap started]
  cases specific : getCdsOutboxEventSpecificConfig env serviceName event with
  | none =>
    have chosen : chosenSubType env serviceName event = serviceName := by simp [chosenSubType,specific]
    rw [chosen]
    exact ⟨fun _ => Or.inl rfl,fun _ => Or.inl (Or.inr (base_registered required))⟩
  | some config =>
    have chosen : chosenSubType env serviceName event = join "." serviceName event := by
      simp [chosenSubType,specific]
    rw [chosen,or_assoc]
    simp

def bookings (generic : List (String × FnConfig)) (distinct : ((("book",.adHoc none)::generic).map Prod.fst).Nodup) :
    Environment where
  requires := ⟨[("Bookings",.queued ⟨none,none,⟨("book",.adHoc none)::generic,distinct⟩⟩)],List.nodup_singleton _⟩
  nameSpace := "default"
  events := []
  periodicEvents := []

def specificOnly : Environment := bookings [] (by decide)

theorem chosen_subType_resolvable_successor :
    ∃ eventMap, startedEventMap specificOnly = some eventMap ∧
      chosenSubType specificOnly "Bookings" "book/#succeeded" = "Bookings.book/#succeeded" ∧
      Resolvable specificOnly eventMap [] "default" "Bookings" "book/#succeeded" := by
  have computed : (startedEventMap specificOnly).isSome = true := by decide
  obtain ⟨eventMap,started⟩ := Option.isSome_iff_exists.mp computed
  refine ⟨eventMap,started,by decide,?_⟩
  refine (chosen_subType_resolvable_iff specificOnly eventMap started "Bookings" _ rfl "book/#succeeded" []
    "default").mpr (Or.inr (Or.inr (Or.inl ?_)))
  exact ⟨_,List.mem_singleton.mpr rfl,_,rfl,Or.inr ⟨("book",.adHoc none),List.mem_singleton.mpr rfl,rfl,
    Or.inr ⟨SAGA_SUCCESS,by decide,rfl,rfl⟩⟩⟩

def withGeneric : Environment := bookings [("#succeeded",.adHoc none)] (by decide)

/-- The successor gets a subtype that a freshly started instance does not know. -/
theorem chosen_subType_unknown_successor :
    ∃ eventMap, startedEventMap withGeneric = some eventMap ∧
      chosenSubType withGeneric "Bookings" "book/#succeeded" = "Bookings.book/#succeeded" ∧
      ¬ Resolvable withGeneric eventMap [] "default" "Bookings" "book/#succeeded" := by
  have computed : (startedEventMap withGeneric).map (fun eventMap =>
      decide (Resolvable withGeneric eventMap [] "default" "Bookings" "book/#succeeded")) = some false := by decide
  obtain ⟨eventMap,started,unresolved⟩ := Option.map_eq_some_iff.mp computed
  exact ⟨eventMap,started,by decide,of_decide_eq_false unresolved⟩

end EventQueue.SubType

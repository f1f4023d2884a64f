import EventQueue.DistributedLock
import Mathlib.Tactic

/-! `broadcastEvent` of `redis/redisPub.js`: before an event is published it is checked whether a processor holds
its lock. The check puts the namespace of the instance into the key, the processors leave it out. -/
namespace EventQueue.Broadcast
open DistributedLock

def EVENT_MESSAGE_CHANNEL : String := "EVENT_QUEUE_MESSAGE_CHANNEL"
def TRIES_FOR_PUBLISH_PERIODIC_EVENT : Nat := 10

structure EventConfig where
  isPeriodic : Bool
  multiInstanceProcessing : Bool

structure Config where
  isEventQueueActive : Bool
  redisEnabled : Bool
  /-- `config.namespace`. -/
  namespaceOfInstance : String
  /-- By type, subtype and namespace. -/
  getEventConfig : String → String → String → Option EventConfig

structure Event where
  type : String
  subType : String
  nameSpace : String

structure Message where
  channel : String
  lockId : String
  tenantId : Option String
  type : String
  subType : String
  nameSpace : String
  deriving DecidableEq

def storedKeys (held : List Naming) : List String := held.map Naming.lockKey

def naming (config : Config) (tenantId : Option String) (event : Event) : Naming :=
  ⟨tenantId,event.nameSpace,event.type,event.subType,config.namespaceOfInstance⟩

/-- The key that `checkLockExists` reads; `skipNamespace` is not passed on. -/
def checkKey (naming : Naming) : String :=
  generateKey naming.namespaceOfInstance naming.tenant true
    ("##".intercalate [naming.namespaceOfEvent,naming.type,naming.subType]) false

def checkLockExists (naming : Naming) (held : List Naming) : Bool := decide (checkKey naming ∈ storedKeys held)

/-- The loop over the tries that are left; the locks held may change from check to check. -/
def publishes (eventConfig : EventConfig) (naming : Naming) (forceBroadcast : Bool) (held : Nat → List Naming) :
    Nat → Nat → Bool
  | 0,_ => false
  | left + 1,i =>
    let result := if eventConfig.multiInstanceProcessing then false else checkLockExists naming (held i)
    if result then
      if !eventConfig.isPeriodic && !forceBroadcast then false
      else publishes eventConfig naming forceBroadcast held left (i + 1)
    else true

def message (tenantId : Option String) (uuid : String) (event : Event) : Message :=
  ⟨"##".intercalate [event.nameSpace,EVENT_MESSAGE_CHANNEL],uuid,tenantId,event.type,event.subType,event.nameSpace⟩

section
variable (config : Config) (tenantId : Option String) (forceBroadcast : Bool) (uuid : Nat → String)
  (held : Nat → Nat → List Naming)

def broadcastOne (event : Event) (index : Nat) : Option Message :=
  (config.getEventConfig event.type event.subType event.nameSpace).bind (fun eventConfig =>
    if publishes eventConfig (naming config tenantId event) forceBroadcast (held index)
        TRIES_FOR_PUBLISH_PERIODIC_EVENT 0 then
      some (message tenantId (uuid index) event)
    else none)

/-- The messages published, each with the place of its event in the list; `held` tells for each place and try
which locks are held when the check is made. -/
def broadcastEvent (events : List Event) : List (Nat × Message) :=
  if !config.isEventQueueActive then []
  else if !config.redisEnabled then []
  else events.zipIdx.filterMap (fun entry =>
    (broadcastOne config tenantId forceBroadcast uuid held entry.1 entry.2).map (fun message => (entry.2,message)))

end

/-- An ad-hoc event that one instance at a time processes. -/
def AdHoc (config : Config) (event : Event) : Prop :=
  ∃ eventConfig, config.getEventConfig event.type event.subType event.nameSpace = some eventConfig ∧
    eventConfig.isPeriodic = false ∧ eventConfig.multiInstanceProcessing = false

def Held (held : List Naming) (own : Naming) : Prop := own.lockKey ∈ storedKeys held

/-- An ad-hoc event is published iff its lock is free when it is checked. -/
def RespectsLocks (config : Config) (tenantId : Option String) (uuid : Nat → String) (held : Nat → Nat → List Naming)
    (events : List Event) : Prop :=
  ∀ index event, events[index]? = some event → AdHoc config event →
    ((∃ message, (index,message) ∈ broadcastEvent config tenantId false uuid held events) ↔
      ¬ Held (held index 0) (naming config tenantId event))

theorem checkKey_eq_lockKey_iff (own : Naming) : checkKey own = own.lockKey ↔ own.namespaceOfInstance = "" := by
  constructor
  · intro same
    by_contra given
    have lengths := congrArg String.length same
    simp [checkKey,Naming.lockKey,generateKey,redisNamespace,REDIS_PREFIX,given] at lengths
    have marks : "##".length = 2 := rfl
    omega
  · intro empty
    simp [checkKey,Naming.lockKey,generateKey,redisNamespace,REDIS_PREFIX,empty]

section
variable {config : Config} {tenantId : Option String} {uuid : Nat → String} {held : Nat → Nat → List Naming}
  {events : List Event} {index : Nat} {event : Event}

theorem mem_broadcastEvent (active : config.isEventQueueActive = true) (redis : config.redisEnabled = true)
    (found : events[index]? = some event) (message : Message) :
    (index,message) ∈ broadcastEvent config tenantId false uuid held events ↔
      broadcastOne config tenantId false uuid held event index = some message := by
  simp only [broadcastEvent,active,redis,Bool.not_true,Bool.false_eq_true,if_false,List.mem_filterMap,
    Option.map_eq_some_iff,Prod.mk.injEq]
  constructor
  · intro published
    obtain ⟨⟨other,place⟩,member,sent,one,rfl,rfl⟩ := published
    rw [List.mem_zipIdx_iff_getElem?] at member
    cases found.symm.trans member
    exact one
  · intro one
    exact ⟨(event,index),List.mem_zipIdx_iff_getElem?.mpr found,message,one,rfl,rfl⟩

theorem broadcastOne_adHoc (adHoc : AdHoc config event) :
    (∃ message, broadcastOne config tenantId false uuid held event index = some message) ↔
      checkKey (naming config tenantId event) ∉ storedKeys (held index 0) := by
  obtain ⟨eventConfig,configured,once,single⟩ := adHoc
  simp only [broadcastOne,configured,Option.bind_some,TRIES_FOR_PUBLISH_PERIODIC_EVENT,publishes,once,single,
    checkLockExists]
  by_cases stored : checkKey (naming config tenantId event) ∈ storedKeys (held index 0)
  · simp [stored]
  · simp [stored]

end

/-- The locks are respected iff the instance has no namespace, or each check finds a lock under its own key exactly
if the lock of the event is held; an inactive queue respects them only if all are held. -/
theorem broadcast_respects_locks_iff (config : Config) (redis : config.redisEnabled = true) (tenantId : Option String)
    (uuid : Nat → String) (held : Nat → Nat → List Naming) (events : List Event) :
    RespectsLocks config tenantId uuid held events ↔
      if config.isEventQueueActive then
        config.namespaceOfInstance = "" ∨ ∀ index event, events[index]? = some event → AdHoc config event →
          (checkKey (naming config tenantId event) ∈ storedKeys (held index 0) ↔
            Held (held index 0) (naming config tenantId event))
      else ∀ index event, events[index]? = some event → AdHoc config event →
        Held (held index 0) (naming config tenantId event) := by
  cases active : config.isEventQueueActive with
  | false => simp [RespectsLocks,broadcastEvent,active]
  | true =>
    have each : RespectsLocks config tenantId uuid held events ↔
        ∀ index event, events[index]? = some event → AdHoc config event →
          (checkKey (naming config tenantId event) ∈ storedKeys (held index 0) ↔
            Held (held index 0) (naming config tenantId event)) := by
      apply forall₄_congr
      intro index event found adHoc
      simp only [mem_broadcastEvent active redis found]
      rw [broadcastOne_adHoc adHoc,not_iff_not]
    rw [each,if_pos rfl]
    constructor
    · intro agree
      exact Or.inr agree
    · intro condition
      obtain empty | agree := condition
      · intro index event found adHoc
        rw [Held,(checkKey_eq_lockKey_iff _).mpr empty]
      · exact agree

/-- One ad-hoc event and the default namespace. -/
def defaultConfig (namespaceOfInstance : String) : Config where
  isEventQueueActive := true
  redisEnabled := true
  namespaceOfInstance := namespaceOfInstance
  getEventConfig _ _ _ := some ⟨false,false⟩

def task : Event := ⟨"Notifications","Task","default"⟩

def taskLock : Naming := ⟨some "t1","default","Notifications","Task","default"⟩

theorem broadcast_respects_locks_iff_no_namespace :
    RespectsLocks (defaultConfig "") (some "t1") (fun _ => "id") (fun _ _ => [taskLock]) [task] ∧
      broadcastEvent (defaultConfig "") (some "t1") false (fun _ => "id") (fun _ _ => [taskLock]) [task] = [] :=
  ⟨(broadcast_respects_locks_iff (defaultConfig "") rfl _ _ _ _).mpr (Or.inl rfl),by decide⟩

/-- A processor holds the lock, the message is published nevertheless. -/
theorem broadcast_ignores_lock_default_namespace :
    (broadcastEvent (defaultConfig "default") (some "t1") false (fun _ => "id") (fun _ _ => [taskLock]) [task]).length = 1 ∧
      ¬ RespectsLocks (defaultConfig "default") (some "t1") (fun _ => "id") (fun _ _ => [taskLock]) [task] := by
  have published : broadcastEvent (defaultConfig "default") (some "t1") false (fun _ => "id") (fun _ _ => [taskLock])
      [task] = [(0,message (some "t1") "id" task)] := by decide
  refine ⟨by rw [published]; rfl,?_⟩
  intro respects
  have free := (respects 0 task rfl ⟨_,rfl,rfl,rfl⟩).mp ⟨_,by rw [published]; exact List.mem_singleton.mpr rfl⟩
  exact free (List.mem_singleton.mpr (by decide))

end EventQueue.Broadcast

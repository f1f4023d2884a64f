import EventQueue.Lib.Lease
import EventQueue.Lib.Parties
import EventQueue.Lib.Separated
import EventQueue.Lib.Transition
import EventQueue.MessageHandler

/-! Messages among instances: a published event reaches every instance that listens to its channel, each decides for
itself, and whoever gets the lock under the id of the message processes the event. The key of that lock has the
namespace of the instance in it, so instances of different namespaces do not stop each other. -/
namespace EventQueue.MessageProtocol
open Broadcast (Message)
open MessageHandler

/-- A function in the worker queue. -/
structure Job where
  message : Message
  exclusive : Bool
  deriving DecidableEq

structure Instance where
  app : Application
  config : Config
  /-- Delivered and not yet handled. -/
  inbox : List Message
  waiting : List Job

/-- A function of the worker queue that was run. -/
structure Execution where
  time : Nat
  index : Nat
  app : Application
  job : Job

structure State where
  clock : Nat
  redis : ExpiringStore.Store String String
  instances : List Instance
  -- The rest is history that no function reads back.
  published : List Message
  processed : List Execution
  /-- The lock was not available. -/
  dropped : List Execution

inductive Action
  | wait (time : Nat)
  | publish (tenantId : Option String) (uuid : String) (event : Broadcast.Event)
  | handle (index position : Nat)
  | start (index position : Nat)
  /-- A message does not arrive. -/
  | lose (index position : Nat)
  /-- What an instance has not finished is gone. -/
  | restart (index : Nat)
  | activate (index : Nat) (value : Bool)

def State.initial (instances : List (Application × Config)) : State :=
  ⟨0,fun _ => none,instances.map (fun entry => ⟨entry.1,entry.2,[],[]⟩),[],[],[]⟩

/-- The lock of `acquireLock(context, lockId)`. -/
def lockKey (app : Application) (message : Message) : String :=
  DistributedLock.generateKey app.nameSpace message.tenantId true message.lockId false

def Instance.receive (message : Message) (other : Instance) : Instance :=
  if message.channel ∈ channels other.app then {other with inbox := other.inbox ++ [message]} else other

def Instance.handle (caller : Instance) (position : Nat) (message : Message) : Instance :=
  let (answer,config) := messageHandlerProcessEvents caller.app caller.config message
  let left := {caller with config := config, inbox := caller.inbox.eraseIdx position}
  match answer with
  | .error _ => left
  | .ok exclusive => {left with waiting := left.waiting ++ [⟨message,exclusive⟩]}

def State.setInstance (state : State) (index : Nat) (caller : Instance) : State :=
  {state with instances := state.instances.set index caller}

/-- Only an event with one processor at a time needs the lock of the message. -/
def State.lock (state : State) (app : Application) (job : Job) : Bool × ExpiringStore.Store String String :=
  if job.exclusive then
    Lease.acquire state.redis state.clock (lockKey app job.message) (toString state.clock) app.globalTxTimeout
  else (true,state.redis)

/-- The function that `runEventCombinationForTenant` gives to the worker queue. -/
def State.execute (state : State) (index : Nat) (caller : Instance) (job : Job) : State :=
  let (lockAvailable,redis) := state.lock caller.app job
  let execution : Execution := ⟨state.clock,index,caller.app,job⟩
  if lockAvailable then {state with redis := redis, processed := state.processed ++ [execution]}
  else {state with redis := redis, dropped := state.dropped ++ [execution]}

def step (state : State) : Action → Option State
  | .wait time => some {state with clock := state.clock + time}
  -- a new id is unlike all others and has no `#`
  | .publish tenantId uuid event =>
    if uuid ∈ state.published.map Message.lockId ∨ '#' ∈ uuid.toList then none
    else
      let message := Broadcast.message tenantId uuid event
      some {state with
        instances := state.instances.map (Instance.receive message)
        published := state.published ++ [message]}
  | .handle index position => state.instances[index]?.bind (fun caller =>
    caller.inbox[position]?.map (fun message => state.setInstance index (caller.handle position message)))
  | .start index position => state.instances[index]?.bind (fun caller =>
    caller.waiting[position]?.map (fun job =>
      (state.setInstance index {caller with waiting := caller.waiting.eraseIdx position}).execute index caller job))
  | .lose index position => state.instances[index]?.map (fun caller =>
    state.setInstance index {caller with inbox := caller.inbox.eraseIdx position})
  | .restart index => state.instances[index]?.map (fun caller =>
    state.setInstance index {caller with inbox := [], waiting := []})
  | .activate index value => state.instances[index]?.map (fun caller =>
    state.setInstance index {caller with config := {caller.config with isEventQueueActive := value}})

def Execution.until (execution : Execution) : Nat := execution.time + execution.app.globalTxTimeout

def Execution.grant (execution : Execution) : Lease.Grant String :=
  ⟨lockKey execution.app execution.job.message,execution.time,execution.until⟩

def State.exclusive (state : State) : List Execution := state.processed.filter (fun execution => execution.job.exclusive)

def Instance.messages (caller : Instance) : List Message := caller.inbox ++ caller.waiting.map Job.message

/-- The messages an instance has run its function for. -/
def State.executed (state : State) (index : Nat) : List Message :=
  ((state.processed ++ state.dropped).filter (fun execution => execution.index = index)).map (fun execution =>
    execution.job.message)

/-- An instance that does not process the tenant or listen to the channel has nothing to do with a message. -/
structure Concerns (app : Application) (message : Message) : Prop where
  listens : message.channel ∈ channels app
  tenant : TenantIds.isTenantIdValidCb app.filters .eventProcessing message.tenantId = true

def Instance.Knows (caller : Instance) (message : Message) : Prop := (getEventConfig caller.config message).isSome = true

/-- The event of the message was processed by an instance of the namespace, and its lock is there at the time. -/
def Execution.Holds (execution : Execution) (app : Application) (message : Message) (time : Nat) : Prop :=
  execution.job.message = message ∧ execution.app.nameSpace = app.nameSpace ∧ execution.time ≤ time ∧
    time < execution.until

structure Consistent (state : State) : Prop where
  kept : Lease.Kept state.redis (state.exclusive.map Execution.grant) state.clock
  plain : ∀ message ∈ state.published, '#' ∉ message.lockId.toList
  distinct : (state.published.map Message.lockId).Nodup
  past : ∀ execution ∈ state.processed, execution.time ≤ state.clock
  delivered : ∀ caller ∈ state.instances, ∀ message ∈ caller.inbox,
    message ∈ state.published ∧ message.channel ∈ channels caller.app
  accepted : ∀ caller ∈ state.instances, ∀ job ∈ caller.waiting,
    job.message ∈ state.published ∧ Concerns caller.app job.message ∧ caller.Knows job.message
  logged : ∀ execution ∈ state.processed ++ state.dropped,
    execution.job.message ∈ state.published ∧ Concerns execution.app execution.job.message
  place : ∀ execution ∈ state.processed ++ state.dropped, ∃ caller,
    state.instances[execution.index]? = some caller ∧ caller.app = execution.app ∧ caller.Knows execution.job.message
  once : ∀ index caller, state.instances[index]? = some caller →
    ((caller.messages ++ state.executed index).map Message.lockId).Nodup
  held : ∀ execution ∈ state.dropped, ∃ other ∈ state.exclusive,
    other.Holds execution.app execution.job.message execution.time

theorem lockKey_toList (app : Application) (message : Message) :
    ∃ front, (lockKey app message).toList = front ++ '#'::message.lockId.toList := by
  refine ⟨(DistributedLock.redisNamespace app.nameSpace true).toList ++ ['#','#'] ++
    (message.tenantId.getD "").toList ++ ['#'],?_⟩
  simp [lockKey,DistributedLock.generateKey,String.intercalate_cons_cons]

/-- The id at the end of a key is known from it. -/
theorem lockKey_lockId {app other : Application} {message another : Message} (plain : '#' ∉ message.lockId.toList)
    (alsoPlain : '#' ∉ another.lockId.toList) (same : lockKey app message = lockKey other another) :
    message.lockId = another.lockId := by
  obtain ⟨front,own⟩ := lockKey_toList app message
  obtain ⟨also,its⟩ := lockKey_toList other another
  rw [same,its] at own
  exact String.toList_injective (Separated.plain_last_inj alsoPlain plain own).2.symm

theorem lockKey_nameSpace (app other : Application) (message : Message) :
    lockKey app message = lockKey other message ↔ app.nameSpace = other.nameSpace := by
  constructor
  · intro same
    apply DistributedLock.redisNamespace_inj
    simpa [lockKey,DistributedLock.generateKey] using same
  · intro same
    rw [lockKey,lockKey,same]

theorem initial_consistent (instances : List (Application × Config)) : Consistent (State.initial instances) := by
  have idle : ∀ caller ∈ (State.initial instances).instances, caller.inbox = [] ∧ caller.waiting = [] := by
    intro caller member
    obtain ⟨entry,_,rfl⟩ := List.mem_map.mp member
    exact ⟨rfl,rfl⟩
  refine ⟨Lease.kept_empty 0,by simp [State.initial],List.nodup_nil,by simp [State.initial],?_,?_,by simp [State.initial],
    by simp [State.initial],?_,by simp [State.initial]⟩
  · intro caller member message inside
    rw [(idle caller member).1] at inside
    cases inside
  · intro caller member job inside
    rw [(idle caller member).2] at inside
    cases inside
  · intro index caller found
    have empty := idle caller (List.mem_of_getElem? found)
    simp [Instance.messages,State.executed,empty,State.initial]

section
variable {state : State} {index : Nat} {caller : Instance} (consistent : Consistent state)

include consistent

theorem Consistent.wait (time : Nat) : Consistent {state with clock := state.clock + time} :=
  {consistent with
    kept := consistent.kept.later (Nat.le_add_right _ _)
    past := fun execution member => Nat.le_add_right_of_le (consistent.past execution member)}

/-- All messages an instance knows of were published. -/
theorem Consistent.known (found : state.instances[index]? = some caller) :
    ∀ message ∈ caller.messages ++ state.executed index, message ∈ state.published := by
  intro message member
  have listed := List.mem_of_getElem? found
  rcases List.mem_append.mp member with own | executed
  · rcases List.mem_append.mp own with inbox | waiting
    · exact (consistent.delivered caller listed message inbox).1
    · obtain ⟨job,inside,rfl⟩ := List.mem_map.mp waiting
      exact (consistent.accepted caller listed job inside).1
  · obtain ⟨execution,inside,rfl⟩ := List.mem_map.mp executed
    exact (consistent.logged execution (List.mem_filter.mp inside).1).1

/-- One instance changes what it still has to do. -/
theorem Consistent.moved (found : state.instances[index]? = some caller) {changed : Instance}
    (app : changed.app = caller.app) (config : Keeps caller.config changed.config)
    (inbox : ∀ message ∈ changed.inbox, message ∈ caller.inbox)
    (waiting : ∀ job ∈ changed.waiting,
      job.message ∈ state.published ∧ Concerns caller.app job.message ∧ changed.Knows job.message)
    (messages : changed.messages.Subperm caller.messages) : Consistent (state.setInstance index changed) := by
  refine ⟨consistent.kept,consistent.plain,consistent.distinct,consistent.past,?_,?_,consistent.logged,?_,?_,
    consistent.held⟩
  · refine Parties.forall_mem_moved consistent.delivered (fun message member => ?_)
    rw [app]
    exact consistent.delivered caller (List.mem_of_getElem? found) message (inbox message member)
  · refine Parties.forall_mem_moved consistent.accepted (fun job member => ?_)
    rw [app]
    exact waiting job member
  · intro execution member
    obtain ⟨other,at_,same,knows⟩ := consistent.place execution member
    by_cases own : execution.index = index
    · rw [own,found,Option.some.injEq] at at_
      subst at_
      refine ⟨changed,?_,app.trans same,config _ knows⟩
      rw [own]
      exact List.getElem?_set_self (List.getElem?_eq_some_iff.mp found).1
    · exact ⟨other,Parties.getElem?_kept changed at_ own,same,knows⟩
  · refine Parties.forall_getElem?_moved found consistent.once ?_
    obtain ⟨part,perm,inside⟩ := (List.subperm_append_right (state.executed index)).mpr messages
    exact (perm.map Message.lockId).nodup_iff.mp ((consistent.once index caller found).sublist (inside.map Message.lockId))

theorem Consistent.publish (tenantId : Option String) (uuid : String) (event : Broadcast.Event)
    (fresh : uuid ∉ state.published.map Message.lockId) (plain : '#' ∉ uuid.toList) :
    Consistent {state with
      instances := state.instances.map (Instance.receive (Broadcast.message tenantId uuid event))
      published := state.published ++ [Broadcast.message tenantId uuid event]} := by
  have app (caller : Instance) : (caller.receive (Broadcast.message tenantId uuid event)).app = caller.app := by
    unfold Instance.receive
    split <;> rfl
  have waiting (caller : Instance) : (caller.receive (Broadcast.message tenantId uuid event)).waiting = caller.waiting := by
    unfold Instance.receive
    split <;> rfl
  have config (caller : Instance) : (caller.receive (Broadcast.message tenantId uuid event)).config = caller.config := by
    unfold Instance.receive
    split <;> rfl
  refine ⟨consistent.kept,?_,?_,consistent.past,?_,?_,?_,?_,?_,consistent.held⟩
  · intro message member
    rcases List.mem_append.mp member with before | last
    · exact consistent.plain message before
    · rw [List.mem_singleton.mp last]
      exact plain
  · rw [List.map_append]
    exact consistent.distinct.append (List.nodup_singleton _) (by simpa [Broadcast.message] using fresh)
  · intro other member message inside
    obtain ⟨caller,listed,rfl⟩ := List.mem_map.mp member
    rw [app]
    unfold Instance.receive at inside
    split at inside
    · rename_i listens
      rcases List.mem_append.mp inside with before | last
      · obtain ⟨known,heard⟩ := consistent.delivered caller listed message before
        exact ⟨List.mem_append_left _ known,heard⟩
      · rw [List.mem_singleton.mp last]
        exact ⟨by simp,listens⟩
    · obtain ⟨known,heard⟩ := consistent.delivered caller listed message inside
      exact ⟨List.mem_append_left _ known,heard⟩
  · intro other member job inside
    obtain ⟨caller,listed,rfl⟩ := List.mem_map.mp member
    rw [waiting] at inside
    rw [app,Instance.Knows,config]
    obtain ⟨known,concerns⟩ := consistent.accepted caller listed job inside
    exact ⟨List.mem_append_left _ known,concerns⟩
  · intro execution member
    obtain ⟨known,concerns⟩ := consistent.logged execution member
    exact ⟨List.mem_append_left _ known,concerns⟩
  · intro execution member
    obtain ⟨caller,at_,same,knows⟩ := consistent.place execution member
    refine ⟨caller.receive (Broadcast.message tenantId uuid event),by simp [at_],(app caller).trans same,?_⟩
    rw [Instance.Knows,config]
    exact knows
  · intro index other found
    rw [List.getElem?_map,Option.map_eq_some_iff] at found
    obtain ⟨caller,at_,rfl⟩ := found
    have before := consistent.once index caller at_
    have new : uuid ∉ (caller.messages ++ state.executed index).map Message.lockId := by
      intro known
      obtain ⟨message,member,same⟩ := List.mem_map.mp known
      exact fresh (List.mem_map.mpr ⟨message,consistent.known at_ message member,same⟩)
    unfold Instance.receive
    split
    · have perm : ((caller.inbox ++ [Broadcast.message tenantId uuid event]) ++ caller.waiting.map Job.message ++
          state.executed index).Perm (Broadcast.message tenantId uuid event::(caller.messages ++ state.executed index)) := by
        rw [Instance.messages,List.append_assoc,List.append_assoc,List.append_assoc]
        exact List.perm_middle
      refine (perm.map Message.lockId).nodup_iff.mpr ?_
      rw [List.map_cons,List.nodup_cons]
      exact ⟨new,before⟩
    · exact before

/-- A function that ran is written down. -/
theorem Consistent.ran (found : state.instances[index]? = some caller) {position : Nat} {job : Job}
    (next : caller.waiting[position]? = some job) {after : State}
    (instances : after.instances = state.instances.set index {caller with waiting := caller.waiting.eraseIdx position})
    (published : after.published = state.published)
    (log : (after.processed ++ after.dropped).Perm (⟨state.clock,index,caller.app,job⟩::(state.processed ++ state.dropped)))
    (kept : Lease.Kept after.redis (after.exclusive.map Execution.grant) after.clock)
    (past : ∀ execution ∈ after.processed, execution.time ≤ after.clock)
    (held : ∀ execution ∈ after.dropped, ∃ other ∈ after.exclusive,
      other.Holds execution.app execution.job.message execution.time) : Consistent after := by
  have listed := List.mem_of_getElem? found
  have own := consistent.accepted caller listed job (List.mem_of_getElem? next)
  have erased : (caller.waiting.eraseIdx position).Sublist caller.waiting := List.eraseIdx_sublist _ _
  have moved : Consistent (state.setInstance index {caller with waiting := caller.waiting.eraseIdx position}) :=
    consistent.moved found rfl (Keeps.refl _) (fun message member => member)
      (fun other member => consistent.accepted caller listed other (erased.subset member))
      ((List.Sublist.refl caller.inbox).append (erased.map Job.message)).subperm
  refine ⟨kept,by rw [published]; exact consistent.plain,by rw [published]; exact consistent.distinct,past,?_,?_,?_,?_,?_,
    held⟩
  · rw [instances,published]
    exact moved.delivered
  · rw [instances,published]
    exact moved.accepted
  · intro execution member
    rw [published]
    rcases List.mem_cons.mp (log.subset member) with rfl | before
    · exact ⟨own.1,own.2.1⟩
    · exact consistent.logged execution before
  · intro execution member
    rw [instances]
    rcases List.mem_cons.mp (log.subset member) with rfl | before
    · exact ⟨_,List.getElem?_set_self (List.getElem?_eq_some_iff.mp found).1,rfl,own.2.2⟩
    · exact moved.place execution before
  · intro place other at_
    rw [instances] at at_
    have executed : (after.executed place).Perm ((if index = place then [job.message] else []) ++ state.executed place) := by
      have same := (log.filter (fun execution => execution.index = place)).map (fun execution => execution.job.message)
      refine same.trans ?_
      by_cases here : index = place
      · simp [here,State.executed]
      · simp [here,State.executed]
    rcases Parties.getElem?_moved found at_ with ⟨rfl,rfl⟩ | ⟨differ,old⟩
    · have taken : (caller.waiting.map Job.message).Perm (job.message::(caller.waiting.eraseIdx position).map Job.message) := by
        obtain ⟨small,rfl⟩ := List.getElem?_eq_some_iff.mp next
        exact ((List.getElem_cons_eraseIdx_perm small).symm.map Job.message)
      have perm : (caller.inbox ++ (caller.waiting.eraseIdx position).map Job.message ++ after.executed place).Perm
          (caller.messages ++ state.executed place) := by
        rw [if_pos rfl] at executed
        refine (List.Perm.append_left _ executed).trans ?_
        rw [Instance.messages,List.append_assoc,List.append_assoc]
        refine List.Perm.append_left _ ?_
        refine List.Perm.trans ?_ (List.Perm.append_right _ taken.symm)
        rw [List.singleton_append,List.cons_append]
        exact List.perm_middle
      exact ((perm.map Message.lockId).nodup_iff.mpr (consistent.once place caller found))
    · rw [if_neg (Ne.symm differ),List.nil_append] at executed
      exact ((List.Perm.append_left other.messages executed).map Message.lockId).nodup_iff.mpr
        (consistent.once place other old)

/-- A lock is free iff no instance of the namespace holds it. -/
theorem Consistent.free_iff {app : Application} {message : Message} (known : message ∈ state.published) :
    Lease.Free (state.exclusive.map Execution.grant) state.clock (lockKey app message) ↔
      ¬∃ other ∈ state.exclusive, other.Holds app message state.clock := by
  simp only [Lease.Free,List.mem_map,forall_exists_index,and_imp,forall_apply_eq_imp_iff₂,not_exists,not_and]
  refine forall₂_congr (fun other member => ?_)
  have executed := (List.mem_filter.mp member).1
  have logged := (consistent.logged other (List.mem_append_left _ executed)).1
  constructor
  · intro free holds
    obtain ⟨same,nameSpace,_,valid⟩ := holds
    refine Nat.not_le_of_lt valid (free ?_)
    rw [← same]
    exact (lockKey_nameSpace _ _ _).mpr nameSpace
  · intro none same
    have ids := lockKey_lockId (consistent.plain _ logged) (consistent.plain _ known) same
    have equal : other.job.message = message := List.inj_on_of_nodup_map consistent.distinct logged known ids
    have nameSpace : other.app.nameSpace = app.nameSpace := by
      rw [← lockKey_nameSpace other.app app message,← equal]
      rwa [← equal] at same
    exact Nat.le_of_not_lt (fun valid => none ⟨equal,nameSpace,consistent.past other executed,valid⟩)

/-- What the lock of a message says about the executions before. -/
theorem Consistent.lock_iff {app : Application} {job : Job} (known : job.message ∈ state.published) :
    (state.lock app job).1 = true ↔
      ¬(job.exclusive = true ∧ ∃ other ∈ state.exclusive, other.Holds app job.message state.clock) := by
  unfold State.lock
  cases exclusive : job.exclusive with
  | false => simp
  | true =>
    rw [if_pos rfl,consistent.kept.acquire_iff,consistent.free_iff known]
    simp

theorem Consistent.lock_granted {app : Application} {job : Job} (available : (state.lock app job).1 = true) (index : Nat) :
    Lease.Kept (state.lock app job).2
      ((state.exclusive ++ if job.exclusive then [Execution.mk state.clock index app job] else []).map Execution.grant)
      state.clock := by
  unfold State.lock at available ⊢
  cases exclusive : job.exclusive with
  | false => simpa [exclusive] using consistent.kept
  | true =>
    rw [if_pos exclusive] at available
    rw [if_pos rfl,if_pos rfl,List.map_append,List.map_singleton]
    exact consistent.kept.acquire_granted _ _ available

omit consistent in
theorem lock_refused {app : Application} {job : Job} (refused : (state.lock app job).1 = false) :
    job.exclusive = true ∧ (state.lock app job).2 = state.redis := by
  unfold State.lock at refused ⊢
  cases exclusive : job.exclusive with
  | false => simp [exclusive] at refused
  | true =>
    rw [if_pos exclusive] at refused
    exact ⟨rfl,Lease.acquire_refused _ _ refused⟩

theorem Consistent.execute (found : state.instances[index]? = some caller) {position : Nat} {job : Job}
    (next : caller.waiting[position]? = some job) :
    Consistent ((state.setInstance index {caller with waiting := caller.waiting.eraseIdx position}).execute index caller
      job) := by
  have known := (consistent.accepted caller (List.mem_of_getElem? found) job (List.mem_of_getElem? next)).1
  have lock : (state.setInstance index {caller with waiting := caller.waiting.eraseIdx position}).lock caller.app job =
      state.lock caller.app job := rfl
  simp only [State.execute,lock]
  cases available : (state.lock caller.app job).1 with
  | true =>
    have more : State.exclusive {state with processed := state.processed ++ [⟨state.clock,index,caller.app,job⟩]} =
        state.exclusive ++ if job.exclusive then [⟨state.clock,index,caller.app,job⟩] else [] := by
      cases exclusive : job.exclusive <;> simp [State.exclusive,exclusive]
    refine consistent.ran found next rfl rfl ?_ ?_ ?_ ?_
    · rw [if_pos rfl,List.append_assoc]
      exact List.perm_middle
    · have granted := consistent.lock_granted available index
      rw [← more] at granted
      exact granted
    · intro execution member
      rcases List.mem_append.mp member with before | last
      · exact consistent.past execution before
      · rw [List.mem_singleton.mp last]
        exact Nat.le_refl _
    · intro execution member
      obtain ⟨other,inside,held⟩ := consistent.held execution member
      refine ⟨other,?_,held⟩
      have within : other ∈ State.exclusive
          {state with processed := state.processed ++ [⟨state.clock,index,caller.app,job⟩]} := by
        rw [more]
        exact List.mem_append_left _ inside
      exact within
  | false =>
    obtain ⟨exclusive,unchanged⟩ := lock_refused available
    have blocked : ∃ other ∈ state.exclusive, other.Holds caller.app job.message state.clock := by
      have taken : ¬(state.lock caller.app job).1 = true := by simp [available]
      rw [consistent.lock_iff known,not_not] at taken
      exact taken.2
    refine consistent.ran found next rfl rfl ?_ ?_ consistent.past ?_
    · rw [if_neg (by simp),← List.append_assoc]
      exact List.perm_append_singleton _ _
    · rw [unchanged]
      exact consistent.kept
    · intro execution member
      rcases List.mem_append.mp member with before | last
      · exact consistent.held execution before
      · rw [List.mem_singleton.mp last]
        exact blocked

end

section
variable {state : State} {index : Nat} {caller : Instance} (consistent : Consistent state)
  (found : state.instances[index]? = some caller)

include consistent found

theorem Consistent.lose (position : Nat) :
    Consistent (state.setInstance index {caller with inbox := caller.inbox.eraseIdx position}) := by
  have erased : (caller.inbox.eraseIdx position).Sublist caller.inbox := List.eraseIdx_sublist _ _
  exact consistent.moved found rfl (Keeps.refl _) (fun message member => erased.subset member)
    (fun job member => consistent.accepted caller (List.mem_of_getElem? found) job member)
    (erased.append (List.Sublist.refl _)).subperm

theorem Consistent.handle {position : Nat} {message : Message} (at_ : caller.inbox[position]? = some message) :
    Consistent (state.setInstance index (caller.handle position message)) := by
  have listed := List.mem_of_getElem? found
  have erased : (caller.inbox.eraseIdx position).Sublist caller.inbox := List.eraseIdx_sublist _ _
  have keeps : Keeps caller.config (messageHandlerProcessEvents caller.app caller.config message).2 :=
    handler_keeps caller.config message
  have waiting : ∀ job ∈ caller.waiting, job.message ∈ state.published ∧ Concerns caller.app job.message ∧
      (getEventConfig (messageHandlerProcessEvents caller.app caller.config message).2 job.message).isSome = true := by
    intro job member
    obtain ⟨known,concerns,knows⟩ := consistent.accepted caller listed job member
    exact ⟨known,concerns,keeps _ knows⟩
  cases answer : (messageHandlerProcessEvents caller.app caller.config message).1 with
  | error refusal =>
    simp only [Instance.handle,answer]
    exact consistent.moved found rfl keeps (fun other member => erased.subset member) waiting
      (erased.append (List.Sublist.refl _)).subperm
  | ok exclusive =>
    simp only [Instance.handle,answer]
    refine consistent.moved found rfl keeps (fun other member => erased.subset member) ?_ ?_
    · intro job member
      rcases List.mem_append.mp member with before | last
      · exact waiting job before
      · rw [List.mem_singleton.mp last]
        obtain ⟨known,listens⟩ := consistent.delivered caller listed message (List.mem_of_getElem? at_)
        obtain ⟨tenant,_,event,configured,_⟩ := handler_ok answer
        exact ⟨known,⟨listens,tenant⟩,Option.isSome_iff_exists.mpr ⟨event,configured⟩⟩
    · obtain ⟨small,rfl⟩ := List.getElem?_eq_some_iff.mp at_
      have taken := (List.getElem_cons_eraseIdx_perm small).symm
      refine List.Perm.subperm ?_
      simp only [Instance.messages,List.map_append,List.map_singleton]
      rw [← List.append_assoc]
      refine (List.perm_append_singleton _ _).trans ?_
      rw [← List.cons_append]
      exact List.Perm.append_right _ taken.symm

end

theorem Consistent.step {state next : State} {action : Action} (consistent : Consistent state)
    (taken : step state action = some next) : Consistent next := by
  cases action with
  | wait time =>
    cases taken
    exact consistent.wait time
  | publish tenantId uuid event =>
    simp only [MessageProtocol.step] at taken
    split at taken
    · cases taken
    · rename_i new
      cases taken
      rw [not_or] at new
      exact consistent.publish tenantId uuid event new.1 new.2
  | handle index position =>
    obtain ⟨caller,found,rest⟩ := Option.bind_eq_some_iff.mp taken
    obtain ⟨message,at_,rfl⟩ := Option.map_eq_some_iff.mp rest
    exact consistent.handle found at_
  | start index position =>
    obtain ⟨caller,found,rest⟩ := Option.bind_eq_some_iff.mp taken
    obtain ⟨job,at_,rfl⟩ := Option.map_eq_some_iff.mp rest
    exact consistent.execute found at_
  | lose index position =>
    obtain ⟨caller,found,rfl⟩ := Option.map_eq_some_iff.mp taken
    exact consistent.lose found position
  | restart index =>
    obtain ⟨caller,found,rfl⟩ := Option.map_eq_some_iff.mp taken
    exact consistent.moved found rfl (Keeps.refl _) (by simp) (by simp) List.nil_subperm
  | activate index value =>
    obtain ⟨caller,found,rfl⟩ := Option.map_eq_some_iff.mp taken
    exact consistent.moved found rfl (Keeps.refl _) (fun message member => member)
      (fun job member => consistent.accepted caller (List.mem_of_getElem? found) job member) (List.Subperm.refl _)

theorem consistent_reached {instances : List (Application × Config)} {actions : List Action} {state : State}
    (reached : Transition.run step (State.initial instances) actions = some state) : Consistent state :=
  Transition.invariant step (fun _ _ => True) Consistent (fun _ _ _ consistent _ taken => consistent.step taken)
    (State.initial instances) state actions (initial_consistent instances) (Transition.along_true _ _ _) reached

theorem Consistent.executed_once {state : State} (consistent : Consistent state) (index : Nat) :
    ((state.processed.filter (fun execution => execution.index = index)).map (fun execution =>
      execution.job.message.lockId)).Nodup := by
  cases found : state.instances[index]? with
  | none =>
    have nobody : state.processed.filter (fun execution => execution.index = index) = [] := by
      refine List.filter_eq_nil_iff.mpr (fun execution member own => ?_)
      obtain ⟨caller,at_,_⟩ := consistent.place execution (List.mem_append_left _ member)
      rw [of_decide_eq_true own,found] at at_
      cases at_
    rw [nobody]
    exact List.nodup_nil
  | some caller =>
    refine (consistent.once index caller found).sublist ?_
    rw [List.map_append,State.executed,List.map_map,List.filter_append,List.map_append]
    exact (List.sublist_append_left _ _).trans (List.sublist_append_right _ _)

/-- Two instances of one namespace process a message at a distance of the time of its lock at least, and no instance
processes it twice. -/
theorem message_processed_once (instances : List (Application × Config)) (actions : List Action) (state : State)
    (reached : Transition.run step (State.initial instances) actions = some state) :
    state.exclusive.Pairwise (fun earlier later => earlier.job.message = later.job.message →
      earlier.app.nameSpace = later.app.nameSpace → earlier.until ≤ later.time) ∧
    ∀ index, ((state.processed.filter (fun execution => execution.index = index)).map (fun execution =>
      execution.job.message.lockId)).Nodup := by
  have consistent := consistent_reached reached
  refine ⟨?_,consistent.executed_once⟩
  refine (List.pairwise_map.mp consistent.kept.apart).imp (fun {earlier later} apart same nameSpace => apart ?_)
  rw [Execution.grant,Execution.grant,same]
  exact (lockKey_nameSpace _ _ _).mpr nameSpace

/-- An instance that knows one event and processes the default namespace. -/
def defaultApplication : Application where
  environment := ⟨Dict.empty,"default",[],[]⟩
  call := ⟨"srv",some 0⟩
  compile := fun _ _ => none
  connect := fun _ => none
  nameSpace := "default"
  processingNamespaces := ["default"]
  filters := ⟨none,none⟩
  globalTxTimeout := 1800000

def defaultConfig : Config := ⟨true,fun _ => some ⟨false,⟨none,none⟩⟩,fun _ _ => 0⟩

/-- Both instances have the message in their worker queue, and the first one processes it. -/
def publishedOnce : List Action :=
  [.publish (some "t1") "u1" Broadcast.task,.handle 0 0,.handle 1 0,.wait 5,.start 0 0]

def twoInstances : List (Application × Config) := [(defaultApplication,defaultConfig),(defaultApplication,defaultConfig)]

theorem message_processed_once_two_instances :
    ∃ state, Transition.run step (State.initial twoInstances) (publishedOnce ++ [.start 1 0]) = some state ∧
      state.processed.length = 1 ∧ state.dropped.length = 1 ∧
      state.exclusive.Pairwise (fun earlier later => earlier.job.message = later.job.message →
        earlier.app.nameSpace = later.app.nameSpace → earlier.until ≤ later.time) :=
  ⟨_,rfl,rfl,rfl,(message_processed_once twoInstances (publishedOnce ++ [.start 1 0]) _ rfl).1⟩

end EventQueue.MessageProtocol

import EventQueue.DistributedLock
import EventQueue.Lib.Lease
import EventQueue.Lib.Parties
import EventQueue.Lib.Separated
import EventQueue.Lib.Transition
import Mathlib.Data.List.Destutter
import Mathlib.Tactic

/-! The runs of `_multiTenancyRedis` on any number of instances. A run reads the tenants, lets the periodic events be
updated if they have changed, and then looks for open events unless another instance has done so in this interval.
Both is decided by locks that nobody releases. -/
namespace EventQueue.MultiTenancyRunner

inductive Lock
  | updatePeriodicEvents
  | runRedisCheck
  deriving DecidableEq

def Lock.name : Lock → String
  | .updatePeriodicEvents => "UPDATE_PERIODIC_EVENTS"
  | .runRedisCheck => "RUN_REDIS_CHECK"

structure Application where
  nameSpace : String
  updatePeriodicEvents : Bool
  /-- There is a periodic event. -/
  hasPeriodicEvents : Bool
  /-- `tenantIdFilterEventProcessing` is given. -/
  filtersTenants : Bool
  runInterval : Nat

def lockKey (app : Application) (lock : Lock) : String :=
  DistributedLock.generateKey app.nameSpace none false lock.name false

/-- A minute, and 95 percent of the interval rounded to milliseconds. -/
def expiryTime (app : Application) : Lock → Nat
  | .updatePeriodicEvents => 60 * 1000
  | .runRedisCheck => (95 * app.runInterval + 50) / 100

inductive Outcome
  /-- The tenants could not be read. -/
  | failed
  /-- Another instance updates the periodic events. -/
  | waitsForUpdate
  /-- Another instance looks for open events. -/
  | otherMaster
  | finished
  deriving DecidableEq

inductive Phase
  | fetching
  | lockingUpdate (first : Bool) (tenantIds : List String)
  | updating (tenantIds : List String)
  | lockingMaster (tenantIds : List String)
  | publishing (tenantIds : List String)
  | ended (outcome : Outcome)
  deriving DecidableEq

structure Instance where
  app : Application
  tenantIdHash : Option String

structure Run where
  index : Nat
  phase : Phase

/-- The section that a lock protects was entered, with or without the lock. -/
structure Entered where
  time : Nat
  app : Application
  lock : Lock
  locked : Bool

/-- Tenants that an instance has seen. -/
structure Seen where
  index : Nat
  tenantIds : List String

structure State where
  clock : Nat
  redis : ExpiringStore.Store String String
  instances : List Instance
  runs : List Run
  -- The rest is history that no function reads back.
  entered : List Entered
  fetched : List Seen
  /-- The calls of `_multiTenancyPeriodicEvents`. -/
  attempts : List Seen

def State.initial : State := ⟨0,fun _ => none,[],[],[],[],[]⟩

inductive Action
  | wait (time : Nat)
  | start (app : Application)
  | begin (index : Nat)
  /-- None if reading the tenants fails. -/
  | fetch (run : Nat) (answer : Option (List String))
  | lockUpdate (run : Nat) (fails : Bool)
  | updated (run : Nat)
  | lockMaster (run : Nat) (fails : Bool)
  | finish (run : Nat)

def State.setPhase (state : State) (position : Nat) (run : Run) (phase : Phase) : State :=
  {state with runs := state.runs.set position {run with phase := phase}}

/-- A run goes on without asking for the lock. -/
def State.enter (state : State) (position : Nat) (run : Run) (app : Application) (lock : Lock) (inside : Phase) : State :=
  {state.setPhase position run inside with entered := state.entered ++ [⟨state.clock,app,lock,false⟩]}

def State.acquireLock (state : State) (app : Application) (lock : Lock) : Bool × ExpiringStore.Store String String :=
  Lease.acquire state.redis state.clock (lockKey app lock) (toString state.clock) (expiryTime app lock)

/-- How a run goes on with the lock and without it. -/
def State.acquire (state : State) (position : Nat) (run : Run) (app : Application) (lock : Lock) (inside outside : Phase) :
    State :=
  let (couldAcquireLock,redis) := state.acquireLock app lock
  if couldAcquireLock then
    {state.setPhase position run inside with
      redis := redis
      entered := state.entered ++ [⟨state.clock,app,lock,true⟩]}
  else {state.setPhase position run outside with redis := redis}

section
variable (hash : List String → String)

/-- `_checkPeriodicEventUpdate` up to its first await: what comes next, and the hash that is kept if the periodic
events have to be updated. -/
def checkPeriodicEventUpdate (caller : Instance) (tenantIds : List String) : Phase × Option String :=
  if !caller.app.updatePeriodicEvents || !caller.app.hasPeriodicEvents then (.lockingMaster tenantIds,none)
  else match caller.tenantIdHash with
    | none => (.lockingUpdate true tenantIds,some (hash tenantIds))
    | some known =>
      if known ≠ hash tenantIds then (.lockingUpdate false tenantIds,some (hash tenantIds))
      else (.lockingMaster tenantIds,none)

def State.fetch (state : State) (position : Nat) (run : Run) (caller : Instance) (tenantIds : List String) : State :=
  let next := checkPeriodicEventUpdate hash caller tenantIds
  let seen : Seen := ⟨run.index,tenantIds⟩
  {state.setPhase position run next.1 with
    instances := if next.2.isSome then state.instances.set run.index {caller with tenantIdHash := next.2}
      else state.instances
    fetched := state.fetched ++ [seen]
    attempts := if next.2.isSome then state.attempts ++ [seen] else state.attempts}

/-- Only the first update has to succeed before the instance looks for events. -/
def refused (first : Bool) (tenantIds : List String) : Phase :=
  if first then .ended .waitsForUpdate else .lockingMaster tenantIds

/-- `_multiTenancyPeriodicEvents` until the lock is there; an error is as good as a refusal. -/
def State.lockUpdate (state : State) (position : Nat) (run : Run) (app : Application) (first : Bool)
    (tenantIds : List String) (fails : Bool) : State :=
  if app.filtersTenants then state.enter position run app .updatePeriodicEvents (.updating tenantIds)
  else if fails then state.setPhase position run (refused first tenantIds)
  else state.acquire position run app .updatePeriodicEvents (.updating tenantIds) (refused first tenantIds)

/-- The beginning of `_executeEventsAllTenantsRedis`. After an error it goes on without the lock. -/
def State.lockMaster (state : State) (position : Nat) (run : Run) (app : Application) (tenantIds : List String)
    (fails : Bool) : State :=
  if app.filtersTenants || fails then state.enter position run app .runRedisCheck (.publishing tenantIds)
  else state.acquire position run app .runRedisCheck (.publishing tenantIds) (.ended .otherMaster)

def stepRun (state : State) (position : Nat) (run : Run) (caller : Instance) : Action → Option State
  | .fetch _ answer =>
    match run.phase,answer with
    | .fetching,none => some (state.setPhase position run (.ended .failed))
    | .fetching,some tenantIds => some (state.fetch hash position run caller tenantIds)
    | _,_ => none
  | .lockUpdate _ fails =>
    match run.phase with
    | .lockingUpdate first tenantIds => some (state.lockUpdate position run caller.app first tenantIds fails)
    | _ => none
  | .updated _ =>
    match run.phase with
    | .updating tenantIds => some (state.setPhase position run (.lockingMaster tenantIds))
    | _ => none
  | .lockMaster _ fails =>
    match run.phase with
    | .lockingMaster tenantIds => some (state.lockMaster position run caller.app tenantIds fails)
    | _ => none
  | .finish _ =>
    match run.phase with
    | .publishing _ => some (state.setPhase position run (.ended .finished))
    | _ => none
  | _ => none

def Action.run : Action → Nat
  | .fetch run _ => run
  | .lockUpdate run _ => run
  | .updated run => run
  | .lockMaster run _ => run
  | .finish run => run
  | _ => 0

def step (state : State) : Action → Option State
  | .wait time => some {state with clock := state.clock + time}
  | .start app => some {state with instances := state.instances ++ [⟨app,none⟩]}
  | .begin index =>
    if index < state.instances.length then some {state with runs := state.runs ++ [⟨index,.fetching⟩]} else none
  | action => state.runs[action.run]?.bind (fun run => state.instances[run.index]?.bind (fun caller =>
    stepRun hash state action.run run caller action))

end

def State.locked (state : State) : List Entered := state.entered.filter Entered.locked

def Entered.until (entered : Entered) : Nat := entered.time + expiryTime entered.app entered.lock

def Entered.grant (entered : Entered) : Lease.Grant String :=
  ⟨lockKey entered.app entered.lock,entered.time,entered.until⟩

theorem acquire_granted {state : State} {position : Nat} {run : Run} {app : Application} {lock : Lock}
    {inside outside : Phase} (granted : (state.acquireLock app lock).1 = true) :
    state.acquire position run app lock inside outside =
      {state.setPhase position run inside with
        redis := (state.acquireLock app lock).2
        entered := state.entered ++ [⟨state.clock,app,lock,true⟩]} := by
  simp [State.acquire,granted]

theorem acquire_refused {state : State} {position : Nat} {run : Run} {app : Application} {lock : Lock}
    {inside outside : Phase} (refused : (state.acquireLock app lock).1 = false) :
    state.acquire position run app lock inside outside = state.setPhase position run outside := by
  have unchanged : (state.acquireLock app lock).2 = state.redis := Lease.acquire_refused _ _ refused
  simp [State.acquire,refused,unchanged,State.setPhase]

/-- An instance of the namespace has entered the section with the lock, which is still there at the time. -/
def Entered.Holds (entered : Entered) (app : Application) (lock : Lock) (time : Nat) : Prop :=
  entered.app.nameSpace = app.nameSpace ∧ entered.lock = lock ∧ entered.time ≤ time ∧ time < entered.until

structure Locking (state : State) : Prop where
  kept : Lease.Kept state.redis (state.locked.map Entered.grant) state.clock
  past : ∀ entered ∈ state.entered, entered.time ≤ state.clock

theorem lockKey_iff (app other : Application) (lock another : Lock) :
    lockKey app lock = lockKey other another ↔ app.nameSpace = other.nameSpace ∧ lock = another := by
  constructor
  · intro same
    have texts := congrArg String.toList same
    have plain (lock : Lock) : '#' ∉ lock.name.toList := by cases lock <;> decide
    have parts (app : Application) (lock : Lock) : (lockKey app lock).toList =
        ((DistributedLock.redisNamespace app.nameSpace true).toList ++ ['#']) ++ '#'::lock.name.toList := by
      simp [lockKey,DistributedLock.generateKey,String.intercalate_cons_cons]
    rw [parts,parts] at texts
    obtain ⟨front,last⟩ := Separated.plain_last_inj (plain lock) (plain another) texts
    refine ⟨DistributedLock.redisNamespace_inj (String.toList_injective (List.append_cancel_right front)),?_⟩
    have names := String.toList_injective last
    revert names
    cases lock <;> cases another <;> decide
  · intro same
    rw [lockKey,lockKey,same.1,same.2]

theorem initial_locking : Locking State.initial := ⟨Lease.kept_empty 0,by simp [State.initial]⟩

section
variable {state : State} (locking : Locking state)

include locking

/-- Nothing but the clock and the runs has changed. -/
theorem Locking.same {next : State} (redis : next.redis = state.redis) (clock : state.clock ≤ next.clock)
    (entered : next.entered = state.entered) : Locking next := by
  refine ⟨?_,?_⟩
  · rw [redis,State.locked,entered]
    exact locking.kept.later clock
  · intro other member
    rw [entered] at member
    exact Nat.le_trans (locking.past other member) clock

theorem Locking.past_snoc (app : Application) (lock : Lock) (locked : Bool) :
    ∀ entered ∈ state.entered ++ [⟨state.clock,app,lock,locked⟩], entered.time ≤ state.clock := by
  intro entered member
  rcases List.mem_append.mp member with before | last
  · exact locking.past entered before
  · rw [List.mem_singleton.mp last]

theorem Locking.enter (position : Nat) (run : Run) (app : Application) (lock : Lock) (inside : Phase) :
    Locking (state.enter position run app lock inside) := by
  refine ⟨?_,locking.past_snoc app lock false⟩
  have same : (state.enter position run app lock inside).locked = state.locked := by
    simp [State.locked,State.enter]
  rw [same]
  exact locking.kept

theorem Locking.acquire (position : Nat) (run : Run) (app : Application) (lock : Lock) (inside outside : Phase) :
    Locking (state.acquire position run app lock inside outside) := by
  cases given : (state.acquireLock app lock).1 with
  | true =>
    rw [acquire_granted given]
    refine ⟨?_,locking.past_snoc app lock true⟩
    have more : (state.entered ++ [Entered.mk state.clock app lock true]).filter Entered.locked =
        state.locked ++ [Entered.mk state.clock app lock true] := by simp [State.locked]
    change Lease.Kept (state.acquireLock app lock).2
      (((state.entered ++ [Entered.mk state.clock app lock true]).filter Entered.locked).map Entered.grant) state.clock
    rw [more,List.map_append,List.map_singleton]
    exact locking.kept.acquire_granted _ _ given
  | false =>
    rw [acquire_refused given]
    exact locking.same rfl (Nat.le_refl _) rfl

/-- The section is held by another instance of the namespace. -/
theorem Locking.lock_iff (app : Application) (lock : Lock) :
    (state.acquireLock app lock).1 = true ↔ ¬∃ entered ∈ state.locked, entered.Holds app lock state.clock := by
  rw [State.acquireLock,locking.kept.acquire_iff]
  simp only [Lease.Free,List.mem_map,forall_exists_index,and_imp,forall_apply_eq_imp_iff₂,not_exists,not_and]
  refine forall₂_congr (fun entered member => ?_)
  rw [show entered.grant.key = lockKey entered.app entered.lock from rfl,lockKey_iff]
  have past := locking.past entered (List.mem_filter.mp member).1
  constructor
  · intro free holds
    obtain ⟨nameSpace,same,_,valid⟩ := holds
    exact Nat.not_le_of_lt valid (free ⟨nameSpace,same⟩)
  · intro none same
    exact Nat.le_of_not_lt (fun valid => none ⟨same.1,same.2,past,valid⟩)

end

section
variable {hash : List String → String}

theorem Locking.fetch {state : State} (locking : Locking state) (position : Nat) (run : Run) (caller : Instance)
    (tenantIds : List String) : Locking (state.fetch hash position run caller tenantIds) := by
  exact locking.same rfl (Nat.le_refl _) rfl

theorem Locking.lockUpdate {state : State} (locking : Locking state) (position : Nat) (run : Run) (app : Application)
    (first : Bool) (tenantIds : List String) (fails : Bool) :
    Locking (state.lockUpdate position run app first tenantIds fails) := by
  unfold State.lockUpdate
  split
  · exact locking.enter position run app _ _
  · split
    · exact locking.same rfl (Nat.le_refl _) rfl
    · exact locking.acquire position run app _ _ _

theorem Locking.lockMaster {state : State} (locking : Locking state) (position : Nat) (run : Run) (app : Application)
    (tenantIds : List String) (fails : Bool) : Locking (state.lockMaster position run app tenantIds fails) := by
  unfold State.lockMaster
  split
  · exact locking.enter position run app _ _
  · exact locking.acquire position run app _ _ _

end

theorem destutter'_snoc (first last : String) (list : List String) :
    (list ++ [last]).destutter' (· ≠ ·) first =
      if (first::list).getLast? = some last then list.destutter' (· ≠ ·) first
      else list.destutter' (· ≠ ·) first ++ [last] := by
  induction list generalizing first with
  | nil =>
    by_cases same : first = last
    · simp [same]
    · simp [same]
  | cons next rest ih =>
    rw [List.cons_append,List.getLast?_cons_cons]
    by_cases same : first = next
    · subst same
      rw [List.destutter'_cons_neg _ (by simp),List.destutter'_cons_neg _ (by simp)]
      exact ih first
    · rw [List.destutter'_cons_pos _ same,List.destutter'_cons_pos _ same,ih next]
      split <;> rfl

/-- A text at the end stays unless it repeats the last one. -/
theorem destutter_snoc (list : List String) (last : String) :
    (list ++ [last]).destutter (· ≠ ·) =
      if list.getLast? = some last then list.destutter (· ≠ ·) else list.destutter (· ≠ ·) ++ [last] := by
  cases list with
  | nil => simp
  | cons first rest =>
    rw [List.cons_append,List.destutter_cons',List.destutter_cons']
    exact destutter'_snoc first last rest

/-- What an instance has seen. -/
def tenantsOf (log : List Seen) (index : Nat) : List (List String) :=
  (log.filter (fun seen => seen.index = index)).map Seen.tenantIds

def Application.updates (app : Application) : Bool := app.updatePeriodicEvents && app.hasPeriodicEvents

/-- The first update of the instance is not done. -/
def waits (index : Nat) (run : Run) : Bool :=
  decide (run.index = index) && match run.phase with
    | .lockingUpdate true _ => true
    | .ended .waitsForUpdate => true
    | _ => false

theorem tenantsOf_snoc (log : List Seen) (seen : Seen) (index : Nat) :
    tenantsOf (log ++ [seen]) index = tenantsOf log index ++ if seen.index = index then [seen.tenantIds] else [] := by
  unfold tenantsOf
  rw [List.filter_append,List.map_append]
  by_cases own : seen.index = index
  · simp [own]
  · simp [own]

section
variable (hash : List String → String)

structure Followed (state : State) : Prop where
  started : ∀ seen ∈ state.fetched ++ state.attempts, seen.index < state.instances.length
  quiet : ∀ index caller, state.instances[index]? = some caller → caller.app.updates = false →
    tenantsOf state.attempts index = []
  last : ∀ index caller, state.instances[index]? = some caller → caller.app.updates = true →
    caller.tenantIdHash = ((tenantsOf state.fetched index).map hash).getLast?
  attempts : ∀ index caller, state.instances[index]? = some caller → caller.app.updates = true →
    (tenantsOf state.attempts index).map hash = ((tenantsOf state.fetched index).map hash).destutter (· ≠ ·)
  waiting : ∀ index, state.runs.countP (waits index) ≤ 1 ∧
    (tenantsOf state.attempts index = [] → state.runs.countP (waits index) = 0)

end

theorem checkPeriodicEventUpdate_cases (hash : List String → String) (caller : Instance) (tenantIds : List String) :
    caller.app.updates = false ∧ checkPeriodicEventUpdate hash caller tenantIds = (.lockingMaster tenantIds,none) ∨
    caller.app.updates = true ∧ caller.tenantIdHash ≠ some (hash tenantIds) ∧
      checkPeriodicEventUpdate hash caller tenantIds =
        (.lockingUpdate caller.tenantIdHash.isNone tenantIds,some (hash tenantIds)) ∨
    caller.app.updates = true ∧ caller.tenantIdHash = some (hash tenantIds) ∧
      checkPeriodicEventUpdate hash caller tenantIds = (.lockingMaster tenantIds,none) := by
  unfold checkPeriodicEventUpdate Application.updates
  cases caller.app.updatePeriodicEvents <;> cases caller.app.hasPeriodicEvents <;> simp
  cases known : caller.tenantIdHash with
  | none => simp
  | some text => by_cases same : text = hash tenantIds <;> simp [same]

theorem initial_followed (hash : List String → String) : Followed hash State.initial :=
  ⟨by simp [State.initial],by simp [State.initial],by simp [State.initial],by simp [State.initial],
    by simp [State.initial]⟩

theorem countP_waits {runs : List Run} {position : Nat} {run : Run} (found : runs[position]? = some run) (phase : Phase)
    (index : Nat) (fewer : waits index {run with phase := phase} = true → waits index run = true) :
    (runs.set position {run with phase := phase}).countP (waits index) ≤ runs.countP (waits index) := by
  have moved := Parties.countP_moved (waits index) {run with phase := phase} found
  cases before : waits index run with
  | true =>
    rw [before,if_pos rfl] at moved
    split at moved <;> omega
  | false =>
    have after : waits index {run with phase := phase} = false := by
      rw [before] at fewer
      simpa using fewer
    rw [before,after] at moved
    simpa using moved.le

section
variable {hash : List String → String} {state : State} (followed : Followed hash state)

include followed

/-- A run goes on, and no instance has to wait that did not before. -/
theorem Followed.phase {next : State} {position : Nat} {run : Run} (found : state.runs[position]? = some run)
    {phase : Phase} (runs : next.runs = state.runs.set position {run with phase := phase})
    (instances : next.instances = state.instances) (fetched : next.fetched = state.fetched)
    (attempts : next.attempts = state.attempts)
    (fewer : ∀ index, waits index {run with phase := phase} = true → waits index run = true) : Followed hash next := by
  refine ⟨?_,?_,?_,?_,?_⟩
  · rw [instances,fetched,attempts]
    exact followed.started
  · rw [instances,attempts]
    exact followed.quiet
  · rw [instances,fetched]
    exact followed.last
  · rw [instances,fetched,attempts]
    exact followed.attempts
  · intro index
    obtain ⟨atMost,nobody⟩ := followed.waiting index
    have count := countP_waits found phase index (fewer index)
    rw [runs,attempts]
    exact ⟨by omega,fun none => by have := nobody none; omega⟩

theorem Followed.begin (index : Nat) : Followed hash {state with runs := state.runs ++ [⟨index,.fetching⟩]} := by
  refine {followed with waiting := ?_}
  intro other
  have same : (state.runs ++ [Run.mk index .fetching]).countP (waits other) = state.runs.countP (waits other) := by
    simp [List.countP_append,waits]
  rw [same]
  exact followed.waiting other

omit followed in
theorem tenantsOf_none {log : List Seen} {index : Nat} (before : ∀ seen ∈ log, seen.index < index) :
    tenantsOf log index = [] := by
  rw [tenantsOf,List.map_eq_nil_iff,List.filter_eq_nil_iff]
  intro seen member same
  have less := before seen member
  simp only [decide_eq_true_eq] at same
  omega

theorem Followed.start (app : Application) : Followed hash {state with instances := state.instances ++ [⟨app,none⟩]} := by
  have fetched : tenantsOf state.fetched state.instances.length = [] :=
    tenantsOf_none (fun seen member => followed.started seen (List.mem_append_left _ member))
  have attempts : tenantsOf state.attempts state.instances.length = [] :=
    tenantsOf_none (fun seen member => followed.started seen (List.mem_append_right _ member))
  refine ⟨?_,?_,?_,?_,followed.waiting⟩
  · intro seen member
    have before := followed.started seen member
    simp only [List.length_append,List.length_singleton]
    omega
  · intro index caller found quiet
    rcases Parties.getElem?_joined found with before | ⟨rfl,rfl⟩
    · exact followed.quiet index caller before quiet
    · exact attempts
  · intro index caller found updates
    rcases Parties.getElem?_joined found with before | ⟨rfl,rfl⟩
    · exact followed.last index caller before updates
    · simp [fetched]
  · intro index caller found updates
    rcases Parties.getElem?_joined found with before | ⟨rfl,rfl⟩
    · exact followed.attempts index caller before updates
    · simp [fetched,attempts]

/-- Without a hash the instance has not seen any tenants. -/
theorem Followed.unseen {index : Nat} {caller : Instance} (found : state.instances[index]? = some caller)
    (updates : caller.app.updates = true) (unset : caller.tenantIdHash = none) : tenantsOf state.attempts index = [] := by
  have last := followed.last index caller found updates
  rw [unset,eq_comm,List.getLast?_eq_none_iff] at last
  have attempts := followed.attempts index caller found updates
  rw [last,List.destutter_nil,List.map_eq_nil_iff] at attempts
  exact attempts

/-- Tenants were read and nothing has to be updated. -/
theorem Followed.unchanged {next : State} {position : Nat} {run : Run} (found : state.runs[position]? = some run)
    {caller : Instance} (own : state.instances[run.index]? = some caller) {tenantIds : List String}
    (same : caller.app.updates = true → caller.tenantIdHash = some (hash tenantIds))
    (runs : next.runs = state.runs.set position {run with phase := .lockingMaster tenantIds})
    (instances : next.instances = state.instances) (fetched : next.fetched = state.fetched ++ [⟨run.index,tenantIds⟩])
    (attempts : next.attempts = state.attempts) : Followed hash next := by
  have inside := (List.getElem?_eq_some_iff.mp own).1
  refine ⟨?_,?_,?_,?_,?_⟩
  · intro seen member
    rw [instances]
    rw [fetched,attempts,List.append_assoc,List.mem_append,List.mem_append,List.mem_singleton] at member
    rcases member with before | rfl | before
    · exact followed.started seen (List.mem_append_left _ before)
    · exact inside
    · exact followed.started seen (List.mem_append_right _ before)
  · rw [instances,attempts]
    exact followed.quiet
  · intro index other at_ updates
    rw [instances] at at_
    have before := followed.last index other at_ updates
    rw [fetched,tenantsOf_snoc]
    by_cases here : run.index = index
    · subst here
      cases own.symm.trans at_
      rw [if_pos rfl,List.map_append,List.map_singleton,List.getLast?_concat]
      exact same updates
    · rw [if_neg here,List.append_nil]
      exact before
  · intro index other at_ updates
    rw [instances] at at_
    have before := followed.attempts index other at_ updates
    rw [fetched,attempts,tenantsOf_snoc]
    by_cases here : run.index = index
    · subst here
      cases own.symm.trans at_
      have last := followed.last run.index caller own updates
      rw [same updates] at last
      rw [if_pos rfl,List.map_append,List.map_singleton,destutter_snoc,if_pos last.symm]
      exact before
    · rw [if_neg here,List.append_nil]
      exact before
  · intro index
    obtain ⟨atMost,nobody⟩ := followed.waiting index
    have count := countP_waits found (.lockingMaster tenantIds) index (by simp [waits])
    rw [runs,attempts]
    exact ⟨by omega,fun none => by have := nobody none; omega⟩

/-- Other tenants than before were read, or the first ones. -/
theorem Followed.changed {next : State} {position : Nat} {run : Run} (found : state.runs[position]? = some run)
    {caller : Instance} (own : state.instances[run.index]? = some caller) {tenantIds : List String}
    (updates : caller.app.updates = true) (differ : caller.tenantIdHash ≠ some (hash tenantIds))
    (runs : next.runs = state.runs.set position
      {run with phase := .lockingUpdate caller.tenantIdHash.isNone tenantIds})
    (instances : next.instances = state.instances.set run.index {caller with tenantIdHash := some (hash tenantIds)})
    (fetched : next.fetched = state.fetched ++ [⟨run.index,tenantIds⟩])
    (attempts : next.attempts = state.attempts ++ [⟨run.index,tenantIds⟩]) : Followed hash next := by
  have inside := (List.getElem?_eq_some_iff.mp own).1
  refine ⟨?_,?_,?_,?_,?_⟩
  · intro seen member
    rw [instances,List.length_set]
    rw [fetched,attempts,List.mem_append,List.mem_append,List.mem_append,List.mem_singleton] at member
    rcases member with (before | rfl) | before | rfl
    · exact followed.started seen (List.mem_append_left _ before)
    · exact inside
    · exact followed.started seen (List.mem_append_right _ before)
    · exact inside
  · intro index other at_ quiet
    rw [instances] at at_
    rw [attempts,tenantsOf_snoc]
    rcases Parties.getElem?_moved own at_ with ⟨rfl,rfl⟩ | ⟨apart,before⟩
    · rw [updates] at quiet
      cases quiet
    · rw [if_neg (Ne.symm apart),List.append_nil]
      exact followed.quiet index other before quiet
  · intro index other at_ active
    rw [instances] at at_
    rw [fetched,tenantsOf_snoc]
    rcases Parties.getElem?_moved own at_ with ⟨rfl,rfl⟩ | ⟨apart,before⟩
    · rw [if_pos rfl,List.map_append,List.map_singleton,List.getLast?_concat]
    · rw [if_neg (Ne.symm apart),List.append_nil]
      exact followed.last index other before active
  · intro index other at_ active
    rw [instances] at at_
    rw [fetched,attempts,tenantsOf_snoc,tenantsOf_snoc]
    rcases Parties.getElem?_moved own at_ with ⟨rfl,rfl⟩ | ⟨apart,before⟩
    · have last := followed.last run.index caller own updates
      rw [if_pos rfl,List.map_append,List.map_append,List.map_singleton,destutter_snoc,
        if_neg (fun same => differ (last.trans same)),followed.attempts run.index caller own updates]
    · rw [if_neg (Ne.symm apart),List.append_nil,List.append_nil]
      exact followed.attempts index other before active
  · intro index
    obtain ⟨atMost,nobody⟩ := followed.waiting index
    rw [runs,attempts,tenantsOf_snoc]
    have moved := Parties.countP_moved (waits index)
      {run with phase := .lockingUpdate caller.tenantIdHash.isNone tenantIds} found
    by_cases here : run.index = index
    · subst here
      rw [if_pos rfl]
      refine ⟨?_,by simp⟩
      cases known : caller.tenantIdHash with
      | none =>
        have before := nobody (followed.unseen own updates known)
        rw [known] at moved
        split at moved <;> split at moved <;> omega
      | some text =>
        have quiet : waits run.index {run with phase := .lockingUpdate (some text).isNone tenantIds} = false := by
          simp [waits]
        rw [known,quiet] at moved
        split at moved <;> simp at moved ⊢ <;> omega
    · have quiet : waits index {run with phase := .lockingUpdate caller.tenantIdHash.isNone tenantIds} = false := by
        simp [waits,here]
      have before : waits index run = false := by simp [waits,here]
      rw [quiet,before] at moved
      rw [if_neg here,List.append_nil]
      simp only [Bool.false_eq_true,if_false,Nat.add_zero] at moved
      rw [moved]
      exact ⟨atMost,nobody⟩

theorem Followed.fetch {position : Nat} {run : Run} (found : state.runs[position]? = some run)
    {caller : Instance} (own : state.instances[run.index]? = some caller) (tenantIds : List String) :
    Followed hash (state.fetch hash position run caller tenantIds) := by
  rcases checkPeriodicEventUpdate_cases hash caller tenantIds with ⟨quiet,next⟩ | ⟨updates,differ,next⟩ | ⟨_,same,next⟩
  · refine followed.unchanged found own (fun updates => ?_) (by simp [State.fetch,next,State.setPhase])
      (by simp [State.fetch,next]) rfl (by simp [State.fetch,next])
    rw [updates] at quiet
    cases quiet
  · exact followed.changed found own updates differ (by simp [State.fetch,next,State.setPhase])
      (by simp [State.fetch,next]) rfl (by simp [State.fetch,next])
  · exact followed.unchanged found own (fun _ => same) (by simp [State.fetch,next,State.setPhase])
      (by simp [State.fetch,next]) rfl (by simp [State.fetch,next])

theorem Followed.enter {position : Nat} {run : Run} (found : state.runs[position]? = some run) (app : Application)
    (lock : Lock) {inside : Phase} (fewer : ∀ index, waits index {run with phase := inside} = true →
      waits index run = true) : Followed hash (state.enter position run app lock inside) :=
  followed.phase found rfl rfl rfl rfl fewer

theorem Followed.acquire {position : Nat} {run : Run} (found : state.runs[position]? = some run) (app : Application)
    (lock : Lock) {inside outside : Phase}
    (inner : ∀ index, waits index {run with phase := inside} = true → waits index run = true)
    (outer : ∀ index, waits index {run with phase := outside} = true → waits index run = true) :
    Followed hash (state.acquire position run app lock inside outside) := by
  cases given : (state.acquireLock app lock).1 with
  | true =>
    rw [acquire_granted given]
    exact followed.phase found rfl rfl rfl rfl inner
  | false =>
    rw [acquire_refused given]
    exact followed.phase found rfl rfl rfl rfl outer

theorem Followed.lockUpdate {position : Nat} {run : Run} (found : state.runs[position]? = some run) (app : Application)
    {first : Bool} {tenantIds : List String} (phase : run.phase = .lockingUpdate first tenantIds) (fails : Bool) :
    Followed hash (state.lockUpdate position run app first tenantIds fails) := by
  have inner : ∀ index, waits index {run with phase := .updating tenantIds} = true → waits index run = true := by
    simp [waits]
  have outer : ∀ index, waits index {run with phase := refused first tenantIds} = true → waits index run = true := by
    intro index
    cases first <;> simp [waits,refused,phase]
  unfold State.lockUpdate
  split
  · exact followed.enter found app _ inner
  · split
    · exact followed.phase found rfl rfl rfl rfl outer
    · exact followed.acquire found app _ inner outer

theorem Followed.lockMaster {position : Nat} {run : Run} (found : state.runs[position]? = some run) (app : Application)
    (tenantIds : List String) (fails : Bool) : Followed hash (state.lockMaster position run app tenantIds fails) := by
  unfold State.lockMaster
  split
  · exact followed.enter found app _ (by simp [waits])
  · exact followed.acquire found app _ (by simp [waits]) (by simp [waits])

end

/-- Both invariants, step by step. -/
structure Sound (hash : List String → String) (state : State) : Prop where
  locking : Locking state
  followed : Followed hash state

section
variable {hash : List String → String} {state next : State}

theorem Sound.stepRun (sound : Sound hash state) {position : Nat} {run : Run} (found : state.runs[position]? = some run)
    {caller : Instance} (own : state.instances[run.index]? = some caller) {action : Action}
    (taken : stepRun hash state position run caller action = some next) : Sound hash next := by
  obtain ⟨locking,followed⟩ := sound
  cases action with
  | fetch _ answer =>
    simp only [MultiTenancyRunner.stepRun] at taken
    split at taken
    · cases taken
      exact ⟨locking.same rfl (Nat.le_refl _) rfl,followed.phase found rfl rfl rfl rfl (by simp [waits])⟩
    · rename_i tenantIds _
      cases taken
      exact ⟨locking.fetch position run caller tenantIds,followed.fetch found own tenantIds⟩
    · cases taken
  | lockUpdate _ fails =>
    simp only [MultiTenancyRunner.stepRun] at taken
    split at taken
    · rename_i first tenantIds phase
      cases taken
      exact ⟨locking.lockUpdate position run caller.app first tenantIds fails,
        followed.lockUpdate found caller.app phase fails⟩
    · cases taken
  | updated _ =>
    simp only [MultiTenancyRunner.stepRun] at taken
    split at taken
    · cases taken
      exact ⟨locking.same rfl (Nat.le_refl _) rfl,followed.phase found rfl rfl rfl rfl (by simp [waits])⟩
    · cases taken
  | lockMaster _ fails =>
    simp only [MultiTenancyRunner.stepRun] at taken
    split at taken
    · rename_i tenantIds _
      cases taken
      exact ⟨locking.lockMaster position run caller.app tenantIds fails,
        followed.lockMaster found caller.app tenantIds fails⟩
    · cases taken
  | finish _ =>
    simp only [MultiTenancyRunner.stepRun] at taken
    split at taken
    · cases taken
      exact ⟨locking.same rfl (Nat.le_refl _) rfl,followed.phase found rfl rfl rfl rfl (by simp [waits])⟩
    · cases taken
  | wait time => cases taken
  | start app => cases taken
  | begin index => cases taken

theorem Sound.step (sound : Sound hash state) {action : Action} (taken : step hash state action = some next) :
    Sound hash next := by
  have going {action : Action} (moved : state.runs[action.run]?.bind (fun run =>
      state.instances[run.index]?.bind (fun caller =>
        MultiTenancyRunner.stepRun hash state action.run run caller action)) = some next) : Sound hash next := by
    obtain ⟨run,found,rest⟩ := Option.bind_eq_some_iff.mp moved
    obtain ⟨caller,own,last⟩ := Option.bind_eq_some_iff.mp rest
    exact sound.stepRun found own last
  cases action with
  | wait time =>
    cases taken
    exact ⟨sound.locking.same rfl (Nat.le_add_right _ _) rfl,{sound.followed with}⟩
  | start app =>
    cases taken
    exact ⟨sound.locking.same rfl (Nat.le_refl _) rfl,sound.followed.start app⟩
  | begin index =>
    simp only [MultiTenancyRunner.step] at taken
    split at taken
    · cases taken
      exact ⟨sound.locking.same rfl (Nat.le_refl _) rfl,sound.followed.begin index⟩
    · cases taken
  | fetch run answer => exact going taken
  | lockUpdate run fails => exact going taken
  | updated run => exact going taken
  | lockMaster run fails => exact going taken
  | finish run => exact going taken

theorem sound_reached {actions : List Action} (reached : Transition.run (step hash) State.initial actions = some state) :
    Sound hash state :=
  Transition.invariant (MultiTenancyRunner.step hash) (fun _ _ => True) (Sound hash)
    (fun _ _ _ sound _ taken => sound.step taken) State.initial state actions
    ⟨initial_locking,initial_followed hash⟩ (Transition.along_true _ _ _) reached

end

/-- Two runs of a namespace that enter a section with its lock do so at a distance of the time of the lock at least, on
whatever instances they are. -/
theorem locked_sections_apart (hash : List String → String) (actions : List Action) (state : State)
    (reached : Transition.run (step hash) State.initial actions = some state) :
    state.locked.Pairwise (fun earlier later => earlier.app.nameSpace = later.app.nameSpace →
      earlier.lock = later.lock → earlier.until ≤ later.time) := by
  have apart := (sound_reached reached).locking.kept.apart
  refine (List.pairwise_map.mp apart).imp (fun {earlier later} apart nameSpace lock => apart ?_)
  exact (lockKey_iff _ _ _ _).mpr ⟨nameSpace,lock⟩

/-- A database with a periodic event. -/
def defaultApplication : Application := ⟨"default",true,true,false,1500000⟩

/-- Two instances read the tenants, and the first one updates the periodic events and looks for open events. -/
def firstMaster : List Action :=
  [.start defaultApplication,.start defaultApplication,.begin 0,.begin 1,.fetch 0 (some ["t1","t2"]),
    .fetch 1 (some ["t1","t2"]),.lockUpdate 0 false,.wait 3,.updated 0,.lockMaster 0 false]

def joinTenants (tenantIds : List String) : String := String.join tenantIds

/-- The second instance has waited for the first update and looks for open events in the next interval. -/
theorem locked_sections_apart_two_masters :
    ∃ state, Transition.run (step joinTenants) State.initial (firstMaster ++ [.lockUpdate 1 false,.wait 1425000,.begin 1,
        .fetch 2 (some ["t1","t2"]),.lockMaster 2 false]) = some state ∧ state.locked.length = 3 ∧
      state.locked.Pairwise (fun earlier later => earlier.app.nameSpace = later.app.nameSpace →
        earlier.lock = later.lock → earlier.until ≤ later.time) :=
  ⟨_,rfl,by decide,locked_sections_apart joinTenants (firstMaster ++ [.lockUpdate 1 false,.wait 1425000,.begin 1,
    .fetch 2 (some ["t1","t2"]),.lockMaster 2 false]) _ rfl⟩

/-- A run does not look for open events iff the instance has to ask for the lock, gets an answer, and a run of the
namespace has the lock. -/
theorem other_master_iff (hash : List String → String) (actions : List Action) (state : State)
    (reached : Transition.run (step hash) State.initial actions = some state) (position : Nat) (run : Run)
    (found : state.runs[position]? = some run) (caller : Instance) (own : state.instances[run.index]? = some caller)
    (tenantIds : List String) (phase : run.phase = .lockingMaster tenantIds) (fails : Bool) :
    ∃ after, step hash state (.lockMaster position fails) = some after ∧
      (caller.app.filtersTenants = false ∧ fails = false ∧
          (∃ entered ∈ state.locked, entered.Holds caller.app .runRedisCheck state.clock) →
        after.runs[position]? = some {run with phase := .ended .otherMaster} ∧ after.entered = state.entered) ∧
      (¬(caller.app.filtersTenants = false ∧ fails = false ∧
          ∃ entered ∈ state.locked, entered.Holds caller.app .runRedisCheck state.clock) →
        after.runs[position]? = some {run with phase := .publishing tenantIds} ∧
        after.entered.length = state.entered.length + 1) := by
  have locking := (sound_reached reached).locking
  have inside := (List.getElem?_eq_some_iff.mp found).1
  have taken : step hash state (.lockMaster position fails) =
      some (state.lockMaster position run caller.app tenantIds fails) := by
    simp [step,Action.run,found,own,stepRun,phase]
  refine ⟨_,taken,?_,?_⟩
  · intro held
    obtain ⟨asks,answered,holds⟩ := held
    have refused : (state.acquireLock caller.app .runRedisCheck).1 = false := by
      rw [← Bool.not_eq_true,locking.lock_iff,not_not]
      exact holds
    simp [State.lockMaster,asks,answered,acquire_refused refused,State.setPhase,inside]
  · intro free
    unfold State.lockMaster
    split
    · simp [State.enter,State.setPhase,inside]
    · rename_i asks
      simp only [Bool.or_eq_true,not_or,Bool.not_eq_true] at asks
      have given := (locking.lock_iff caller.app .runRedisCheck).mpr (fun holds => free ⟨asks.1,asks.2,holds⟩)
      simp [acquire_granted given,State.setPhase,inside]

theorem other_master_iff_second_instance :
    ∃ state after, Transition.run (step joinTenants) State.initial (firstMaster ++ [.wait 60000,.lockUpdate 1 false,
        .updated 1]) = some state ∧ step joinTenants state (.lockMaster 1 false) = some after ∧
      after.runs[1]? = some ⟨1,.ended .otherMaster⟩ := by
  obtain ⟨after,taken,held,_⟩ := other_master_iff joinTenants (firstMaster ++ [.wait 60000,.lockUpdate 1 false,.updated 1])
    _ rfl 1 _ rfl _ rfl _ rfl false
  have holds : ∃ entered ∈ [Entered.mk 0 defaultApplication .updatePeriodicEvents true,
      Entered.mk 3 defaultApplication .runRedisCheck true,Entered.mk 60003 defaultApplication .updatePeriodicEvents true],
      entered.Holds defaultApplication .runRedisCheck 60003 :=
    ⟨Entered.mk 3 defaultApplication .runRedisCheck true,by simp,rfl,rfl,by decide,by decide⟩
  exact ⟨_,after,rfl,taken,(held ⟨rfl,rfl,holds⟩).1⟩

/-- The periodic events are updated for the first tenants an instance has read and whenever their hash differs from the
one before, and never without periodic events. -/
theorem updates_follow_tenants (hash : List String → String) (actions : List Action) (state : State)
    (reached : Transition.run (step hash) State.initial actions = some state) (index : Nat) (caller : Instance)
    (found : state.instances[index]? = some caller) :
    (caller.app.updates = true →
      (tenantsOf state.attempts index).map hash = ((tenantsOf state.fetched index).map hash).destutter (· ≠ ·)) ∧
    (caller.app.updates = false → tenantsOf state.attempts index = []) := by
  have followed := (sound_reached reached).followed
  exact ⟨followed.attempts index caller found,followed.quiet index caller found⟩

theorem updates_follow_tenants_onboarding :
    ∃ state, Transition.run (step joinTenants) State.initial [.start defaultApplication,.begin 0,.fetch 0 (some ["t1"]),
        .lockUpdate 0 false,.begin 0,.fetch 1 (some ["t1"]),.begin 0,.fetch 2 (some ["t1","t2"])] = some state ∧
      (tenantsOf state.attempts 0).map joinTenants =
        ((tenantsOf state.fetched 0).map joinTenants).destutter (· ≠ ·) ∧
      tenantsOf state.attempts 0 = [["t1"],["t1","t2"]] :=
  ⟨_,rfl,(updates_follow_tenants joinTenants [.start defaultApplication,.begin 0,.fetch 0 (some ["t1"]),
    .lockUpdate 0 false,.begin 0,.fetch 1 (some ["t1"]),.begin 0,.fetch 2 (some ["t1","t2"])] _ rfl 0 _ rfl).1 rfl,rfl⟩

/-- A run stops before the open events iff it has read the first tenants of its instance and could not get the lock of
the update, and then it is the only run of the instance that stops there. -/
theorem first_update_waits_iff (hash : List String → String) (actions : List Action) (state : State)
    (reached : Transition.run (step hash) State.initial actions = some state) (position : Nat) (run : Run)
    (found : state.runs[position]? = some run) (caller : Instance) (own : state.instances[run.index]? = some caller)
    (first : Bool) (tenantIds : List String) (phase : run.phase = .lockingUpdate first tenantIds) (fails : Bool) :
    ∃ after, step hash state (.lockUpdate position fails) = some after ∧
      (after.runs[position]? = some {run with phase := .ended .waitsForUpdate} ↔
        first = true ∧ caller.app.filtersTenants = false ∧
          (fails = true ∨ ∃ entered ∈ state.locked, entered.Holds caller.app .updatePeriodicEvents state.clock)) ∧
      after.runs.countP (fun other => other.index = run.index ∧ other.phase = .ended .waitsForUpdate) ≤ 1 := by
  have sound := sound_reached reached
  have locking := sound.locking
  have inside := (List.getElem?_eq_some_iff.mp found).1
  have taken : step hash state (.lockUpdate position fails) =
      some (state.lockUpdate position run caller.app first tenantIds fails) := by
    simp [step,Action.run,found,own,stepRun,phase]
  refine ⟨_,taken,?_,?_⟩
  · cases filters : caller.app.filtersTenants with
    | true => simp [State.lockUpdate,filters,State.enter,State.setPhase,inside]
    | false =>
      cases fails with
      | true => cases first <;> simp [State.lockUpdate,filters,State.setPhase,inside,refused]
      | false =>
        have lock := locking.lock_iff caller.app .updatePeriodicEvents
        cases given : (state.acquireLock caller.app .updatePeriodicEvents).1 with
        | true =>
          have free := lock.mp given
          simp [State.lockUpdate,filters,acquire_granted given,State.setPhase,inside]
          simpa using fun _ => free
        | false =>
          have held := (not_congr lock).mp (by simp [given])
          rw [not_not] at held
          cases first <;> simp [State.lockUpdate,filters,acquire_refused given,State.setPhase,inside,refused,held]
  · have after := (sound.step taken).followed.waiting run.index
    refine Nat.le_trans (List.countP_mono_left (fun other _ stopped => ?_)) after.1
    simp only [decide_eq_true_eq] at stopped
    simp [waits,stopped.1,stopped.2]

theorem first_update_waits_iff_second_instance :
    ∃ state after, Transition.run (step joinTenants) State.initial firstMaster = some state ∧
      step joinTenants state (.lockUpdate 1 false) = some after ∧
      after.runs[1]? = some ⟨1,.ended .waitsForUpdate⟩ := by
  obtain ⟨after,taken,waits,_⟩ := first_update_waits_iff joinTenants firstMaster _ rfl 1 _ rfl _ rfl _ _ rfl false
  have holds : ∃ entered ∈ [Entered.mk 0 defaultApplication .updatePeriodicEvents true,
      Entered.mk 3 defaultApplication .runRedisCheck true],
      entered.Holds defaultApplication .updatePeriodicEvents 3 :=
    ⟨Entered.mk 0 defaultApplication .updatePeriodicEvents true,by simp,rfl,rfl,by decide,by decide⟩
  exact ⟨_,after,rfl,taken,waits.mpr ⟨rfl,rfl,Or.inr holds⟩⟩

end EventQueue.MultiTenancyRunner

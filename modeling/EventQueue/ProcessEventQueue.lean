import EventQueue.LockBackends
import EventQueue.Lib.Parties
import EventQueue.Lib.Transition
import Mathlib.Tactic

/-! `processEventQueue` around the processing of the entries: any number of runs on any number of instances that ask for
the distributed lock of their event, process it and release the lock, and instances that release their locks when they
are shut down. Whether a call takes effect and whether its caller hears of it are two things. -/
namespace EventQueue.ProcessEventQueue
open DistributedLock (Backend Naming)

structure Job where
  naming : Naming
  /-- `multiInstanceProcessing`. -/
  concurrentEventProcessing : Bool
  /-- `keepAliveMaxInProgressTime` in milliseconds. -/
  expiryTime : Nat

/-- What `_checkEventIsBlocked` is told. -/
structure Checks where
  /-- None without a callback; a callback that throws has no answer. -/
  isEventBlocked : Option (Option Bool)
  isTenantUnsubscribed : Bool
  /-- None if it throws. -/
  shouldBeProcessedInThisApplication : Option Bool

inductive Phase
  | requiring
  | checking
  | acquiring
  | working
  | releasing
  | ended
  deriving DecidableEq

/-- What a run has done, the calls of the lock with their outcome. -/
inductive Call
  | acquired
  | refused
  /-- `acquireLock` has thrown. -/
  | unanswered
  | worked
  | released
  /-- `releaseLock` has thrown. -/
  | unreleased
  deriving DecidableEq

structure Run where
  index : Nat
  job : Job
  phase : Phase
  /-- `__lockAcquired`. -/
  lockAcquired : Bool
  calls : List Call

structure Instance where
  existingLocks : List String
  /-- The releases that a shutdown has started. -/
  pending : List String

structure State where
  clock : Nat
  backend : Backend
  instances : List Instance
  runs : List Run
  -- The rest is history that no function reads back.
  /-- The run that has written the key last. -/
  grantee : String → Option Nat
  /-- The keys that a renewal has written. -/
  renewed : List String

def State.initial (backend : Backend) : State := ⟨0,backend,[],[],fun _ => none,[]⟩

/-- Whether a call takes effect; only the first answer arrives. -/
inductive Answer
  | ok
  | lost
  | failed
  deriving DecidableEq

inductive Action
  | wait (time : Nat)
  | start
  | begin (index : Nat) (job : Job)
  | require (run : Nat) (found : Bool)
  | check (run : Nat) (checks : Checks)
  | acquire (run : Nat) (answer : Answer)
  | work (run : Nat)
  | renew (run : Nat) (answer : Answer)
  /-- The end of the processing, with an error or without one. -/
  | leave (run : Nat)
  | release (run : Nat) (answer : Answer)
  | shutdown (index : Nat)
  | settle (index position : Nat) (answer : Answer)

def Job.lockKey (job : Job) : String := job.naming.lockKey

/-- None if an error ends the run. -/
def checkEventIsBlocked (checks : Checks) : Option Bool :=
  let eventBlocked := match checks.isEventBlocked with
    | none => false
    | some none => true
    | some (some blocked) => blocked
  if eventBlocked || checks.isTenantUnsubscribed then some true
  else checks.shouldBeProcessedInThisApplication.map not

/-- `existingLocks[fullKey] = context.tenant`. -/
def Instance.track (app : Instance) (key : String) : Instance :=
  {app with existingLocks := if key ∈ app.existingLocks then app.existingLocks else app.existingLocks ++ [key]}

def Instance.untrack (app : Instance) (key : String) : Instance :=
  {app with existingLocks := app.existingLocks.filter (· ≠ key)}

def State.setRun (state : State) (position : Nat) (run : Run) : State :=
  {state with runs := state.runs.set position run}

def State.setInstance (state : State) (index : Nat) (app : Instance) : State :=
  {state with instances := state.instances.set index app}

/-- A release that takes effect. -/
def State.free (state : State) (key : String) : State :=
  {state with
    backend := (DistributedLock.releaseLock state.backend state.clock key).2
    grantee := fun other => if other = key then none else state.grantee other}

/-- `_releaseLockRedis` and `_releaseLockDb`: the key is forgotten after the answer. -/
def State.releaseLock (state : State) (index : Nat) (app : Instance) (key : String) : Answer → State
  | .ok => (state.free key).setInstance index (app.untrack key)
  | .lost => state.free key
  | .failed => state

def State.acquireLock (state : State) (job : Job) : Bool × Backend :=
  DistributedLock.acquireLock state.backend state.clock job.lockKey job.expiryTime

/-- `acquireLock` with `keepTrackOfLock`. -/
def State.acquire (state : State) (position : Nat) (run : Run) (app : Instance) (answer : Answer) : State :=
  let (result,backend) := state.acquireLock run.job
  let grantee := fun other => if other = run.job.lockKey ∧ result then some position else state.grantee other
  match answer,result with
  | .failed,_ => state.setRun position {run with phase := .ended,calls := run.calls ++ [.unanswered]}
  | .lost,_ => {state.setRun position {run with phase := .ended,calls := run.calls ++ [.unanswered]} with
      backend := backend
      grantee := grantee}
  | .ok,false => {state.setRun position {run with phase := .ended,calls := run.calls ++ [.refused]} with
      backend := backend}
  | .ok,true => {(state.setRun position {run with
        phase := .working
        lockAcquired := true
        calls := run.calls ++ [.acquired]}).setInstance run.index (app.track run.job.lockKey) with
      backend := backend
      grantee := grantee}

def State.renew (state : State) (run : Run) : Answer → State
  | .failed => state
  | _ => {state with
      backend := (DistributedLock.renewLock state.backend state.clock run.job.naming.renewKey run.job.expiryTime).2
      renewed := state.renewed ++ [run.job.naming.renewKey]}

/-- `handleReleaseLock`. -/
def State.handleReleaseLock (state : State) (position : Nat) (run : Run) (app : Instance) (answer : Answer) : State :=
  if run.lockAcquired then
    (state.releaseLock run.index app run.job.lockKey answer).setRun position {run with
      phase := .ended
      calls := run.calls ++ [if answer = .ok then .released else .unreleased]}
  else state.setRun position {run with phase := .ended}

def stepRun (state : State) (position : Nat) (run : Run) (app : Instance) : Action → Option State
  | .require _ found =>
    match run.phase with
    | .requiring => some (state.setRun position {run with phase := if found then .checking else .ended})
    | _ => none
  | .check _ checks =>
    match run.phase with
    | .checking => some (state.setRun position {run with
        phase := if checkEventIsBlocked checks = some false then .acquiring else .ended})
    | _ => none
  | .acquire _ answer =>
    match run.phase with
    | .acquiring =>
      if run.job.concurrentEventProcessing then some (state.setRun position {run with phase := .working})
      else some (state.acquire position run app answer)
    | _ => none
  | .work _ =>
    match run.phase with
    | .working => some (state.setRun position {run with calls := run.calls ++ [.worked]})
    | _ => none
  | .renew _ answer =>
    match run.phase with
    | .working => if run.job.concurrentEventProcessing then some state else some (state.renew run answer)
    | _ => none
  | .leave _ =>
    match run.phase with
    | .working => some (state.setRun position {run with phase := .releasing})
    | _ => none
  | .release _ answer =>
    match run.phase with
    | .releasing => some (state.handleReleaseLock position run app answer)
    | _ => none
  | _ => none

def Action.run : Action → Nat
  | .require run _ => run
  | .check run _ => run
  | .acquire run _ => run
  | .work run => run
  | .renew run _ => run
  | .leave run => run
  | .release run _ => run
  | _ => 0

def step (state : State) : Action → Option State
  | .wait time => some {state with clock := state.clock + time}
  | .start => some {state with instances := state.instances ++ [⟨[],[]⟩]}
  | .begin index job =>
    if index < state.instances.length then
      some {state with runs := state.runs ++ [⟨index,job,.requiring,false,[]⟩]}
    else none
  | .shutdown index => state.instances[index]?.map (fun app =>
      state.setInstance index {app with pending := app.pending ++ app.existingLocks})
  | .settle index position answer => state.instances[index]?.bind (fun app => app.pending[position]?.map (fun key =>
      (state.setInstance index {app with pending := app.pending.eraseIdx position}).releaseLock index
        {app with pending := app.pending.eraseIdx position} key answer))
  | action => state.runs[action.run]?.bind (fun run => state.instances[run.index]?.bind (fun app =>
      stepRun state action.run run app action))

/-- There is an item or a row under the key, expired or not. -/
def present (backend : Backend) (key : String) : Bool :=
  match backend with
  | .redis store => (store key).isSome
  | .db table => (table key).isSome

section
variable {backend : Backend} {now expiryTime : Nat} {key other : String}

theorem present_purge {store : DistributedLock.Redis} (there : present (.redis (ExpiringStore.purge store now)) other = true) :
    present (.redis store) other = true := by
  obtain ⟨item,found⟩ := Option.isSome_iff_exists.mp there
  exact Option.isSome_iff_exists.mpr ⟨item,(ExpiringStore.purge_some.mp found).1⟩

theorem present_set {store : DistributedLock.Redis} {item : ExpiringStore.Item String}
    (there : present (.redis (ExpiringStore.set store key item)) other = true) :
    other = key ∨ present (.redis store) other = true := by
  by_cases own : other = key
  · exact Or.inl own
  · right
    simpa [present,ExpiringStore.set_other _ _ _ _ own] using there

theorem present_update {table : DistributedLock.Table} {row : DistributedLock.Row}
    (there : present (.db (Function.update table key (some row))) other = true) :
    other = key ∨ present (.db table) other = true := by
  by_cases own : other = key
  · exact Or.inl own
  · right
    simpa [present,Function.update_of_ne own] using there

theorem present_acquireLock (there : present (DistributedLock.acquireLock backend now key expiryTime).2 other = true) :
    other = key ∧ (DistributedLock.acquireLock backend now key expiryTime).1 = true ∨ present backend other = true := by
  cases backend with
  | redis store =>
    simp only [DistributedLock.acquireLock,DistributedLock.acquireLockRedis,ExpiringStore.setNX,Bool.false_eq_true,
      if_false] at there ⊢
    split at there
    · rename_i absent
      rcases present_set there with own | before
      · exact Or.inl ⟨own,rfl⟩
      · exact Or.inr (present_purge before)
    · exact Or.inr (present_purge there)
  | db table =>
    simp only [DistributedLock.acquireLock,DistributedLock.acquireLockDB,Bool.false_eq_true,false_or] at there ⊢
    split at there
    · rcases present_update there with own | before
      · exact Or.inl ⟨own,rfl⟩
      · exact Or.inr before
    · rename_i row found
      split at there
      · rename_i old
        rcases present_update there with own | before
        · exact Or.inl ⟨own,by simp [old]⟩
        · exact Or.inr before
      · exact Or.inr there

theorem present_renewLock (there : present (DistributedLock.renewLock backend now key expiryTime).2 other = true) :
    other = key ∨ present backend other = true := by
  cases backend with
  | redis store =>
    simp only [DistributedLock.renewLock,DistributedLock.renewLockRedis_eq] at there
    exact (present_set there).imp_right present_purge
  | db table =>
    simp only [DistributedLock.renewLock,DistributedLock.acquireLockDB_override] at there
    exact present_update there

theorem present_releaseLock (there : present (DistributedLock.releaseLock backend now key).2 other = true) :
    other ≠ key ∧ present backend other = true := by
  by_cases own : other = key
  · subst own
    cases backend <;>
      simp [DistributedLock.releaseLock,DistributedLock.releaseLockRedis,DistributedLock.releaseLockDb,present] at there
  · refine ⟨own,?_⟩
    cases backend with
    | redis store =>
      refine @present_purge now other store ?_
      simpa [DistributedLock.releaseLock,DistributedLock.releaseLockRedis,ExpiringStore.del,present,
        Function.update_of_ne own] using there
    | db table =>
      simpa [DistributedLock.releaseLock,DistributedLock.releaseLockDb,present,Function.update_of_ne own] using there

end

/-- What a run has done by the time it is in a phase. -/
inductive Lifecycle : Run → Prop
  | early (run : Run) (phase : run.phase = .requiring ∨ run.phase = .checking ∨ run.phase = .acquiring)
      (unlocked : run.lockAcquired = false) (calls : run.calls = []) : Lifecycle run
  | inside (run : Run) (count : Nat) (phase : run.phase = .working ∨ run.phase = .releasing)
      (locked : run.lockAcquired = true) (exclusive : run.job.concurrentEventProcessing = false)
      (calls : run.calls = .acquired::List.replicate count .worked) : Lifecycle run
  | beside (run : Run) (count : Nat) (phase : run.phase = .working ∨ run.phase = .releasing ∨ run.phase = .ended)
      (unlocked : run.lockAcquired = false) (concurrent : run.job.concurrentEventProcessing = true)
      (calls : run.calls = List.replicate count .worked) : Lifecycle run
  | stopped (run : Run) (phase : run.phase = .ended)
      (calls : run.calls = [] ∨ run.job.concurrentEventProcessing = false ∧
        (run.calls = [.refused] ∨ run.calls = [.unanswered])) : Lifecycle run
  | finished (run : Run) (count : Nat) (last : Call) (phase : run.phase = .ended)
      (exclusive : run.job.concurrentEventProcessing = false)
      (calls : run.calls = .acquired::List.replicate count .worked ++ [last])
      (release : last = .released ∨ last = .unreleased) : Lifecycle run

/-- The lock of the run may be there: the run goes on, or a call that would have told was not answered. -/
def MayHold (run : Run) : Prop :=
  run.phase ≠ .ended ∧ .acquired ∈ run.calls ∨ .unreleased ∈ run.calls ∨ .unanswered ∈ run.calls

def Tracks (state : State) (index : Nat) (key : String) : Prop :=
  ∃ app, state.instances[index]? = some app ∧ key ∈ app.existingLocks

/-- The lock is there, and the run is the one that has got it. -/
structure Granted (state : State) (key : String) (position : Nat) (run : Run) : Prop where
  present : present state.backend key = true
  unrenewed : key ∉ state.renewed
  grantee : state.grantee key = some position
  found : state.runs[position]? = some run

structure Sound (state : State) : Prop where
  lifecycle : ∀ run ∈ state.runs, Lifecycle run
  accounted : ∀ key, present state.backend key = true → key ∉ state.renewed →
    ∃ position run, Granted state key position run ∧ run.job.lockKey = key ∧ MayHold run
  tracked : ∀ key position run, Granted state key position run → .unanswered ∉ run.calls → Tracks state run.index key

theorem Lifecycle.unheld {run : Run} (lifecycle : Lifecycle run) (unlocked : run.lockAcquired = false)
    (going : run.phase ≠ .ended) : ¬MayHold run := by
  cases lifecycle with
  | early _ _ calls => simp [MayHold,calls]
  | inside count _ locked => simp [locked] at unlocked
  | beside count _ _ _ calls => simp [MayHold,calls,List.mem_replicate]
  | stopped ended => exact absurd ended going
  | finished count last ended => exact absurd ended going

theorem Lifecycle.answered {run : Run} (lifecycle : Lifecycle run) (going : run.phase ≠ .ended) :
    .unanswered ∉ run.calls := by
  cases lifecycle with
  | early _ _ calls => simp [calls]
  | inside count _ _ _ calls => simp [calls,List.mem_replicate]
  | beside count _ _ _ calls => simp [calls,List.mem_replicate]
  | stopped ended => exact absurd ended going
  | finished count last ended => exact absurd ended going

theorem initial_sound {backend : Backend} (empty : ∀ key, present backend key = false) : Sound (State.initial backend) := by
  refine ⟨by simp [State.initial],?_,?_⟩
  · intro key there
    rw [State.initial,empty key] at there
    cases there
  · intro key position run granted
    have there := granted.present
    rw [State.initial,empty key] at there
    cases there

section
variable {state : State} (sound : Sound state)

include sound

/-- Only the clock, the instances or the runs that have not begun differ. -/
theorem Sound.same {next : State}
    (runs : ∀ (position : Nat) (run : Run), state.runs[position]? = some run → next.runs[position]? = some run)
    (joined : ∀ (position : Nat) (run : Run), next.runs[position]? = some run →
      state.runs[position]? = some run ∨ Lifecycle run)
    (tracks : ∀ index key, present state.backend key = true → Tracks state index key → Tracks next index key)
    (grantee : next.grantee = state.grantee)
    (renewed : ∀ key ∈ state.renewed, key ∈ next.renewed)
    (fewer : ∀ key, present next.backend key = true → key ∉ next.renewed → present state.backend key = true) :
    Sound next := by
  have granted {key : String} {position : Nat} (there : present next.backend key = true) (unrenewed : key ∉ next.renewed)
      (own : next.grantee key = some position) :
      ∃ run, Granted state key position run ∧ run.job.lockKey = key ∧ MayHold run := by
    have before : key ∉ state.renewed := fun inside => unrenewed (renewed key inside)
    obtain ⟨other,run,granted,rest⟩ := sound.accounted key (fewer key there unrenewed) before
    rw [grantee,granted.grantee] at own
    cases own
    exact ⟨run,granted,rest⟩
  refine ⟨?_,?_,?_⟩
  · intro run member
    obtain ⟨position,at_⟩ := List.mem_iff_getElem?.mp member
    rcases joined position run at_ with old | new
    · exact sound.lifecycle run (List.mem_of_getElem? old)
    · exact new
  · intro key there unrenewed
    have before : key ∉ state.renewed := fun inside => unrenewed (renewed key inside)
    obtain ⟨position,run,granted,rest⟩ := sound.accounted key (fewer key there unrenewed) before
    exact ⟨position,run,⟨there,unrenewed,by rw [grantee]; exact granted.grantee,runs position run granted.found⟩,rest⟩
  · intro key position run given answered
    obtain ⟨other,before,_⟩ := granted given.present given.unrenewed given.grantee
    have same := runs position other before.found
    rw [given.found] at same
    cases same
    exact tracks run.index key before.present (sound.tracked key position run before answered)

/-- A run goes on, and what it may hold it may still hold. -/
theorem Sound.moved {next : State} {position : Nat} {run changed : Run} (found : state.runs[position]? = some run)
    (runs : next.runs = state.runs.set position changed)
    (tracks : ∀ index key, present state.backend key = true → Tracks state index key → Tracks next index key)
    (grantee : next.grantee = state.grantee) (renewed : next.renewed = state.renewed)
    (fewer : ∀ key, present next.backend key = true → present state.backend key = true) (index : changed.index = run.index)
    (job : changed.job = run.job) (lifecycle : Lifecycle changed)
    (holds : present state.backend run.job.lockKey = true → MayHold run → MayHold changed)
    (answered : .unanswered ∉ changed.calls → .unanswered ∉ run.calls) : Sound next := by
  have inside := (List.getElem?_eq_some_iff.mp found).1
  refine ⟨?_,?_,?_⟩
  · rw [runs]
    exact Parties.forall_mem_moved sound.lifecycle lifecycle
  · intro key there unrenewed
    rw [renewed] at unrenewed
    obtain ⟨other,holder,granted,own,may⟩ := sound.accounted key (fewer key there) unrenewed
    by_cases same : other = position
    · subst same
      have alike := granted.found
      rw [found] at alike
      cases alike
      refine ⟨other,changed,⟨there,by rw [renewed]; exact unrenewed,by rw [grantee]; exact granted.grantee,?_⟩,
        by rw [job]; exact own,holds (by rw [own]; exact fewer key there) may⟩
      rw [runs]
      simp [inside]
    · exact ⟨other,holder,⟨there,by rw [renewed]; exact unrenewed,by rw [grantee]; exact granted.grantee,
        by rw [runs]; exact Parties.getElem?_kept changed granted.found same⟩,own,may⟩
  · intro key other holder granted answer
    have there := fewer key granted.present
    have before : key ∉ state.renewed := by
      rw [← renewed]
      exact granted.unrenewed
    have own : state.grantee key = some other := by
      rw [← grantee]
      exact granted.grantee
    have at_ := granted.found
    rw [runs] at at_
    rcases Parties.getElem?_moved found at_ with ⟨rfl,rfl⟩ | ⟨_,old⟩
    · rw [index]
      exact tracks _ _ there (sound.tracked key other run ⟨there,before,own,found⟩ (answered answer))
    · exact tracks _ _ there (sound.tracked key other holder ⟨there,before,own,old⟩ answer)

/-- A run is granted the lock, whether it hears of it or not. -/
theorem Sound.granted {next : State} {position : Nat} {run changed : Run} (found : state.runs[position]? = some run)
    (unheld : ¬MayHold run) (runs : next.runs = state.runs.set position changed)
    (tracks : ∀ index key, Tracks state index key → Tracks next index key)
    (grantee : next.grantee = fun other => if other = run.job.lockKey then some position else state.grantee other)
    (renewed : next.renewed = state.renewed)
    (fewer : ∀ key, present next.backend key = true → key = run.job.lockKey ∨ present state.backend key = true)
    (index : changed.index = run.index) (job : changed.job = run.job) (lifecycle : Lifecycle changed)
    (holds : MayHold changed)
    (tracked : .unanswered ∉ changed.calls → Tracks next run.index run.job.lockKey) : Sound next := by
  have inside := (List.getElem?_eq_some_iff.mp found).1
  refine ⟨?_,?_,?_⟩
  · rw [runs]
    exact Parties.forall_mem_moved sound.lifecycle lifecycle
  · intro key there unrenewed
    by_cases own : key = run.job.lockKey
    · refine ⟨position,changed,⟨there,unrenewed,by rw [grantee]; simp [own],?_⟩,by rw [job,own],holds⟩
      rw [runs]
      simp [inside]
    · have before := (fewer key there).resolve_left own
      rw [renewed] at unrenewed
      obtain ⟨other,holder,granted,named,may⟩ := sound.accounted key before unrenewed
      have apart : other ≠ position := by
        rintro rfl
        have alike := granted.found
        rw [found] at alike
        cases alike
        exact own named.symm
      exact ⟨other,holder,⟨there,by rw [renewed]; exact unrenewed,by rw [grantee]; simpa [own] using granted.grantee,
        by rw [runs]; exact Parties.getElem?_kept changed granted.found apart⟩,named,may⟩
  · intro key other holder granted answer
    have at_ := granted.found
    have own := granted.grantee
    rw [runs] at at_
    rw [grantee] at own
    change (if key = run.job.lockKey then some position else state.grantee key) = some other at own
    by_cases same : key = run.job.lockKey
    · rw [if_pos same] at own
      cases own
      rw [List.getElem?_set_self inside] at at_
      cases at_
      rw [index,same]
      exact tracked answer
    · rw [if_neg same] at own
      have there := (fewer key granted.present).resolve_left same
      have before : key ∉ state.renewed := by
        rw [← renewed]
        exact granted.unrenewed
      obtain ⟨position',holder',given,named,may⟩ := sound.accounted key there before
      rcases Parties.getElem?_moved found at_ with ⟨rfl,rfl⟩ | ⟨_,old⟩
      · rw [given.grantee] at own
        cases own
        have alike := given.found
        rw [found] at alike
        cases alike
        exact absurd may unheld
      · exact tracks _ _ (sound.tracked key other holder ⟨there,before,own,old⟩ answer)

/-- A release takes effect, whoever has got the lock. -/
theorem Sound.free (key : String) : Sound (state.free key) := by
  refine ⟨sound.lifecycle,?_,?_⟩
  · intro other there unrenewed
    obtain ⟨apart,before⟩ := present_releaseLock there
    obtain ⟨position,run,granted,rest⟩ := sound.accounted other before unrenewed
    exact ⟨position,run,⟨there,unrenewed,by simpa [State.free,apart] using granted.grantee,granted.found⟩,rest⟩
  · intro other position run granted answered
    obtain ⟨apart,before⟩ := present_releaseLock granted.present
    have own : state.grantee other = some position := by simpa [State.free,apart] using granted.grantee
    exact sound.tracked other position run ⟨before,granted.unrenewed,own,granted.found⟩ answered

end

theorem tracks_moved {state next : State} {index : Nat} {app changed : Instance}
    (found : state.instances[index]? = some app) (moved : next.instances = state.instances.set index changed)
    {key : String} (kept : key ∈ app.existingLocks → key ∈ changed.existingLocks) {other : Nat}
    (tracks : Tracks state other key) : Tracks next other key := by
  obtain ⟨party,at_,member⟩ := tracks
  by_cases same : other = index
  · subst same
    rw [found] at at_
    cases at_
    refine ⟨changed,?_,kept member⟩
    rw [moved,List.getElem?_set_self (List.getElem?_eq_some_iff.mp found).1]
  · exact ⟨party,by rw [moved]; exact Parties.getElem?_kept changed at_ same,member⟩

theorem tracks_pending {state : State} {index : Nat} {app : Instance} (found : state.instances[index]? = some app)
    (pending : List String) {other : Nat} {key : String} (tracks : Tracks state other key) :
    Tracks (state.setInstance index {app with pending := pending}) other key :=
  @tracks_moved state _ index app {app with pending := pending} found rfl key (fun listed => listed) other tracks

theorem mem_track {app : Instance} {key other : String} :
    other ∈ (app.track key).existingLocks ↔ other = key ∨ other ∈ app.existingLocks := by
  unfold Instance.track
  split
  · rename_i listed
    exact ⟨Or.inr,fun either => either.elim (fun same => same ▸ listed) id⟩
  · simp [or_comm]

section
variable {state : State} (sound : Sound state) {position : Nat} {run : Run} (found : state.runs[position]? = some run)

include sound found

/-- A run goes on without a call of the lock. -/
theorem Sound.setRun {changed : Run} (index : changed.index = run.index) (job : changed.job = run.job)
    (lifecycle : Lifecycle changed) (holds : MayHold run → MayHold changed)
    (answered : .unanswered ∉ changed.calls → .unanswered ∉ run.calls) : Sound (state.setRun position changed) :=
  sound.moved found rfl (fun _ _ _ tracks => tracks) rfl rfl (fun _ there => there) index job lifecycle
    (fun _ => holds) answered

theorem Sound.acquire {app : Instance} (own : state.instances[run.index]? = some app)
    (phase : run.phase = .acquiring) (exclusive : run.job.concurrentEventProcessing = false) (answer : Answer) :
    Sound (state.acquire position run app answer) := by
  have before := sound.lifecycle run (List.mem_of_getElem? found)
  have going : run.phase ≠ .ended := by simp [phase]
  obtain ⟨unlocked,calls⟩ : run.lockAcquired = false ∧ run.calls = [] := by
    cases before with
    | early _ unlocked calls => exact ⟨unlocked,calls⟩
    | inside count other => simp [phase] at other
    | beside count other => simp [phase] at other
    | stopped ended => simp [phase] at ended
    | finished count last ended => simp [phase] at ended
  have unheld := before.unheld unlocked going
  have thrown : Lifecycle {run with phase := .ended,calls := run.calls ++ [.unanswered]} :=
    .stopped _ rfl (Or.inr ⟨exclusive,Or.inr (by simp [calls])⟩)
  have unanswered : MayHold {run with phase := .ended,calls := run.calls ++ [.unanswered]} := by simp [MayHold]
  have fewer := fun key => @present_acquireLock state.backend state.clock run.job.expiryTime run.job.lockKey key
  cases given : (state.acquireLock run.job).1 with
  | false =>
    -- without the lock the backend has lost expired items at most
    have less (key : String) (there : present (state.acquireLock run.job).2 key = true) :
        present state.backend key = true := by
      rcases fewer key there with ⟨_,taken⟩ | old
      · exact absurd (given.symm.trans taken) (by decide)
      · exact old
    cases answer with
    | failed =>
      simp only [State.acquire]
      exact sound.setRun found rfl rfl thrown (fun _ => unanswered) (fun _ => before.answered going)
    | lost =>
      simp only [State.acquire,given,Bool.false_eq_true,and_false,if_false]
      exact sound.moved found rfl (fun _ _ _ tracks => tracks) rfl rfl less rfl rfl thrown (fun _ _ => unanswered)
        (fun _ => before.answered going)
    | ok =>
      simp only [State.acquire,given]
      exact sound.moved found rfl (fun _ _ _ tracks => tracks) rfl rfl less rfl rfl
        (.stopped _ rfl (Or.inr ⟨exclusive,Or.inl (by simp [calls])⟩)) (fun _ may => absurd may unheld)
        (fun _ => before.answered going)
  | true =>
    have less (key : String) (there : present (state.acquireLock run.job).2 key = true) :
        key = run.job.lockKey ∨ present state.backend key = true := (fewer key there).imp_left And.left
    cases answer with
    | failed =>
      simp only [State.acquire]
      exact sound.setRun found rfl rfl thrown (fun _ => unanswered) (fun _ => before.answered going)
    | lost =>
      simp only [State.acquire,given,and_true]
      exact sound.granted found unheld rfl (fun _ _ tracks => tracks) rfl rfl less rfl rfl thrown unanswered
        (fun answered => absurd (by simp) answered)
    | ok =>
      simp only [State.acquire,given,and_true]
      refine sound.granted found unheld rfl (fun index key tracks => ?_) rfl rfl less rfl rfl
        (.inside _ 0 (Or.inl rfl) rfl exclusive (by simp [calls])) (by simp [MayHold]) (fun _ => ?_)
      · exact tracks_moved own rfl (fun listed => mem_track.mpr (Or.inr listed)) tracks
      · refine ⟨app.track run.job.lockKey,?_,mem_track.mpr (Or.inl rfl)⟩
        exact List.getElem?_set_self (List.getElem?_eq_some_iff.mp own).1

theorem Sound.handleReleaseLock {app : Instance} (own : state.instances[run.index]? = some app)
    (phase : run.phase = .releasing) (answer : Answer) :
    Sound (state.handleReleaseLock position run app answer) := by
  have before := sound.lifecycle run (List.mem_of_getElem? found)
  have going : run.phase ≠ .ended := by simp [phase]
  unfold State.handleReleaseLock
  cases before with
  | early other => simp [phase] at other
  | stopped ended => exact absurd ended going
  | finished count last ended => exact absurd ended going
  | beside count _ unlocked concurrent calls =>
    rw [if_neg (by simp [unlocked])]
    refine sound.setRun found rfl rfl (.beside _ count (Or.inr (Or.inr rfl)) unlocked concurrent calls) (fun may => ?_) id
    simp [MayHold,calls,List.mem_replicate] at may
  | inside count _ locked exclusive calls =>
    rw [if_pos locked]
    have finished (last : Call) (release : last = .released ∨ last = .unreleased) :
        Lifecycle {run with phase := .ended,calls := run.calls ++ [last]} :=
      .finished _ count last rfl exclusive (by simp [calls]) release
    have answered : Call.unanswered ∉ run.calls := by simp [calls,List.mem_replicate]
    cases answer with
    | failed =>
      exact sound.moved found rfl (fun _ _ _ tracks => tracks) rfl rfl (fun _ there => there) rfl rfl
        (finished .unreleased (Or.inr rfl)) (fun _ _ => by simp [MayHold]) (fun _ => answered)
    | lost =>
      exact (sound.free run.job.lockKey).moved found rfl (fun _ _ _ tracks => tracks) rfl rfl (fun _ there => there)
        rfl rfl (finished .unreleased (Or.inr rfl)) (fun _ _ => by simp [MayHold]) (fun _ => answered)
    | ok =>
      refine (sound.free run.job.lockKey).moved found rfl (fun index key there tracks => ?_) rfl rfl
        (fun _ there => there) rfl rfl (finished .released (Or.inl rfl)) (fun there => ?_) (fun _ => answered)
      · have apart := (present_releaseLock there).1
        exact @tracks_moved (state.free run.job.lockKey) _ run.index app _ own rfl key
          (fun listed => List.mem_filter.mpr ⟨listed,by simpa using apart⟩) index tracks
      · exact absurd rfl (present_releaseLock there).1

end

section
variable {state : State} (sound : Sound state)

include sound

/-- Only the instances differ. -/
theorem Sound.instances {next : State} (runs : next.runs = state.runs) (backend : next.backend = state.backend)
    (grantee : next.grantee = state.grantee) (renewed : next.renewed = state.renewed)
    (tracks : ∀ index key, present state.backend key = true → Tracks state index key → Tracks next index key) :
    Sound next := by
  refine sound.same (fun position run at_ => ?_) (fun position run at_ => ?_) tracks grantee (fun key member => ?_)
    (fun key there _ => ?_)
  · rw [runs]
    exact at_
  · rw [runs] at at_
    exact Or.inl at_
  · rw [renewed]
    exact member
  · rw [backend] at there
    exact there

theorem Sound.settle {index : Nat} {app : Instance} (own : state.instances[index]? = some app) (pending : List String)
    (key : String) (answer : Answer) :
    Sound ((state.setInstance index {app with pending := pending}).releaseLock index {app with pending := pending} key
      answer) := by
  have shorter : Sound (state.setInstance index {app with pending := pending}) :=
    sound.instances rfl rfl rfl rfl (fun _ _ _ tracks => tracks_pending own _ tracks)
  cases answer with
  | failed => exact shorter
  | lost => exact shorter.free key
  | ok =>
    have inside := (List.getElem?_eq_some_iff.mp own).1
    have still : (state.setInstance index {app with pending := pending}).instances[index]? =
        some {app with pending := pending} := List.getElem?_set_self inside
    refine (shorter.free key).instances rfl rfl rfl rfl (fun other name there tracks => ?_)
    have apart := (present_releaseLock there).1
    exact @tracks_moved ((state.setInstance index {app with pending := pending}).free key) _ index _ _ still rfl name
      (fun listed => List.mem_filter.mpr ⟨listed,by simpa using apart⟩) other tracks

theorem Sound.renew (run : Run) (answer : Answer) : Sound (state.renew run answer) := by
  have written : Sound {state with
      backend := (DistributedLock.renewLock state.backend state.clock run.job.naming.renewKey run.job.expiryTime).2
      renewed := state.renewed ++ [run.job.naming.renewKey]} := by
    refine sound.same (fun _ _ at_ => at_) (fun _ _ at_ => Or.inl at_) (fun _ _ _ tracks => tracks) rfl
      (fun key member => List.mem_append_left _ member) (fun key there unrenewed => ?_)
    refine (present_renewLock there).resolve_left (fun own => unrenewed ?_)
    exact List.mem_append_right _ (List.mem_singleton.mpr own)
  cases answer with
  | failed => exact sound
  | lost => exact written
  | ok => exact written

theorem Sound.stepRun {next : State} {position : Nat} {run : Run} (found : state.runs[position]? = some run)
    {app : Instance} (own : state.instances[run.index]? = some app) {action : Action}
    (taken : stepRun state position run app action = some next) : Sound next := by
  have before := sound.lifecycle run (List.mem_of_getElem? found)
  have early (phase : run.phase = .requiring ∨ run.phase = .checking) : run.lockAcquired = false ∧ run.calls = [] := by
    cases before with
    | early _ unlocked calls => exact ⟨unlocked,calls⟩
    | inside count other => rcases phase with phase | phase <;> simp [phase] at other
    | beside count other => rcases phase with phase | phase <;> simp [phase] at other
    | stopped ended => rcases phase with phase | phase <;> simp [phase] at ended
    | finished count last ended => rcases phase with phase | phase <;> simp [phase] at ended
  cases action with
  | require _ present =>
    simp only [ProcessEventQueue.stepRun] at taken
    split at taken
    · rename_i phase
      cases taken
      obtain ⟨unlocked,calls⟩ := early (Or.inl phase)
      refine sound.setRun found rfl rfl ?_ (fun may => by simp [MayHold,calls] at may) id
      cases present with
      | true => exact .early _ (Or.inr (Or.inl rfl)) unlocked calls
      | false => exact .stopped _ rfl (Or.inl calls)
    · cases taken
  | check _ checks =>
    simp only [ProcessEventQueue.stepRun] at taken
    split at taken
    · rename_i phase
      cases taken
      obtain ⟨unlocked,calls⟩ := early (Or.inr phase)
      refine sound.setRun found rfl rfl ?_ (fun may => by simp [MayHold,calls] at may) id
      by_cases free : checkEventIsBlocked checks = some false
      · exact .early _ (Or.inr (Or.inr (by simp [free]))) unlocked calls
      · exact .stopped _ (by simp [free]) (Or.inl calls)
    · cases taken
  | acquire _ answer =>
    simp only [ProcessEventQueue.stepRun] at taken
    split at taken
    · rename_i phase
      split at taken
      · rename_i concurrent
        cases taken
        obtain ⟨unlocked,calls⟩ : run.lockAcquired = false ∧ run.calls = [] := by
          cases before with
          | early _ unlocked calls => exact ⟨unlocked,calls⟩
          | inside count other => simp [phase] at other
          | beside count other => simp [phase] at other
          | stopped ended => simp [phase] at ended
          | finished count last ended => simp [phase] at ended
        exact sound.setRun found rfl rfl (.beside _ 0 (Or.inl rfl) unlocked concurrent (by simp [calls]))
          (fun may => by simp [MayHold,calls] at may) id
      · rename_i exclusive
        cases taken
        exact sound.acquire found own phase (by simpa using exclusive) answer
    · cases taken
  | work _ =>
    simp only [ProcessEventQueue.stepRun] at taken
    split at taken
    · rename_i phase
      cases taken
      refine sound.setRun found rfl rfl ?_ (fun may => ?_) (fun answered member => ?_)
      · cases before with
        | early other => simp [phase] at other
        | inside count _ locked exclusive calls =>
          exact .inside _ (count + 1) (Or.inl phase) locked exclusive (by simp [calls,List.replicate_succ'])
        | beside count _ unlocked concurrent calls =>
          exact .beside _ (count + 1) (Or.inl phase) unlocked concurrent (by simp [calls,List.replicate_succ'])
        | stopped ended => simp [phase] at ended
        | finished count last ended => simp [phase] at ended
      · simpa [MayHold] using may
      · exact answered (List.mem_append_left _ member)
    · cases taken
  | renew _ answer =>
    simp only [ProcessEventQueue.stepRun] at taken
    split at taken
    · split at taken
      · cases taken
        exact sound
      · cases taken
        exact sound.renew run answer
    · cases taken
  | leave _ =>
    simp only [ProcessEventQueue.stepRun] at taken
    split at taken
    · rename_i phase
      cases taken
      refine sound.setRun found rfl rfl ?_ (fun may => ?_) id
      · cases before with
        | early other => simp [phase] at other
        | inside count _ locked exclusive calls => exact .inside _ count (Or.inr rfl) locked exclusive calls
        | beside count _ unlocked concurrent calls =>
          exact .beside _ count (Or.inr (Or.inl rfl)) unlocked concurrent calls
        | stopped ended => simp [phase] at ended
        | finished count last ended => simp [phase] at ended
      · exact may.imp_left (fun open_ => ⟨by simp,open_.2⟩)
    · cases taken
  | release _ answer =>
    simp only [ProcessEventQueue.stepRun] at taken
    split at taken
    · rename_i phase
      cases taken
      exact sound.handleReleaseLock found own phase answer
    · cases taken
  | wait time => cases taken
  | start => cases taken
  | begin index job => cases taken
  | shutdown index => cases taken
  | settle index position answer => cases taken

theorem Sound.step {next : State} {action : Action} (taken : step state action = some next) : Sound next := by
  have going {action : Action} (moved : state.runs[action.run]?.bind (fun run =>
      state.instances[run.index]?.bind (fun app => ProcessEventQueue.stepRun state action.run run app action)) =
        some next) : Sound next := by
    obtain ⟨run,found,rest⟩ := Option.bind_eq_some_iff.mp moved
    obtain ⟨app,own,last⟩ := Option.bind_eq_some_iff.mp rest
    exact sound.stepRun found own last
  cases action with
  | wait time =>
    cases taken
    exact sound.instances rfl rfl rfl rfl (fun _ _ _ tracks => tracks)
  | start =>
    cases taken
    refine sound.instances rfl rfl rfl rfl (fun index key _ tracks => ?_)
    obtain ⟨app,at_,member⟩ := tracks
    exact ⟨app,by rw [List.getElem?_append_left (List.getElem?_eq_some_iff.mp at_).1]; exact at_,member⟩
  | begin index job =>
    simp only [ProcessEventQueue.step] at taken
    split at taken
    · cases taken
      refine sound.same (fun position run at_ => ?_) (fun position run at_ => ?_) (fun _ _ _ tracks => tracks) rfl
        (fun _ member => member) (fun _ there _ => there)
      · rw [List.getElem?_append_left (List.getElem?_eq_some_iff.mp at_).1]
        exact at_
      · rcases Parties.getElem?_joined at_ with old | ⟨_,rfl⟩
        · exact Or.inl old
        · exact Or.inr (.early _ (Or.inl rfl) rfl rfl)
    · cases taken
  | shutdown index =>
    obtain ⟨app,own,rfl⟩ := Option.map_eq_some_iff.mp taken
    exact sound.instances rfl rfl rfl rfl (fun _ _ _ tracks => tracks_pending own _ tracks)
  | settle index position answer =>
    obtain ⟨app,own,rest⟩ := Option.bind_eq_some_iff.mp taken
    obtain ⟨key,_,rfl⟩ := Option.map_eq_some_iff.mp rest
    exact sound.settle own _ key answer
  | require run present => exact going taken
  | check run checks => exact going taken
  | acquire run answer => exact going taken
  | work run => exact going taken
  | renew run answer => exact going taken
  | leave run => exact going taken
  | release run answer => exact going taken

end

theorem sound_reached {backend : Backend} (empty : ∀ key, present backend key = false) {actions : List Action}
    {state : State} (reached : Transition.run step (State.initial backend) actions = some state) : Sound state :=
  Transition.invariant step (fun _ _ => True) Sound (fun _ _ _ sound _ taken => sound.step taken)
    (State.initial backend) state actions (initial_sound empty) (Transition.along_true _ _ _) reached

/-- Whatever happens to a run, it processes nothing before it has got the lock, and releases the lock once at its end
iff it has got it; a run of an event for several instances never calls the lock. -/
theorem lock_brackets_processing (backend : Backend) (empty : ∀ key, present backend key = false)
    (actions : List Action) (state : State)
    (reached : Transition.run step (State.initial backend) actions = some state) :
    ∀ run ∈ state.runs,
      (run.job.concurrentEventProcessing = true → ∃ count, run.calls = List.replicate count .worked) ∧
      (run.job.concurrentEventProcessing = false →
        run.calls ∈ [[],[.refused],[.unanswered]] ∨
        run.phase ≠ .ended ∧ (∃ count, run.calls = .acquired::List.replicate count .worked) ∨
        run.phase = .ended ∧ ∃ count last, run.calls = .acquired::List.replicate count .worked ++ [last] ∧
          (last = .released ∨ last = .unreleased)) := by
  intro run member
  cases (sound_reached empty reached).lifecycle run member with
  | early _ _ calls => exact ⟨fun _ => ⟨0,calls⟩,fun _ => Or.inl (by simp [calls])⟩
  | inside count phase _ exclusive calls =>
    refine ⟨fun concurrent => ?_,fun _ => Or.inr (Or.inl ⟨?_,count,calls⟩)⟩
    · rw [exclusive] at concurrent
      cases concurrent
    · rcases phase with phase | phase <;> simp [phase]
  | beside count _ _ concurrent calls =>
    refine ⟨fun _ => ⟨count,calls⟩,fun exclusive => ?_⟩
    rw [concurrent] at exclusive
    cases exclusive
  | stopped phase calls =>
    rcases calls with calls | ⟨exclusive,calls | calls⟩
    · exact ⟨fun _ => ⟨0,calls⟩,fun _ => Or.inl (by simp [calls])⟩
    · exact ⟨fun concurrent => (by rw [exclusive] at concurrent; cases concurrent),fun _ => Or.inl (by simp [calls])⟩
    · exact ⟨fun concurrent => (by rw [exclusive] at concurrent; cases concurrent),fun _ => Or.inl (by simp [calls])⟩
  | finished count last phase exclusive calls release =>
    refine ⟨fun concurrent => ?_,fun _ => Or.inr (Or.inr ⟨phase,count,last,calls,release⟩)⟩
    rw [exclusive] at concurrent
    cases concurrent

def noLocks : Backend := .redis (fun _ => none)

def taskJob : Job := ⟨⟨some "t1","default","Notifications","Task","default"⟩,false,210000⟩

/-- A run of the first instance processes two chunks while one of the second instance is refused. -/
def oneProcesses : List Action :=
  [.start,.start,.begin 0 taskJob,.begin 1 taskJob,.require 0 true,.require 1 true,.check 0 ⟨none,false,some true⟩,
    .check 1 ⟨some (some false),false,some true⟩,.acquire 0 .ok,.acquire 1 .ok,.work 0,.work 0]

theorem lock_brackets_processing_refused :
    ∃ state, Transition.run step (State.initial noLocks) (oneProcesses ++ [.leave 0,.release 0 .ok]) = some state ∧
      state.runs.map Run.calls = [[.acquired,.worked,.worked,.released],[.refused]] ∧
      ∀ run ∈ state.runs, run.job.concurrentEventProcessing = true → ∃ count, run.calls = List.replicate count .worked :=
  ⟨_,rfl,by decide,fun run member => (lock_brackets_processing noLocks (fun _ => rfl)
    (oneProcesses ++ [.leave 0,.release 0 .ok]) _ rfl run member).1⟩

/-- A lock that is there was written by a run that goes on or has lost an answer, or by a renewal under the key, and the
instance keeps track of it unless it has not heard that it got it. -/
theorem lock_left_accounted (backend : Backend) (empty : ∀ key, present backend key = false)
    (actions : List Action) (state : State)
    (reached : Transition.run step (State.initial backend) actions = some state) (key : String)
    (there : present state.backend key = true) (unrenewed : key ∉ state.renewed) :
    ∃ position run, state.grantee key = some position ∧ state.runs[position]? = some run ∧ run.job.lockKey = key ∧
      (run.phase ≠ .ended ∧ .acquired ∈ run.calls ∨ .unreleased ∈ run.calls ∨ .unanswered ∈ run.calls) ∧
      (.unanswered ∉ run.calls → Tracks state run.index key) := by
  have sound := sound_reached empty reached
  obtain ⟨position,run,granted,own,may⟩ := sound.accounted key there unrenewed
  exact ⟨position,run,granted.grantee,granted.found,own,may,sound.tracked key position run granted⟩

theorem lock_left_accounted_processing :
    ∃ state, Transition.run step (State.initial noLocks) oneProcesses = some state ∧
      ∃ position run, state.grantee taskJob.lockKey = some position ∧ state.runs[position]? = some run ∧
        (.unanswered ∉ run.calls → Tracks state run.index taskJob.lockKey) := by
  obtain ⟨position,run,grantee,found,_,_,tracks⟩ := lock_left_accounted noLocks (fun _ => rfl) oneProcesses _ rfl
    taskJob.lockKey (by decide) (by decide)
  exact ⟨_,rfl,position,run,grantee,found,tracks⟩

/-- No run of the instance asks for a lock, and every release of its shutdown takes effect. -/
def Closing (index : Nat) (state : State) : Action → Prop
  | .acquire position _ => ∀ run, state.runs[position]? = some run → run.index = index →
      run.job.concurrentEventProcessing = true
  | .settle other _ answer => other = index → answer ≠ .failed
  | _ => True

/-- The locks of the instance are among the releases of its shutdown. -/
def Awaited (index : Nat) (state : State) : Prop :=
  ∀ key position run, Granted state key position run → run.index = index → .unanswered ∉ run.calls →
    ∃ app, state.instances[index]? = some app ∧ key ∈ app.pending

/-- What a run has been called and what an instance awaits is not lost in a step that grants the instance nothing. -/
structure Keeps (index : Nat) (state next : State) : Prop where
  runs : ∀ (position : Nat) (run after : Run), state.runs[position]? = some run → next.runs[position]? = some after →
    after.index = run.index ∧ ∀ call ∈ run.calls, call ∈ after.calls
  renewed : ∀ key ∈ state.renewed, key ∈ next.renewed
  grantee : ∀ key position run, Granted next key position run → run.index = index →
    present state.backend key = true ∧ state.grantee key = some position
  pending : ∀ key, present next.backend key = true → (∃ app, state.instances[index]? = some app ∧ key ∈ app.pending) →
    ∃ app, next.instances[index]? = some app ∧ key ∈ app.pending

theorem Awaited.kept {index : Nat} {state next : State} (awaited : Awaited index state) (sound : Sound state)
    (keeps : Keeps index state next) : Awaited index next := by
  intro key position run granted own answered
  obtain ⟨there,grantee⟩ := keeps.grantee key position run granted own
  have unrenewed : key ∉ state.renewed := fun inside => granted.unrenewed (keeps.renewed key inside)
  obtain ⟨other,before,given,_,_⟩ := sound.accounted key there unrenewed
  rw [given.grantee] at grantee
  cases grantee
  obtain ⟨same,calls⟩ := keeps.runs position before run given.found granted.found
  refine keeps.pending key granted.present (awaited key position before given (same ▸ own) ?_)
  exact fun inside => answered (calls _ inside)

section
variable {index : Nat} {state : State} {position : Nat} {run changed : Run}

theorem runs_moved (found : state.runs[position]? = some run) (same : changed.index = run.index)
    (calls : ∀ call ∈ run.calls, call ∈ changed.calls) (other : Nat) (before after : Run)
    (at_ : state.runs[other]? = some before) (later : (state.runs.set position changed)[other]? = some after) :
    after.index = before.index ∧ ∀ call ∈ before.calls, call ∈ after.calls := by
  rcases Parties.getElem?_moved found later with ⟨rfl,rfl⟩ | ⟨_,old⟩
  · rw [found] at at_
    cases at_
    exact ⟨same,calls⟩
  · rw [at_] at old
    cases old
    exact ⟨rfl,fun _ member => member⟩

theorem runs_same {state : State} (other : Nat) (before after : Run) (at_ : state.runs[other]? = some before)
    (later : state.runs[other]? = some after) : after.index = before.index ∧ ∀ call ∈ before.calls, call ∈ after.calls := by
  rw [at_] at later
  cases later
  exact ⟨rfl,fun _ member => member⟩

theorem keeps_setRun (found : state.runs[position]? = some run) (same : changed.index = run.index)
    (calls : ∀ call ∈ run.calls, call ∈ changed.calls) : Keeps index state (state.setRun position changed) :=
  ⟨runs_moved found same calls,fun _ inside => inside,fun _ _ _ granted _ => ⟨granted.present,granted.grantee⟩,
    fun _ _ pending => pending⟩

theorem keeps_free (key : String) : Keeps index state (state.free key) := by
  refine ⟨runs_same,fun _ inside => inside,fun other holder run granted _ => ?_,fun _ _ pending => pending⟩
  obtain ⟨apart,before⟩ := present_releaseLock granted.present
  exact ⟨before,by simpa [State.free,apart] using granted.grantee⟩

theorem keeps_setInstance {other : Nat} {app moved : Instance} (own : state.instances[other]? = some app)
    (pending : other = index → ∀ key, present state.backend key = true → key ∈ app.pending → key ∈ moved.pending) :
    Keeps index state (state.setInstance other moved) := by
  refine ⟨runs_same,fun _ inside => inside,fun _ _ _ granted _ => ⟨granted.present,granted.grantee⟩,?_⟩
  rintro key there ⟨party,at_,member⟩
  by_cases same : index = other
  · subst same
    rw [own] at at_
    cases at_
    exact ⟨moved,List.getElem?_set_self (List.getElem?_eq_some_iff.mp own).1,pending rfl key there member⟩
  · exact ⟨party,Parties.getElem?_kept moved at_ same,member⟩

theorem keeps_renew (run : Run) (answer : Answer) : Keeps index state (state.renew run answer) := by
  have written : Keeps index state {state with
      backend := (DistributedLock.renewLock state.backend state.clock run.job.naming.renewKey run.job.expiryTime).2
      renewed := state.renewed ++ [run.job.naming.renewKey]} := by
    refine ⟨runs_same,fun _ inside => List.mem_append_left _ inside,fun key _ _ granted _ => ⟨?_,granted.grantee⟩,
      fun _ _ pending => pending⟩
    refine (present_renewLock granted.present).resolve_left (fun own => granted.unrenewed ?_)
    exact List.mem_append_right _ (List.mem_singleton.mpr own)
  cases answer with
  | failed => exact ⟨runs_same,fun _ inside => inside,fun _ _ _ granted _ => ⟨granted.present,granted.grantee⟩,
      fun _ _ pending => pending⟩
  | lost => exact written
  | ok => exact written

/-- Another instance is granted a lock. -/
theorem keeps_acquire (found : state.runs[position]? = some run) (other : run.index ≠ index) {app : Instance}
    (answer : Answer) :
    Keeps index state (state.acquire position run app answer) := by
  have fewer := fun key => @present_acquireLock state.backend state.clock run.job.expiryTime run.job.lockKey key
  have inside := (List.getElem?_eq_some_iff.mp found).1
  have refusedOr (given : (state.acquireLock run.job).1 = false) (key : String)
      (there : present (state.acquireLock run.job).2 key = true) : present state.backend key = true := by
    rcases fewer key there with ⟨_,taken⟩ | old
    · exact absurd (given.symm.trans taken) (by decide)
    · exact old
  -- what another run got is not the lock that this one gets
  have apart {next : State} {changed : Run} (runs : next.runs = state.runs.set position changed)
      (same : changed.index = run.index)
      (grantee : next.grantee = fun key => if key = run.job.lockKey then some position else state.grantee key)
      (backend : next.backend = (state.acquireLock run.job).2) (key : String) (holder : Nat) (party : Run)
      (granted : Granted next key holder party) (here : party.index = index) :
      present state.backend key = true ∧ state.grantee key = some holder := by
    have taken := granted.grantee
    have at_ := granted.found
    have there := granted.present
    rw [grantee] at taken
    rw [runs] at at_
    rw [backend] at there
    change (if key = run.job.lockKey then some position else state.grantee key) = some holder at taken
    by_cases lock : key = run.job.lockKey
    · rw [if_pos lock] at taken
      cases taken
      rw [List.getElem?_set_self inside] at at_
      cases at_
      exact absurd (same.symm.trans here) other
    · rw [if_neg lock] at taken
      exact ⟨(fewer key there).resolve_left (fun both => lock both.1),taken⟩
  have grows (last : Call) : ∀ call ∈ run.calls, call ∈ run.calls ++ [last] := fun _ => List.mem_append_left _
  cases answer with
  | failed =>
    simp only [State.acquire]
    exact keeps_setRun found rfl (grows .unanswered)
  | lost =>
    cases given : (state.acquireLock run.job).1 with
    | false =>
      simp only [State.acquire,given,Bool.false_eq_true,and_false,if_false]
      exact ⟨runs_moved found rfl (grows .unanswered),fun _ inside => inside,
        fun key _ _ granted _ => ⟨refusedOr given key granted.present,granted.grantee⟩,fun _ _ pending => pending⟩
    | true =>
      simp only [State.acquire,given,and_true]
      exact ⟨runs_moved found rfl (grows .unanswered),fun _ inside => inside,apart rfl rfl rfl rfl,
        fun _ _ pending => pending⟩
  | ok =>
    cases given : (state.acquireLock run.job).1 with
    | false =>
      simp only [State.acquire,given]
      exact ⟨runs_moved found rfl (grows .refused),fun _ inside => inside,
        fun key _ _ granted _ => ⟨refusedOr given key granted.present,granted.grantee⟩,fun _ _ pending => pending⟩
    | true =>
      simp only [State.acquire,given,and_true]
      refine ⟨runs_moved found rfl (grows .acquired),fun _ inside => inside,apart rfl rfl rfl rfl,?_⟩
      rintro key _ ⟨party,at_,member⟩
      exact ⟨party,Parties.getElem?_kept (app.track run.job.lockKey) at_ (Ne.symm other),member⟩

end

section
variable {index : Nat} {state : State} (awaited : Awaited index state) (sound : Sound state)

include awaited sound

theorem Awaited.stepRun {next : State} {position : Nat} {run : Run} (found : state.runs[position]? = some run)
    {app : Instance} (own : state.instances[run.index]? = some app) {action : Action} (same : action.run = position)
    (closing : Closing index state action) (taken : stepRun state position run app action = some next) :
    Awaited index next := by
  have moved {changed : Run} (alike : changed.index = run.index) (calls : ∀ call ∈ run.calls, call ∈ changed.calls) :
      Awaited index (state.setRun position changed) := awaited.kept sound (keeps_setRun found alike calls)
  cases action with
  | require _ present =>
    simp only [ProcessEventQueue.stepRun] at taken
    split at taken
    · cases taken
      exact moved rfl (fun _ member => member)
    · cases taken
  | check _ checks =>
    simp only [ProcessEventQueue.stepRun] at taken
    split at taken
    · cases taken
      exact moved rfl (fun _ member => member)
    · cases taken
  | acquire number answer =>
    simp only [ProcessEventQueue.stepRun] at taken
    split at taken
    · split at taken
      · cases taken
        exact moved rfl (fun _ member => member)
      · rename_i exclusive
        cases taken
        have at_ : state.runs[number]? = some run := by
          rw [show number = position from same]
          exact found
        have other : run.index ≠ index := fun here => exclusive (closing run at_ here)
        exact awaited.kept sound (keeps_acquire found other answer)
    · cases taken
  | work _ =>
    simp only [ProcessEventQueue.stepRun] at taken
    split at taken
    · cases taken
      exact moved rfl (fun _ => List.mem_append_left _)
    · cases taken
  | renew _ answer =>
    simp only [ProcessEventQueue.stepRun] at taken
    split at taken
    · split at taken
      · cases taken
        exact awaited
      · cases taken
        exact awaited.kept sound (keeps_renew run answer)
    · cases taken
  | leave _ =>
    simp only [ProcessEventQueue.stepRun] at taken
    split at taken
    · cases taken
      exact moved rfl (fun _ member => member)
    · cases taken
  | release _ answer =>
    simp only [ProcessEventQueue.stepRun] at taken
    split at taken
    · cases taken
      unfold State.handleReleaseLock
      split
      · have freed := awaited.kept sound (keeps_free run.job.lockKey)
        have grows (last : Call) : ∀ call ∈ run.calls, call ∈ run.calls ++ [last] := fun _ => List.mem_append_left _
        cases answer with
        | failed => exact moved rfl (grows .unreleased)
        | lost => exact freed.kept (sound.free _) (@keeps_setRun index (state.free _) position run _ found rfl (grows .unreleased))
        | ok =>
          have untracked := @keeps_setInstance index (state.free run.job.lockKey) run.index app
            (app.untrack run.job.lockKey) own (fun _ _ _ member => member)
          exact freed.kept (sound.free _) ⟨runs_moved found rfl (grows .released),fun _ inside => inside,
            fun _ _ _ granted _ => ⟨granted.present,granted.grantee⟩,untracked.pending⟩
      · exact moved rfl (fun _ member => member)
    · cases taken
  | wait time => cases taken
  | start => cases taken
  | begin index job => cases taken
  | shutdown index => cases taken
  | settle index position answer => cases taken

theorem Awaited.step {next : State} {action : Action} (closing : Closing index state action)
    (taken : step state action = some next) : Awaited index next := by
  have going {action : Action} (closing : Closing index state action)
      (moved : state.runs[action.run]?.bind (fun run => state.instances[run.index]?.bind (fun app =>
        ProcessEventQueue.stepRun state action.run run app action)) = some next) : Awaited index next := by
    obtain ⟨run,found,rest⟩ := Option.bind_eq_some_iff.mp moved
    obtain ⟨app,own,last⟩ := Option.bind_eq_some_iff.mp rest
    exact awaited.stepRun sound found own rfl closing last
  cases action with
  | wait time =>
    cases taken
    exact awaited.kept sound ⟨runs_same,fun _ inside => inside,
      fun _ _ _ granted _ => ⟨granted.present,granted.grantee⟩,fun _ _ pending => pending⟩
  | start =>
    cases taken
    refine awaited.kept sound ⟨runs_same,fun _ inside => inside,
      fun _ _ _ granted _ => ⟨granted.present,granted.grantee⟩,?_⟩
    rintro key _ ⟨app,at_,member⟩
    exact ⟨app,by rw [List.getElem?_append_left (List.getElem?_eq_some_iff.mp at_).1]; exact at_,member⟩
  | begin other job =>
    simp only [ProcessEventQueue.step] at taken
    split at taken
    · cases taken
      refine awaited.kept sound ⟨fun position run after at_ later => ?_,fun _ inside => inside,
        fun _ _ _ granted _ => ⟨granted.present,granted.grantee⟩,fun _ _ pending => pending⟩
      rw [List.getElem?_append_left (List.getElem?_eq_some_iff.mp at_).1] at later
      exact runs_same position run after at_ later
    · cases taken
  | shutdown other =>
    obtain ⟨app,own,rfl⟩ := Option.map_eq_some_iff.mp taken
    exact awaited.kept sound (keeps_setInstance own (fun _ _ _ member => List.mem_append_left _ member))
  | settle other position answer =>
    obtain ⟨app,own,rest⟩ := Option.bind_eq_some_iff.mp taken
    obtain ⟨key,at_,rfl⟩ := Option.map_eq_some_iff.mp rest
    have freed := awaited.kept sound (keeps_free key)
    -- only the key that is released is awaited no longer
    have shorter (name : String) (there : present (state.free key).backend name = true) (listed : name ∈ app.pending) :
        name ∈ app.pending.eraseIdx position := by
      have apart := (present_releaseLock there).1
      obtain ⟨place,found⟩ := List.mem_iff_getElem?.mp listed
      refine List.mem_eraseIdx_iff_getElem?.mpr ⟨place,fun same => ?_,found⟩
      rw [same,at_] at found
      exact apart (Option.some.inj found).symm
    cases answer with
    | failed =>
      by_cases here : other = index
      · exact absurd rfl (closing here)
      · exact awaited.kept sound (keeps_setInstance own (fun same => absurd same here))
    | lost =>
      exact freed.kept (sound.free key) (@keeps_setInstance index (state.free key) other app
        {app with pending := app.pending.eraseIdx position} own (fun _ => shorter))
    | ok =>
      have inside := (List.getElem?_eq_some_iff.mp own).1
      have same : ((state.setInstance other {app with pending := app.pending.eraseIdx position}).releaseLock other
          {app with pending := app.pending.eraseIdx position} key .ok) =
          (state.free key).setInstance other (Instance.untrack {app with pending := app.pending.eraseIdx position} key) := by
        simp [State.releaseLock,State.setInstance,State.free]
      rw [same]
      exact freed.kept (sound.free key) (@keeps_setInstance index (state.free key) other app _ own (fun _ => shorter))
  | require run present => exact going closing taken
  | check run checks => exact going closing taken
  | acquire run answer => exact going closing taken
  | work run => exact going closing taken
  | renew run answer => exact going closing taken
  | leave run => exact going closing taken
  | release run answer => exact going closing taken

end

/-- The shutdown starts with every lock that is kept track of. -/
theorem awaited_shutdown {state next : State} (sound : Sound state) {index : Nat}
    (taken : step state (.shutdown index) = some next) : Awaited index next := by
  obtain ⟨app,own,rfl⟩ := Option.map_eq_some_iff.mp taken
  intro key position run granted here answered
  obtain ⟨party,at_,member⟩ := sound.tracked key position run
    ⟨granted.present,granted.unrenewed,granted.grantee,granted.found⟩ answered
  rw [here,own] at at_
  cases at_
  exact ⟨_,List.getElem?_set_self (List.getElem?_eq_some_iff.mp own).1,List.mem_append_right _ member⟩

/-- After a shutdown whose releases have taken effect no lock of the instance is left, whatever the other runs and
instances did in the meantime, except for locks it has not heard of and keys that a renewal has written. -/
theorem shutdown_leaves_no_lock (backend : Backend) (empty : ∀ key, present backend key = false) (actions : List Action)
    (before : State) (reached : Transition.run step (State.initial backend) actions = some before) (index : Nat)
    (later : List Action) (after : State)
    (closing : Transition.Along step (Closing index) before (.shutdown index::later))
    (closed : Transition.run step before (.shutdown index::later) = some after) (app : Instance)
    (own : after.instances[index]? = some app) (settled : app.pending = []) (position : Nat) (run : Run)
    (found : after.runs[position]? = some run) (here : run.index = index) (answered : .unanswered ∉ run.calls)
    (key : String) (there : present after.backend key = true) (unrenewed : key ∉ after.renewed) :
    after.grantee key ≠ some position := by
  intro grantee
  have sound := sound_reached empty reached
  obtain ⟨middle,taken,rest⟩ := Transition.run_cons step before after (.shutdown index) later closed
  have both := Transition.invariant step (Closing index) (fun state => Sound state ∧ Awaited index state)
    (fun state action next given guard moved => ⟨given.1.step moved,given.2.step given.1 guard moved⟩) middle after later
    ⟨sound.step taken,awaited_shutdown sound taken⟩ (closing.2 middle taken) rest
  obtain ⟨party,at_,member⟩ := both.2 key position run ⟨there,unrenewed,grantee,found⟩ here answered
  rw [own] at at_
  cases at_
  rw [settled] at member
  cases member

theorem shutdown_leaves_no_lock_processing :
    ∃ before after, Transition.run step (State.initial noLocks) oneProcesses = some before ∧
      Transition.run step before [.shutdown 0,.work 0,.settle 0 0 .ok] = some after ∧
      present before.backend taskJob.lockKey = true ∧
      ∀ key, present after.backend key = true → key ∉ after.renewed → after.grantee key ≠ some 0 := by
  refine ⟨_,_,rfl,rfl,by decide,fun key there unrenewed => ?_⟩
  refine shutdown_leaves_no_lock noLocks (fun _ => rfl) oneProcesses _ rfl 0 [.work 0,.settle 0 0 .ok] _ ?_ rfl _ rfl rfl
    0 _ rfl rfl (by decide) key there unrenewed
  refine ⟨trivial,fun _ taken => ?_⟩
  cases taken
  refine ⟨trivial,fun _ taken => ?_⟩
  cases taken
  exact ⟨fun _ => by decide,fun _ _ => trivial⟩

end EventQueue.ProcessEventQueue

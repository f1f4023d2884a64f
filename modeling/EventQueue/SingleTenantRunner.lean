import EventQueue.MultiTenancyRunner

/-! `_scheduleFunction` for a single tenant, on any number of instances: the first run of an instance lets the periodic
events be checked, unless another instance has taken the lock, and is repeated by the next run if it fails. -/
namespace EventQueue.SingleTenantRunner
open MultiTenancyRunner (Application lockKey expiryTime)

structure Instance where
  singleRunDone : Bool
  isEventQueueActive : Bool
  deriving DecidableEq

inductive Phase
  /-- `_checkPeriodicEventsSingleTenantOneTime` asks for the lock. -/
  | locking
  | checking
  /-- `_singleTenantRedis` or `_singleTenantDb`. -/
  | processing
  | ended
  | failed
  deriving DecidableEq

structure Run where
  index : Nat
  /-- It has begun with the single run. -/
  first : Bool
  phase : Phase
  deriving DecidableEq

/-- An instance was given the lock. -/
structure Locked where
  index : Nat
  time : Nat

structure State where
  clock : Nat
  redis : ExpiringStore.Store String String
  instances : List Instance
  runs : List Run
  -- The rest is history that no function reads back.
  locked : List Locked
  /-- The checks that succeeded. -/
  checked : Nat

def State.initial : State := ⟨0,fun _ => none,[],[],[],0⟩

inductive Action
  | wait (time : Nat)
  | start
  | activate (index : Nat) (active : Bool)
  /-- A timer calls `fnWithRunningCheck`. -/
  | tick (index : Nat)
  | lock (run : Nat) (fails : Bool)
  | check (run : Nat) (fails : Bool)
  | finish (run : Nat) (fails : Bool)

section
variable (app : Application)

def State.tick (state : State) (index : Nat) (caller : Instance) : State :=
  if caller.isEventQueueActive then
    if caller.singleRunDone then {state with runs := state.runs ++ [⟨index,false,.processing⟩]}
    else {state with
      instances := state.instances.set index {caller with singleRunDone := true}
      runs := state.runs ++ [⟨index,true,if app.updates then .locking else .processing⟩]}
  else state

def State.setPhase (state : State) (position : Nat) (run : Run) (phase : Phase) : State :=
  {state with runs := state.runs.set position {run with phase := phase}}

/-- `.catch(() => (singleRunDone = false))`; another run has nobody to catch its error. -/
def State.fail (state : State) (position : Nat) (run : Run) (caller : Instance) : State :=
  if run.first then
    {state.setPhase position run .failed with
      instances := state.instances.set run.index {caller with singleRunDone := false}}
  else state.setPhase position run .ended

def State.acquireLock (state : State) : Bool × ExpiringStore.Store String String :=
  Lease.acquire state.redis state.clock (lockKey app .updatePeriodicEvents) (toString state.clock)
    (expiryTime app .updatePeriodicEvents)

def State.lock (state : State) (position : Nat) (run : Run) : State :=
  let (couldAcquireLock,redis) := state.acquireLock app
  if couldAcquireLock then
    {state.setPhase position run .checking with
      redis := redis
      locked := state.locked ++ [⟨run.index,state.clock⟩]}
  else {state.setPhase position run .processing with redis := redis}

def stepRun (state : State) (position : Nat) (run : Run) (caller : Instance) : Action → Option State
  | .lock _ fails =>
    match run.phase with
    | .locking => some (if fails then state.fail position run caller else state.lock app position run)
    | _ => none
  | .check _ fails =>
    match run.phase with
    | .checking => some (if fails then state.fail position run caller
        else {state.setPhase position run .processing with checked := state.checked + 1})
    | _ => none
  | .finish _ fails =>
    match run.phase with
    | .processing => some (if fails then state.fail position run caller else state.setPhase position run .ended)
    | _ => none
  | _ => none

def Action.run : Action → Nat
  | .lock run _ => run
  | .check run _ => run
  | .finish run _ => run
  | _ => 0

def step (state : State) : Action → Option State
  | .wait time => some {state with clock := state.clock + time}
  | .start => some {state with instances := state.instances ++ [⟨false,true⟩]}
  | .activate index active => state.instances[index]?.map (fun caller =>
    {state with instances := state.instances.set index {caller with isEventQueueActive := active}})
  | .tick index => state.instances[index]?.map (fun caller => state.tick app index caller)
  | action => state.runs[action.run]?.bind (fun run => state.instances[run.index]?.bind (fun caller =>
    stepRun app state action.run run caller action))

end

/-- An instance that asks again does so when its own lock has run out. -/
def AfterOwnLock (app : Application) (state : State) : Action → Prop
  | .lock position _ => ∀ run ∈ state.runs[position]?, ∀ locked ∈ state.locked, locked.index = run.index →
      locked.time + expiryTime app .updatePeriodicEvents ≤ state.clock
  | _ => True

instance decidableAfterOwnLock (app : Application) (state : State) (action : Action) :
    Decidable (AfterOwnLock app state action) :=
  match action with
  | .lock position _ => inferInstanceAs (Decidable (∀ run ∈ state.runs[position]?, ∀ locked ∈ state.locked,
      locked.index = run.index → locked.time + expiryTime app .updatePeriodicEvents ≤ state.clock))
  | .wait _ => .isTrue trivial
  | .start => .isTrue trivial
  | .activate _ _ => .isTrue trivial
  | .tick _ => .isTrue trivial
  | .check _ _ => .isTrue trivial
  | .finish _ _ => .isTrue trivial

/-- Every instance takes the check for done, and none is on its way. -/
def AllDone (state : State) : Prop :=
  (∀ caller ∈ state.instances, caller.singleRunDone = true) ∧
    ∀ run ∈ state.runs, run.phase ≠ .locking ∧ run.phase ≠ .checking

instance decidableAllDone (state : State) : Decidable (AllDone state) := inferInstanceAs (Decidable (_ ∧ _))

/-- Runs of the instance that have begun with the single run and have not failed. -/
def counts (index : Nat) (run : Run) : Bool := run.first && decide (run.index = index) && decide (run.phase ≠ .failed)

/-- The instance is at the check, or its next run will be. -/
def Responsible (state : State) (index : Nat) : Prop :=
  (∃ run ∈ state.runs, run.index = index ∧ (run.phase = .locking ∨ run.phase = .checking)) ∨
    ∃ caller, state.instances[index]? = some caller ∧ caller.singleRunDone = false

section
variable (app : Application)

def Locked.grant (locked : Locked) : Lease.Grant String :=
  ⟨lockKey app .updatePeriodicEvents,locked.time,locked.time + expiryTime app .updatePeriodicEvents⟩

/-- What the runs of an instance are to its `singleRunDone`. -/
structure Single (state : State) : Prop where
  started : ∀ run ∈ state.runs, run.index < state.instances.length
  first : ∀ run ∈ state.runs, run.phase = .locking ∨ run.phase = .checking → run.first = true
  once : ∀ index caller, state.instances[index]? = some caller →
    state.runs.countP (counts index) = if caller.singleRunDone then 1 else 0

/-- Nobody needs to ask as long as the lock was not taken, and then whoever took it last is responsible. -/
structure Owed (state : State) : Prop where
  kept : Lease.Kept state.redis (state.locked.map (Locked.grant app)) state.clock
  unlocked : state.locked = [] → ∀ index caller, state.instances[index]? = some caller →
    caller.singleRunDone = true → ∃ run ∈ state.runs, run.index = index ∧ run.phase = .locking
  last : ∀ earlier locked, state.locked = earlier ++ [locked] → 0 < state.checked ∨ Responsible state locked.index

end

section
variable {app : Application} {state next : State}

theorem initial_single : Single State.initial :=
  ⟨by simp [State.initial],by simp [State.initial],by simp [State.initial]⟩

theorem initial_owed (app : Application) : Owed app State.initial :=
  ⟨Lease.kept_empty 0,by simp [State.initial],by simp [State.initial]⟩

theorem Single.start (single : Single state) :
    Single {state with instances := state.instances ++ [⟨false,true⟩]} where
  started := by
    intro run member
    rw [List.length_append]
    exact Nat.lt_add_right _ (single.started run member)
  first := single.first
  once := by
    intro index caller found
    rcases Parties.getElem?_joined found with before | ⟨rfl,rfl⟩
    · exact single.once index caller before
    · simp only [Bool.false_eq_true,if_false,List.countP_eq_zero]
      intro run member counted
      have inside := single.started run member
      simp only [counts,Bool.and_eq_true,decide_eq_true_eq] at counted
      omega

theorem Single.activate (single : Single state) {index : Nat} {caller : Instance}
    (found : state.instances[index]? = some caller) (active : Bool) :
    Single {state with instances := state.instances.set index {caller with isEventQueueActive := active}} where
  started := by
    intro run member
    rw [List.length_set]
    exact single.started run member
  first := single.first
  once := Parties.forall_getElem?_moved found single.once (single.once index caller found)

theorem Single.tick (single : Single state) {index : Nat} {caller : Instance}
    (found : state.instances[index]? = some caller) : Single (state.tick app index caller) := by
  have inside := (List.getElem?_eq_some_iff.mp found).1
  have counted := single.once index caller found
  unfold State.tick
  split
  · split
    · refine ⟨?_,?_,fun position other at_ => ?_⟩
      · intro run member
        rcases List.mem_append.mp member with before | last
        · exact single.started run before
        · rw [List.mem_singleton.mp last]
          exact inside
      · intro run member early
        rcases List.mem_append.mp member with before | last
        · exact single.first run before early
        · rw [List.mem_singleton.mp last] at early
          simp at early
      · have same : (state.runs ++ [Run.mk index false .processing]).countP (counts position) =
            state.runs.countP (counts position) := by simp [counts]
        rw [same]
        exact single.once position other at_
    · rename_i undone
      refine ⟨?_,?_,?_⟩
      · intro run member
        rw [List.length_set]
        rcases List.mem_append.mp member with before | last
        · exact single.started run before
        · rw [List.mem_singleton.mp last]
          exact inside
      · intro run member early
        rcases List.mem_append.mp member with before | last
        · exact single.first run before early
        · rw [List.mem_singleton.mp last]
      · intro position other at_
        rw [List.countP_append]
        rcases Parties.getElem?_moved found at_ with ⟨rfl,rfl⟩ | ⟨apart,before⟩
        · simp only [undone,Bool.false_eq_true,if_false] at counted
          rw [counted]
          cases app.updates <;> simp [counts]
        · rw [single.once position other before]
          simp [counts,Ne.symm apart]
  · exact single

/-- A run goes on without a failure. -/
theorem Single.going (single : Single state) {position : Nat} {run : Run} (found : state.runs[position]? = some run)
    {phase : Phase} (runs : next.runs = state.runs.set position {run with phase := phase})
    (instances : next.instances = state.instances) (before : run.phase ≠ .failed) (after : phase ≠ .failed)
    (first : phase = .locking ∨ phase = .checking → run.first = true) : Single next where
  started := by
    rw [runs,instances]
    exact Parties.forall_mem_moved single.started (single.started run (List.mem_of_getElem? found))
  first := by
    rw [runs]
    exact Parties.forall_mem_moved single.first first
  once := by
    intro index caller at_
    rw [instances] at at_
    have same : counts index {run with phase := phase} = counts index run := by simp [counts,before,after]
    have moved := Parties.countP_moved (counts index) {run with phase := phase} found
    rw [same] at moved
    rw [runs]
    exact (Nat.add_right_cancel moved).trans (single.once index caller at_)

theorem Single.fail (single : Single state) {position : Nat} {run : Run} (found : state.runs[position]? = some run)
    {caller : Instance} (own : state.instances[run.index]? = some caller) (before : run.phase ≠ .failed) :
    Single (state.fail position run caller) := by
  unfold State.fail
  split
  · rename_i first
    refine ⟨?_,Parties.forall_mem_moved single.first (fun _ => first),?_⟩
    · refine Parties.forall_mem_moved (fun other member => ?_) ?_
      · rw [List.length_set]
        exact single.started other member
      · rw [List.length_set]
        exact single.started run (List.mem_of_getElem? found)
    · intro index other at_
      have moved := Parties.countP_moved (counts index) {run with phase := .failed} found
      have quiet : counts index {run with phase := .failed} = false := by simp [counts]
      rw [quiet] at moved
      simp only [Bool.false_eq_true,if_false,Nat.add_zero] at moved
      change (state.runs.set position {run with phase := .failed}).countP (counts index) = _
      rcases Parties.getElem?_moved own at_ with ⟨rfl,rfl⟩ | ⟨apart,old⟩
      · have counted : counts run.index run = true := by simp [counts,first,before]
        have once := single.once run.index caller own
        rw [counted,if_pos rfl] at moved
        simp only [Bool.false_eq_true,if_false]
        split at once <;> omega
      · have ignored : counts index run = false := by simp [counts,Ne.symm apart]
        rw [ignored] at moved
        simp only [Bool.false_eq_true,if_false,Nat.add_zero] at moved
        rw [moved]
        exact single.once index other old
  · rename_i later
    have plain : run.first = false := eq_false_of_ne_true later
    exact single.going found rfl rfl before (by simp) (by simp)

/-- Whoever is responsible stays so, unless a run of the instance moves or its switch does. -/
theorem Responsible.kept {index : Nat} (responsible : Responsible state index)
    (runs : ∀ run ∈ state.runs, run.index = index → run.phase = .locking ∨ run.phase = .checking → run ∈ next.runs)
    (instances : ∀ caller, state.instances[index]? = some caller → caller.singleRunDone = false →
      ∃ other, next.instances[index]? = some other ∧ other.singleRunDone = false) : Responsible next index := by
  rcases responsible with ⟨run,member,own,early⟩ | ⟨caller,found,undone⟩
  · exact Or.inl ⟨run,runs run member own early,own,early⟩
  · exact Or.inr (instances caller found undone)

theorem Owed.wait (owed : Owed app state) (time : Nat) : Owed app {state with clock := state.clock + time} :=
  ⟨owed.kept.later (Nat.le_add_right _ _),owed.unlocked,owed.last⟩

theorem Owed.start (owed : Owed app state) :
    Owed app {state with instances := state.instances ++ [⟨false,true⟩]} := by
  refine ⟨owed.kept,fun none index caller found done => ?_,fun earlier locked same => ?_⟩
  · rcases Parties.getElem?_joined found with before | ⟨_,rfl⟩
    · exact owed.unlocked none index caller before done
    · cases done
  · refine (owed.last earlier locked same).imp_right (fun responsible => ?_)
    refine responsible.kept (fun run member _ _ => member) (fun caller found undone => ⟨caller,?_,undone⟩)
    rw [List.getElem?_append_left (List.getElem?_eq_some_iff.mp found).1]
    exact found

theorem Owed.activate (owed : Owed app state) {index : Nat} {caller : Instance}
    (found : state.instances[index]? = some caller) (active : Bool) :
    Owed app {state with instances := state.instances.set index {caller with isEventQueueActive := active}} := by
  refine ⟨owed.kept,fun none position other at_ done => ?_,fun earlier locked same => ?_⟩
  · rcases Parties.getElem?_moved found at_ with ⟨rfl,rfl⟩ | ⟨_,before⟩
    · exact owed.unlocked none position caller found done
    · exact owed.unlocked none position other before done
  · refine (owed.last earlier locked same).imp_right (fun responsible => ?_)
    refine responsible.kept (fun run member _ _ => member) (fun other at_ undone => ?_)
    by_cases own : locked.index = index
    · rw [own] at at_ ⊢
      cases found.symm.trans at_
      exact ⟨_,List.getElem?_set_self (List.getElem?_eq_some_iff.mp found).1,undone⟩
    · exact ⟨other,Parties.getElem?_kept _ at_ own,undone⟩

/-- An instance that begins its single run asks for the lock next. -/
theorem Owed.tick (owed : Owed app state) (updates : app.updates = true) {index : Nat} {caller : Instance}
    (found : state.instances[index]? = some caller) : Owed app (state.tick app index caller) := by
  unfold State.tick
  split
  · split
    · refine ⟨owed.kept,fun none position other at_ done => ?_,fun earlier locked same => ?_⟩
      · obtain ⟨run,member,asks⟩ := owed.unlocked none position other at_ done
        exact ⟨run,List.mem_append_left _ member,asks⟩
      · refine (owed.last earlier locked same).imp_right (fun responsible => ?_)
        exact responsible.kept (fun run member _ _ => List.mem_append_left _ member)
          (fun other at_ undone => ⟨other,at_,undone⟩)
    · have asking : ∃ run ∈ state.runs ++ [Run.mk index true .locking], run.index = index ∧ run.phase = .locking :=
        ⟨⟨index,true,.locking⟩,by simp,rfl,rfl⟩
      refine ⟨owed.kept,fun none position other at_ done => ?_,fun earlier locked same => ?_⟩
      · rcases Parties.getElem?_moved found at_ with ⟨rfl,_⟩ | ⟨_,before⟩
        · exact asking
        · obtain ⟨run,member,asks⟩ := owed.unlocked none position other before done
          exact ⟨run,List.mem_append_left _ member,asks⟩
      · refine (owed.last earlier locked same).imp_right (fun responsible => ?_)
        by_cases own : locked.index = index
        · obtain ⟨run,member,same,asks⟩ := asking
          exact Or.inl ⟨run,member,same.trans own.symm,Or.inl asks⟩
        · exact responsible.kept (fun run member _ _ => List.mem_append_left _ member)
            (fun other at_ undone => ⟨other,Parties.getElem?_kept _ at_ own,undone⟩)
  · exact owed

/-- A run goes on that did not ask for the lock; a check has succeeded if it was at the check. -/
theorem Owed.going (owed : Owed app state) {position : Nat} {run : Run} (found : state.runs[position]? = some run)
    {phase : Phase} (runs : next.runs = state.runs.set position {run with phase := phase})
    (instances : next.instances = state.instances) (redis : next.redis = state.redis) (clock : next.clock = state.clock)
    (locked : next.locked = state.locked) (checked : state.checked ≤ next.checked) (before : run.phase ≠ .locking)
    (succeeded : run.phase = .checking → 0 < next.checked) : Owed app next := by
  have others : ∀ other ∈ state.runs, other ≠ run → other ∈ next.runs := by
    intro other member differs
    rw [runs]
    exact (Parties.mem_moved _ found member).resolve_left differs
  refine ⟨?_,?_,fun earlier last same => ?_⟩
  · rw [redis,clock,locked]
    exact owed.kept
  · rw [locked,instances]
    intro none index caller at_ done
    obtain ⟨asking,member,own,asks⟩ := owed.unlocked none index caller at_ done
    refine ⟨asking,others asking member (fun same => before ?_),own,asks⟩
    rw [← same]
    exact asks
  · rw [locked] at same
    rcases owed.last earlier last same with positive | responsible
    · exact Or.inl (Nat.lt_of_lt_of_le positive checked)
    · by_cases checking : run.phase = .checking
      · exact Or.inl (succeeded checking)
      · refine Or.inr (responsible.kept (fun other member _ early => others other member (fun same => ?_)) ?_)
        · rw [same] at early
          exact early.elim before checking
        · rw [instances]
          exact fun caller at_ undone => ⟨caller,at_,undone⟩

/-- The instance of a run that has failed begins again. -/
theorem Owed.failed (owed : Owed app state) {position : Nat} {run : Run} (found : state.runs[position]? = some run)
    {caller : Instance} (own : state.instances[run.index]? = some caller) :
    Owed app {state.setPhase position run .failed with
      instances := state.instances.set run.index {caller with singleRunDone := false}} := by
  have others : ∀ other ∈ state.runs, other.index ≠ run.index →
      other ∈ state.runs.set position {run with phase := .failed} := by
    intro other member differs
    exact (Parties.mem_moved _ found member).resolve_left (fun same => differs (congrArg Run.index same))
  refine ⟨owed.kept,fun none index other at_ done => ?_,fun earlier last same => ?_⟩
  · rcases Parties.getElem?_moved own at_ with ⟨_,rfl⟩ | ⟨apart,before⟩
    · cases done
    · obtain ⟨asking,member,same,asks⟩ := owed.unlocked none index other before done
      exact ⟨asking,others asking member (by rw [same]; exact apart),same,asks⟩
  · refine (owed.last earlier last same).imp_right (fun responsible => ?_)
    by_cases here : last.index = run.index
    · refine Or.inr ⟨{caller with singleRunDone := false},?_,rfl⟩
      rw [here]
      exact List.getElem?_set_self (List.getElem?_eq_some_iff.mp own).1
    · refine responsible.kept (fun other member same _ => others other member (by rw [same]; exact here)) ?_
      exact fun other at_ undone => ⟨other,Parties.getElem?_kept _ at_ here,undone⟩

theorem Owed.fail (owed : Owed app state) {position : Nat} {run : Run} (found : state.runs[position]? = some run)
    {caller : Instance} (own : state.instances[run.index]? = some caller)
    (early : run.phase = .locking ∨ run.phase = .checking → run.first = true) :
    Owed app (state.fail position run caller) := by
  unfold State.fail
  split
  · exact owed.failed found own
  · rename_i later
    refine owed.going found rfl rfl rfl rfl rfl (Nat.le_refl _) (fun locking => later (early (Or.inl locking))) ?_
    exact fun checking => absurd (early (Or.inr checking)) later

/-- All locks have run out when the last one has. -/
theorem Owed.free (owed : Owed app state) {earlier : List Locked} {last : Locked} (same : state.locked = earlier ++ [last])
    (passed : last.time + expiryTime app .updatePeriodicEvents ≤ state.clock) :
    Lease.Free (state.locked.map (Locked.grant app)) state.clock (lockKey app .updatePeriodicEvents) := by
  have apart := owed.kept.apart
  rw [same] at apart ⊢
  rw [List.map_append,List.map_singleton] at apart ⊢
  intro grant member own
  rcases List.mem_append.mp member with before | newest
  · have order := (List.pairwise_append.mp apart).2.2 grant before _ (List.mem_singleton_self _) own
    exact Nat.le_trans order (Nat.le_trans (Nat.le_add_right _ _) passed)
  · rw [List.mem_singleton.mp newest]
    exact passed

/-- If the lock is refused, the instance that took it last is another one. -/
theorem Owed.refused (owed : Owed app state) {run : Run} (refused : (state.acquireLock app).1 = false)
    (afterOwn : ∀ locked ∈ state.locked, locked.index = run.index →
      locked.time + expiryTime app .updatePeriodicEvents ≤ state.clock) :
    ∃ earlier last, state.locked = earlier ++ [last] ∧ last.index ≠ run.index := by
  have held : ¬Lease.Free (state.locked.map (Locked.grant app)) state.clock (lockKey app .updatePeriodicEvents) := by
    rw [← owed.kept.acquire_iff (toString state.clock) (expiryTime app .updatePeriodicEvents),Bool.not_eq_true]
    exact refused
  rcases List.eq_nil_or_concat' state.locked with none | ⟨earlier,last,same⟩
  · rw [none] at held
    exact absurd (fun grant member => by cases member) held
  · refine ⟨earlier,last,same,fun own => held (owed.free same (afterOwn last ?_ own))⟩
    rw [same]
    simp

theorem Owed.lock (owed : Owed app state) {position : Nat} {run : Run} (found : state.runs[position]? = some run)
    (afterOwn : ∀ locked ∈ state.locked, locked.index = run.index →
      locked.time + expiryTime app .updatePeriodicEvents ≤ state.clock) : Owed app (state.lock app position run) := by
  cases given : (state.acquireLock app).1 with
  | true =>
    have locked : state.lock app position run = {state.setPhase position run .checking with
        redis := (state.acquireLock app).2
        locked := state.locked ++ [⟨run.index,state.clock⟩]} := by simp [State.lock,given]
    rw [locked]
    refine ⟨?_,by simp,fun earlier last same => Or.inr (Or.inl ⟨{run with phase := .checking},?_,?_,Or.inr rfl⟩)⟩
    · simp only [List.map_append,List.map_singleton]
      exact owed.kept.acquire_granted _ _ given
    · exact List.mem_set (List.getElem?_eq_some_iff.mp found).1 _
    · have newest := List.append_inj_right' same rfl
      exact (congrArg Locked.index (List.singleton_inj.mp newest))
  | false =>
    have unchanged : (state.acquireLock app).2 = state.redis := Lease.acquire_refused _ _ given
    have refused : state.lock app position run = state.setPhase position run .processing := by
      simp [State.lock,given,unchanged,State.setPhase]
    rw [refused]
    obtain ⟨earlier,last,same,apart⟩ := owed.refused given afterOwn
    refine ⟨owed.kept,fun none => ?_,fun before newest equal => ?_⟩
    · change state.locked = [] at none
      rw [same] at none
      simp at none
    · obtain ⟨rfl,rfl⟩ : earlier = before ∧ last = newest := by
        have parts := List.append_inj' (same.symm.trans equal) rfl
        exact ⟨parts.1,List.singleton_inj.mp parts.2⟩
      refine (owed.last earlier last same).imp_right (fun responsible => ?_)
      refine responsible.kept (fun other member own _ => ?_) (fun caller at_ undone => ⟨caller,at_,undone⟩)
      refine (Parties.mem_moved _ found member).resolve_left (fun mine => apart ?_)
      rw [← own,mine]

theorem Single.lock (single : Single state) {position : Nat} {run : Run} (found : state.runs[position]? = some run)
    (before : run.phase = .locking) : Single (state.lock app position run) := by
  have kept : run.phase ≠ .failed := by simp [before]
  have first := single.first run (List.mem_of_getElem? found) (Or.inl before)
  unfold State.lock
  simp only
  split
  · exact single.going found rfl rfl kept (by simp) (fun _ => first)
  · exact single.going found rfl rfl kept (by simp) (by simp)

theorem Single.stepRun (single : Single state) {position : Nat} {run : Run} (found : state.runs[position]? = some run)
    {caller : Instance} (own : state.instances[run.index]? = some caller) {action : Action}
    (taken : stepRun app state position run caller action = some next) : Single next := by
  cases action with
  | lock _ fails =>
    simp only [SingleTenantRunner.stepRun] at taken
    split at taken
    · rename_i phase
      cases taken
      split
      · exact single.fail found own (by simp [phase])
      · exact single.lock found phase
    · cases taken
  | check _ fails =>
    simp only [SingleTenantRunner.stepRun] at taken
    split at taken
    · rename_i phase
      cases taken
      split
      · exact single.fail found own (by simp [phase])
      · exact single.going found rfl rfl (by simp [phase]) (by simp) (by simp)
    · cases taken
  | finish _ fails =>
    simp only [SingleTenantRunner.stepRun] at taken
    split at taken
    · rename_i phase
      cases taken
      split
      · exact single.fail found own (by simp [phase])
      · exact single.going found rfl rfl (by simp [phase]) (by simp) (by simp)
    · cases taken
  | wait time => cases taken
  | start => cases taken
  | activate index active => cases taken
  | tick index => cases taken

theorem Owed.stepRun (owed : Owed app state) (single : Single state) {position : Nat} {run : Run}
    (found : state.runs[position]? = some run) {caller : Instance} (own : state.instances[run.index]? = some caller)
    {action : Action} (same : action.run = position) (afterOwn : AfterOwnLock app state action)
    (taken : stepRun app state position run caller action = some next) : Owed app next := by
  have first := single.first run (List.mem_of_getElem? found)
  cases action with
  | lock mine fails =>
    obtain rfl : mine = position := same
    simp only [SingleTenantRunner.stepRun] at taken
    split at taken
    · cases taken
      split
      · exact owed.fail found own first
      · exact owed.lock found (afterOwn run found)
    · cases taken
  | check _ fails =>
    simp only [SingleTenantRunner.stepRun] at taken
    split at taken
    · rename_i phase
      cases taken
      split
      · exact owed.fail found own first
      · exact owed.going found rfl rfl rfl rfl rfl (Nat.le_succ _) (by simp [phase]) (fun _ => Nat.succ_pos _)
    · cases taken
  | finish _ fails =>
    simp only [SingleTenantRunner.stepRun] at taken
    split at taken
    · rename_i phase
      cases taken
      split
      · exact owed.fail found own first
      · exact owed.going found rfl rfl rfl rfl rfl (Nat.le_refl _) (by simp [phase]) (by simp [phase])
    · cases taken
  | wait time => cases taken
  | start => cases taken
  | activate index active => cases taken
  | tick index => cases taken

theorem Single.step (single : Single state) {action : Action} (taken : step app state action = some next) :
    Single next := by
  have going {action : Action} (moved : state.runs[action.run]?.bind (fun run =>
      state.instances[run.index]?.bind (fun caller =>
        SingleTenantRunner.stepRun app state action.run run caller action)) = some next) : Single next := by
    obtain ⟨run,found,rest⟩ := Option.bind_eq_some_iff.mp moved
    obtain ⟨caller,own,last⟩ := Option.bind_eq_some_iff.mp rest
    exact single.stepRun found own last
  cases action with
  | wait time =>
    cases taken
    exact ⟨single.started,single.first,single.once⟩
  | start =>
    cases taken
    exact single.start
  | activate index active =>
    obtain ⟨caller,found,rfl⟩ := Option.map_eq_some_iff.mp taken
    exact single.activate found active
  | tick index =>
    obtain ⟨caller,found,rfl⟩ := Option.map_eq_some_iff.mp taken
    exact single.tick found
  | lock run fails => exact going taken
  | check run fails => exact going taken
  | finish run fails => exact going taken

theorem Owed.step (owed : Owed app state) (single : Single state) (updates : app.updates = true) {action : Action}
    (afterOwn : AfterOwnLock app state action) (taken : step app state action = some next) : Owed app next := by
  have going {action : Action} (afterOwn : AfterOwnLock app state action) (moved : state.runs[action.run]?.bind (fun run =>
      state.instances[run.index]?.bind (fun caller =>
        SingleTenantRunner.stepRun app state action.run run caller action)) = some next) : Owed app next := by
    obtain ⟨run,found,rest⟩ := Option.bind_eq_some_iff.mp moved
    obtain ⟨caller,own,last⟩ := Option.bind_eq_some_iff.mp rest
    exact owed.stepRun single found own rfl afterOwn last
  cases action with
  | wait time =>
    cases taken
    exact owed.wait time
  | start =>
    cases taken
    exact owed.start
  | activate index active =>
    obtain ⟨caller,found,rfl⟩ := Option.map_eq_some_iff.mp taken
    exact owed.activate found active
  | tick index =>
    obtain ⟨caller,found,rfl⟩ := Option.map_eq_some_iff.mp taken
    exact owed.tick updates found
  | lock run fails => exact going afterOwn taken
  | check run fails => exact going afterOwn taken
  | finish run fails => exact going afterOwn taken

/-- When all instances take the check for done, one has done it. -/
theorem Owed.done (owed : Owed app state) (someone : state.instances ≠ []) (allDone : AllDone state) :
    0 < state.checked := by
  rcases List.eq_nil_or_concat' state.locked with none | ⟨earlier,last,same⟩
  · obtain ⟨caller,found⟩ := List.exists_mem_of_ne_nil _ someone
    obtain ⟨index,at_⟩ := List.mem_iff_getElem?.mp found
    obtain ⟨run,member,_,asks⟩ := owed.unlocked none index caller at_ (allDone.1 caller found)
    exact absurd asks (allDone.2 run member).1
  · rcases owed.last earlier last same with positive | ⟨run,member,_,early⟩ | ⟨caller,at_,undone⟩
    · exact positive
    · exact absurd early (not_or.mpr (allDone.2 run member))
    · rw [allDone.1 caller (List.mem_of_getElem? at_)] at undone
      cases undone

end

/-- Of the runs of an instance that began with the single run, one at most has not failed, and there is one iff the
instance will not begin another: the single run is repeated after every failure, never otherwise and never twice at the
same time. -/
theorem single_run_repeated_iff (app : Application) (actions : List Action) (state : State)
    (reached : Transition.run (step app) State.initial actions = some state) (index : Nat) (caller : Instance)
    (found : state.instances[index]? = some caller) :
    state.runs.countP (counts index) = if caller.singleRunDone then 1 else 0 := by
  have single := Transition.invariant (step app) (fun _ _ => True) Single (fun _ _ _ single _ taken => single.step taken)
    State.initial state actions initial_single (Transition.along_true _ _ _) reached
  exact single.once index caller found

/-- Two instances that start together with an interval of a minute. -/
def everyMinute : Application := ⟨"default",true,true,false,60000⟩

/-- The instance that gets the lock fails and repeats the check a minute later. -/
def failedOnce : List Action :=
  [.start,.start,.tick 0,.tick 1,.lock 1 false,.lock 0 false,.check 1 true,.finish 0 false,.wait 60000,.tick 0,.tick 1,
    .lock 3 false,.check 3 false,.finish 3 false]

theorem single_run_repeated_iff_failed_once :
    ∃ state, Transition.run (step everyMinute) State.initial failedOnce = some state ∧
      state.instances[1]? = some ⟨true,true⟩ ∧ state.runs[1]? = some ⟨1,true,.failed⟩ ∧
      state.runs.countP (counts 1) = 1 :=
  ⟨_,rfl,rfl,rfl,single_run_repeated_iff everyMinute failedOnce _ rfl 1 ⟨true,true⟩ rfl⟩

/-- Where periodic events have to be checked, they have been once every instance takes the check for done, if no instance
repeats it before its own lock has run out. -/
theorem check_never_lost (app : Application) (updates : app.updates = true) (actions : List Action) (state : State)
    (reached : Transition.run (step app) State.initial actions = some state)
    (afterOwn : Transition.Along (step app) (AfterOwnLock app) State.initial actions)
    (someone : state.instances ≠ []) (allDone : AllDone state) : 0 < state.checked := by
  have both := Transition.invariant (step app) (AfterOwnLock app) (fun state => Single state ∧ Owed app state)
    (fun _ _ _ both afterOwn taken => ⟨both.1.step taken,both.2.step both.1 updates afterOwn taken⟩) State.initial state
    actions ⟨initial_single,initial_owed app⟩ afterOwn reached
  exact both.2.done someone allDone

theorem check_never_lost_failed_once :
    ∃ state, Transition.run (step everyMinute) State.initial failedOnce = some state ∧ 0 < state.checked :=
  ⟨_,rfl,check_never_lost everyMinute rfl failedOnce _ rfl (by decide) (by decide) (by decide)⟩

/-- With a shorter interval, the instance that has failed is refused its own lock, and nobody does the check. -/
example : (Transition.run (step everyMinute) State.initial [.start,.tick 0,.lock 0 false,.check 0 true,.wait 30000,
    .tick 0,.lock 1 false,.finish 1 false]).map (fun state => (state.instances,state.runs,state.checked)) =
      some ([⟨true,true⟩],[⟨0,true,.failed⟩,⟨0,true,.ended⟩],0) := by
  decide

end EventQueue.SingleTenantRunner

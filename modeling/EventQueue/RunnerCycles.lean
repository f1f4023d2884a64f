import EventQueue.EventScheduler
import EventQueue.FirstRun
import EventQueue.MultiTenancyRunner
import EventQueue.SetIntervalDriftSafe

/-! Instances of one application from `_scheduleFunction` on. Each takes the time of its first run from the timestamp in
Redis and runs once per interval from then on; every run asks for the lock of the master. If timers and commands are not
too late, the runs of an interval find exactly one master among them. -/
namespace EventQueue.RunnerCycles
open EventScheduler (timeoutOf TIMEOUT_MAX)

inductive Stage
  /-- `_calculateOffsetForFirstRun` is under way. -/
  | calculating
  /-- The first run is set for this time. -/
  | waiting (target : Int)
  | running (intervalRunner : SetIntervalDriftSafe.State)

structure Instance where
  stage : Stage
  isEventQueueActive : Bool
  /-- When the next run is due; no function reads it. -/
  due : Nat

/-- A run began, later than it was due. -/
structure Begun where
  due : Nat
  time : Nat

/-- The answer to a run that asked for the lock of the master. -/
structure Request where
  due : Nat
  granted : Bool
  deriving DecidableEq

structure State where
  calls : FirstRun.State
  runner : MultiTenancyRunner.State
  instances : List Instance
  -- The rest is history that no function reads back.
  /-- One for each run. -/
  begun : List Begun
  requests : List Request

def State.initial : State := ⟨.initial,.initial,[],[],[]⟩

def State.clock (state : State) : Nat := state.runner.clock

inductive Action
  | wait (time : Nat)
  | start
  | calculate (command : FirstRun.Action)
  | schedule (index : Nat)
  | activate (index : Nat) (active : Bool)
  | first (index : Nat)
  | fire (index id : Nat)
  | run (action : MultiTenancyRunner.Action)

def isCommand : FirstRun.Action → Bool
  | .get _ => true
  | .setNX _ => true
  | .getAgain _ => true
  | _ => false

def isOfRun : MultiTenancyRunner.Action → Bool
  | .fetch _ _ => true
  | .lockUpdate _ _ => true
  | .updated _ => true
  | .lockMaster _ _ => true
  | .finish _ => true
  | _ => false

def State.setInstance (state : State) (index : Nat) (changed : Instance) : State :=
  {state with instances := state.instances.set index changed}

section
variable (app : MultiTenancyRunner.Application) (hash : List String → String)

def State.both (state : State) (command : FirstRun.Action) (action : MultiTenancyRunner.Action) : Option State :=
  (FirstRun.step app.runInterval state.calls command).bind (fun calls =>
    (MultiTenancyRunner.step hash state.runner action).map (fun runner => {state with calls := calls,runner := runner}))

def State.fnWithRunningCheck (state : State) (index : Nat) (caller : Instance) : Option State :=
  if caller.isEventQueueActive then
    (MultiTenancyRunner.step hash state.runner (.begin index)).map (fun runner =>
      {state with runner := runner,begun := state.begun ++ [⟨caller.due,state.clock⟩]})
  else some state

/-- A timer of the instance fires; the next run is due an interval later. -/
def State.tick (state : State) (index : Nat) (caller : Instance) (intervalRunner : SetIntervalDriftSafe.State) :
    Option State :=
  (state.fnWithRunningCheck hash index caller).map (fun next => next.setInstance index
    {caller with stage := .running intervalRunner,due := caller.due + app.runInterval})

/-- The requests that Redis answers. -/
def State.requested (state : State) : MultiTenancyRunner.Action → List Request
  | .lockMaster position false =>
    if app.filtersTenants then []
    else state.begun[position]?.toList.map (fun begun =>
      ⟨begun.due,(state.runner.acquireLock app .runRedisCheck).1⟩)
  | _ => []

def stepInstance (state : State) (index : Nat) (caller : Instance) : Action → Option State
  | .schedule _ =>
    match caller.stage,state.calls.instances[index]? with
    | .calculating,some call => (call.offset app.runInterval).map (fun offset => state.setInstance index
        {caller with stage := .waiting (state.clock + timeoutOf offset),due := (call.now + offset).toNat})
    | _,_ => none
  | .activate _ active => some (state.setInstance index {caller with isEventQueueActive := active})
  | .first _ =>
    match caller.stage with
    | .waiting _ => state.tick app hash index caller
        ((SetIntervalDriftSafe.created app.runInterval).start app.runInterval state.clock)
    | _ => none
  | .fire _ id =>
    match caller.stage with
    | .running intervalRunner =>
      (SetIntervalDriftSafe.step app.runInterval intervalRunner (.fire id state.clock)).bind (fun next =>
        state.tick app hash index caller next)
    | _ => none
  | _ => none

def Action.index : Action → Nat
  | .schedule index => index
  | .activate index _ => index
  | .first index => index
  | .fire index _ => index
  | _ => 0

def step (state : State) : Action → Option State
  | .wait time => state.both app hash (.wait time) (.wait time)
  | .start => (state.both app hash .call (.start app)).map (fun next =>
      {next with instances := next.instances ++ [⟨.calculating,true,0⟩]})
  | .calculate command =>
    if isCommand command then
      (FirstRun.step app.runInterval state.calls command).map (fun calls => {state with calls := calls})
    else none
  | .run action =>
    if isOfRun action then
      (MultiTenancyRunner.step hash state.runner action).map (fun runner =>
        {state with runner := runner,requests := state.requests ++ state.requested app action})
    else none
  | action => state.instances[action.index]?.bind (fun caller => stepInstance app hash state action.index caller action)

end

/-- How late things may be: the timer of the first run is set, a timer fires, a run asks for the lock. -/
structure Tolerance where
  schedule : Nat
  timer : Nat
  lock : Nat

/-- A run may be late by the first timer and by its own. -/
def Tolerance.began (tolerance : Tolerance) : Nat := tolerance.schedule + 2 * tolerance.timer

def Tolerance.asked (tolerance : Tolerance) : Nat := tolerance.began + tolerance.lock

def Stage.target? : Stage → Option Int
  | .waiting target => some target
  | _ => none

def Stage.timer? (id : Nat) : Stage → Option Rat
  | .running intervalRunner => intervalRunner.timers.get? id
  | _ => none

/-- The timestamp keeps the phase, no timer fires early, and nothing is later than it may be. -/
def Punctual (app : MultiTenancyRunner.Application) (tolerance : Tolerance) (state : State) : Action → Prop
  | .calculate command => FirstRun.KeepsPhase app.runInterval state.calls command
  | .schedule index => ∀ call ∈ state.calls.instances[index]?, ∀ offset ∈ call.offset app.runInterval,
      state.clock + timeoutOf offset ≤ call.now + offset + tolerance.schedule
  | .first index => ∀ caller ∈ state.instances[index]?, ∀ target ∈ caller.stage.target?,
      target ≤ state.clock ∧ state.clock ≤ target + tolerance.timer
  | .fire index id => ∀ caller ∈ state.instances[index]?, ∀ target ∈ caller.stage.timer? id,
      target ≤ state.clock ∧ state.clock ≤ target + tolerance.timer
  | .run (.lockMaster position _) => ∀ begun ∈ state.begun[position]?, state.clock ≤ begun.time + tolerance.lock
  | _ => True

instance decidablePunctual (app : MultiTenancyRunner.Application) (tolerance : Tolerance) (state : State)
    (action : Action) : Decidable (Punctual app tolerance state action) :=
  match action with
  | .calculate (.get index) => inferInstanceAs (Decidable (∀ caller ∈ state.calls.instances[index]?,
      caller.stage = .reading → ∀ lastRunTs ∈ state.calls.read, lastRunTs ≤ caller.now))
  | .calculate (.setNX index) => inferInstanceAs (Decidable (∀ caller ∈ state.calls.instances[index]?,
      caller.stage = .missed → ∀ item ∈ state.calls.redis FirstRun.EVENT_QUEUE_RUN_TS,
        item.deadline ≤ state.calls.clock → item.value ≡ caller.now [MOD app.runInterval]))
  | .calculate (.getAgain index) => inferInstanceAs (Decidable (∀ caller ∈ state.calls.instances[index]?,
      caller.stage = .refused → ∀ item ∈ state.calls.redis FirstRun.EVENT_QUEUE_RUN_TS,
        if item.deadline ≤ state.calls.clock then item.value ≡ 0 [MOD app.runInterval] else item.value ≤ caller.now))
  | .calculate (.wait _) => .isTrue trivial
  | .calculate .call => .isTrue trivial
  | .schedule index => inferInstanceAs (Decidable (∀ call ∈ state.calls.instances[index]?,
      ∀ offset ∈ call.offset app.runInterval,
        state.clock + timeoutOf offset ≤ call.now + offset + tolerance.schedule))
  | .first index => inferInstanceAs (Decidable (∀ caller ∈ state.instances[index]?, ∀ target ∈ caller.stage.target?,
      target ≤ state.clock ∧ state.clock ≤ target + tolerance.timer))
  | .fire index id => inferInstanceAs (Decidable (∀ caller ∈ state.instances[index]?, ∀ target ∈ caller.stage.timer? id,
      target ≤ state.clock ∧ state.clock ≤ target + tolerance.timer))
  | .run (.lockMaster position _) => inferInstanceAs (Decidable (∀ begun ∈ state.begun[position]?,
      state.clock ≤ begun.time + tolerance.lock))
  | .run (.wait _) => .isTrue trivial
  | .run (.start _) => .isTrue trivial
  | .run (.begin _) => .isTrue trivial
  | .run (.fetch _ _) => .isTrue trivial
  | .run (.lockUpdate _ _) => .isTrue trivial
  | .run (.updated _) => .isTrue trivial
  | .run (.finish _) => .isTrue trivial
  | .wait _ => .isTrue trivial
  | .start => .isTrue trivial
  | .activate _ _ => .isTrue trivial

/-- A request is granted iff none of its interval has been made before. -/
def FirstOfInterval (requests : List Request) : Prop :=
  ∀ earlier request later, requests = earlier ++ request::later →
    (request.granted = true ↔ ∀ other ∈ earlier, other.due ≠ request.due)

/-- The time has the phase of some timestamp that an instance has taken over. -/
def Anchored (interval : Nat) (calls : FirstRun.State) (due : Nat) : Prop :=
  ∃ call ∈ calls.instances, ∃ lastRunTs, call.stage = .scheduled lastRunTs ∧ due ≡ lastRunTs [MOD interval]

/-- The timer of the instance is set for the time its next run is due at, or a little later. -/
def OnTime (interval : Nat) (tolerance : Tolerance) (caller : Instance) : Prop :=
  match caller.stage with
  | .calculating => True
  | .waiting target => (caller.due : Int) ≤ target ∧ target ≤ caller.due + tolerance.schedule
  | .running intervalRunner => SetIntervalDriftSafe.Sound interval intervalRunner ∧
      ∃ period, intervalRunner.period = some period ∧ (caller.due : Rat) ≤ period.nextTarget interval ∧
        period.nextTarget interval ≤ caller.due + tolerance.schedule + tolerance.timer

def masters (runner : MultiTenancyRunner.State) : List MultiTenancyRunner.Entered :=
  runner.locked.filter (fun entered => entered.lock = .runRedisCheck)

def Request.Within (tolerance : Tolerance) (request : Request) (entered : MultiTenancyRunner.Entered) : Prop :=
  request.due ≤ entered.time ∧ entered.time ≤ request.due + tolerance.asked

section
variable (app : MultiTenancyRunner.Application) (hash : List String → String) (tolerance : Tolerance)

structure Timed (state : State) : Prop where
  phased : FirstRun.Phased app.runInterval state.calls
  past : ∀ call ∈ state.calls.instances, call.now ≤ state.calls.clock
  clock : state.calls.clock = state.clock
  onTime : ∀ caller ∈ state.instances, OnTime app.runInterval tolerance caller
  anchored : ∀ caller ∈ state.instances, caller.stage ≠ .calculating → Anchored app.runInterval state.calls caller.due
  begun : ∀ begun ∈ state.begun, Anchored app.runInterval state.calls begun.due ∧ begun.due ≤ begun.time ∧
    begun.time ≤ begun.due + tolerance.began ∧ begun.time ≤ state.clock

structure Elected (state : State) : Prop where
  runner : MultiTenancyRunner.Sound hash state.runner
  apps : ∀ caller ∈ state.runner.instances, caller.app = app
  aligned : state.begun.length = state.runner.runs.length
  entered : ∀ entered ∈ masters state.runner, entered.app = app ∧
    ∃ request ∈ state.requests, request.granted = true ∧ request.Within tolerance entered
  granted : ∀ request ∈ state.requests, request.granted = true →
    ∃ entered ∈ masters state.runner, request.Within tolerance entered
  requests : ∀ request ∈ state.requests, Anchored app.runInterval state.calls request.due
  first : FirstOfInterval state.requests

end

section
variable {interval : Nat} {calls next : FirstRun.State}

theorem Anchored.congruent (phased : FirstRun.Phased interval calls) {due other : Nat}
    (one : Anchored interval calls due) (two : Anchored interval calls other) : due ≡ other [MOD interval] := by
  obtain ⟨call,member,lastRunTs,stage,same⟩ := one
  obtain ⟨another,also,otherTs,otherStage,otherSame⟩ := two
  exact (same.trans (phased.inPhase.timestamps member also stage otherStage)).trans otherSame.symm

theorem Anchored.mono {due : Nat} (anchored : Anchored interval calls due)
    (kept : ∀ call ∈ calls.instances, ∀ lastRunTs, call.stage = .scheduled lastRunTs → call ∈ next.instances) :
    Anchored interval next due := by
  obtain ⟨call,member,lastRunTs,stage,same⟩ := anchored
  exact ⟨call,kept call member lastRunTs stage,lastRunTs,stage,same⟩

theorem Anchored.add {due : Nat} (anchored : Anchored interval calls due) :
    Anchored interval calls (due + interval) := by
  obtain ⟨call,member,lastRunTs,stage,same⟩ := anchored
  refine ⟨call,member,lastRunTs,stage,?_⟩
  rw [Nat.ModEq,Nat.add_mod_right]
  exact same

/-- A command of an instance concerns no timestamp that has been taken over. -/
theorem command_cases {command : FirstRun.Action} (isOne : isCommand command = true)
    (taken : FirstRun.step interval calls command = some next) :
    ∃ index caller stage, calls.instances[index]? = some caller ∧ (∀ lastRunTs, caller.stage ≠ .scheduled lastRunTs) ∧
      next.instances = calls.instances.set index {caller with stage := stage} ∧ next.clock = calls.clock := by
  cases command with
  | wait time => cases isOne
  | call => cases isOne
  | get index =>
    obtain ⟨caller,found,taken⟩ := Option.bind_eq_some_iff.mp taken
    split at taken
    · rename_i reading
      cases taken
      exact ⟨index,caller,_,found,by simp [reading],rfl,rfl⟩
    · cases taken
  | setNX index =>
    obtain ⟨caller,found,taken⟩ := Option.bind_eq_some_iff.mp taken
    split at taken
    · rename_i missed
      cases taken
      exact ⟨index,caller,_,found,by simp [missed],rfl,rfl⟩
    · cases taken
  | getAgain index =>
    obtain ⟨caller,found,taken⟩ := Option.bind_eq_some_iff.mp taken
    split at taken
    · rename_i refused
      cases taken
      exact ⟨index,caller,_,found,by simp [refused],rfl,rfl⟩
    · cases taken

end

section
variable {hash : List String → String} {runner next : MultiTenancyRunner.State}

theorem masters_setPhase (position : Nat) (run : MultiTenancyRunner.Run) (phase : MultiTenancyRunner.Phase) :
    masters (runner.setPhase position run phase) = masters runner := rfl

theorem masters_enter (position : Nat) (run : MultiTenancyRunner.Run) (app : MultiTenancyRunner.Application)
    (lock : MultiTenancyRunner.Lock) (inside : MultiTenancyRunner.Phase) :
    masters (runner.enter position run app lock inside) = masters runner := by
  simp [masters,MultiTenancyRunner.State.locked,MultiTenancyRunner.State.enter]

theorem masters_acquire (position : Nat) (run : MultiTenancyRunner.Run) (app : MultiTenancyRunner.Application)
    (lock : MultiTenancyRunner.Lock) (inside outside : MultiTenancyRunner.Phase) :
    masters (runner.acquire position run app lock inside outside) = masters runner ++
      if (runner.acquireLock app lock).1 = true ∧ lock = .runRedisCheck then [⟨runner.clock,app,.runRedisCheck,true⟩]
      else [] := by
  cases given : (runner.acquireLock app lock).1 with
  | true =>
    rw [MultiTenancyRunner.acquire_granted given]
    cases lock <;> simp [masters,MultiTenancyRunner.State.locked]
  | false =>
    rw [MultiTenancyRunner.acquire_refused given]
    simp [masters_setPhase]

/-- A run goes on, and nothing else is different. -/
structure Moved (runner next : MultiTenancyRunner.State) : Prop where
  clock : next.clock = runner.clock
  runs : next.runs.length = runner.runs.length
  apps : ∀ caller ∈ next.instances, ∃ before ∈ runner.instances, before.app = caller.app

theorem moved_setPhase (position : Nat) (run : MultiTenancyRunner.Run) (phase : MultiTenancyRunner.Phase) :
    Moved runner (runner.setPhase position run phase) :=
  ⟨rfl,List.length_set,fun caller member => ⟨caller,member,rfl⟩⟩

theorem moved_enter (position : Nat) (run : MultiTenancyRunner.Run) (app : MultiTenancyRunner.Application)
    (lock : MultiTenancyRunner.Lock) (inside : MultiTenancyRunner.Phase) :
    Moved runner (runner.enter position run app lock inside) :=
  ⟨rfl,List.length_set,fun caller member => ⟨caller,member,rfl⟩⟩

theorem moved_acquire (position : Nat) (run : MultiTenancyRunner.Run) (app : MultiTenancyRunner.Application)
    (lock : MultiTenancyRunner.Lock) (inside outside : MultiTenancyRunner.Phase) :
    Moved runner (runner.acquire position run app lock inside outside) := by
  cases given : (runner.acquireLock app lock).1 with
  | true =>
    rw [MultiTenancyRunner.acquire_granted given]
    exact ⟨rfl,List.length_set,fun caller member => ⟨caller,member,rfl⟩⟩
  | false =>
    rw [MultiTenancyRunner.acquire_refused given]
    exact moved_setPhase position run outside

theorem moved_fetch {position : Nat} {run : MultiTenancyRunner.Run} {caller : MultiTenancyRunner.Instance}
    (own : runner.instances[run.index]? = some caller) (tenantIds : List String) :
    Moved runner (runner.fetch hash position run caller tenantIds) := by
  refine ⟨rfl,List.length_set,fun other member => ?_⟩
  simp only [MultiTenancyRunner.State.fetch] at member
  split at member
  · rcases List.mem_or_eq_of_mem_set member with before | rfl
    · exact ⟨other,before,rfl⟩
    · exact ⟨caller,List.mem_of_getElem? own,rfl⟩
  · exact ⟨other,member,rfl⟩

/-- A run asks for the lock of the master, or there is no request and no new master. -/
theorem ofRun_cases {app : MultiTenancyRunner.Application} (apps : ∀ caller ∈ runner.instances, caller.app = app)
    {action : MultiTenancyRunner.Action} (isOne : isOfRun action = true)
    (taken : MultiTenancyRunner.step hash runner action = some next) : Moved runner next ∧
      (masters next = masters runner ∧ (∀ state : State, state.requested app action = []) ∨
        ∃ position, action = .lockMaster position false ∧ app.filtersTenants = false ∧ position < runner.runs.length ∧
          masters next = masters runner ++ if (runner.acquireLock app .runRedisCheck).1 = true then
            [⟨runner.clock,app,.runRedisCheck,true⟩] else []) := by
  have moved : ∃ run, runner.runs[action.run]? = some run ∧ ∃ caller, runner.instances[run.index]? = some caller ∧
      MultiTenancyRunner.stepRun hash runner action.run run caller action = some next := by
    cases action with
    | wait time => cases isOne
    | start app => cases isOne
    | begin index => cases isOne
    | fetch run answer => simpa [MultiTenancyRunner.step,Option.bind_eq_some_iff] using taken
    | lockUpdate run fails => simpa [MultiTenancyRunner.step,Option.bind_eq_some_iff] using taken
    | updated run => simpa [MultiTenancyRunner.step,Option.bind_eq_some_iff] using taken
    | lockMaster run fails => simpa [MultiTenancyRunner.step,Option.bind_eq_some_iff] using taken
    | finish run => simpa [MultiTenancyRunner.step,Option.bind_eq_some_iff] using taken
  obtain ⟨run,found,caller,own,taken⟩ := moved
  have same := apps caller (List.mem_of_getElem? own)
  cases action with
  | wait time => cases isOne
  | start app => cases isOne
  | begin index => cases isOne
  | fetch position answer =>
    simp only [MultiTenancyRunner.stepRun] at taken
    split at taken
    · cases taken
      exact ⟨moved_setPhase _ _ _,Or.inl ⟨rfl,fun _ => rfl⟩⟩
    · cases taken
      exact ⟨moved_fetch own _,Or.inl ⟨rfl,fun _ => rfl⟩⟩
    · cases taken
  | lockUpdate position fails =>
    simp only [MultiTenancyRunner.stepRun] at taken
    split at taken
    · cases taken
      unfold MultiTenancyRunner.State.lockUpdate
      split
      · exact ⟨moved_enter _ _ _ _ _,Or.inl ⟨masters_enter _ _ _ _ _,fun _ => rfl⟩⟩
      · split
        · exact ⟨moved_setPhase _ _ _,Or.inl ⟨rfl,fun _ => rfl⟩⟩
        · refine ⟨moved_acquire _ _ _ _ _ _,Or.inl ⟨?_,fun _ => rfl⟩⟩
          rw [masters_acquire]
          simp
    · cases taken
  | updated position =>
    simp only [MultiTenancyRunner.stepRun] at taken
    split at taken
    · cases taken
      exact ⟨moved_setPhase _ _ _,Or.inl ⟨rfl,fun _ => rfl⟩⟩
    · cases taken
  | lockMaster position fails =>
    simp only [MultiTenancyRunner.stepRun] at taken
    split at taken
    · cases taken
      unfold MultiTenancyRunner.State.lockMaster
      rw [same]
      split
      · rename_i without
        refine ⟨moved_enter _ _ _ _ _,Or.inl ⟨masters_enter _ _ _ _ _,fun state => ?_⟩⟩
        cases fails with
        | true => rfl
        | false =>
          have filters : app.filtersTenants = true := by simpa using without
          simp [State.requested,filters]
      · rename_i asks
        simp only [Bool.or_eq_true,not_or,Bool.not_eq_true] at asks
        refine ⟨moved_acquire _ _ _ _ _ _,Or.inr ⟨position,?_,asks.1,(List.getElem?_eq_some_iff.mp found).1,?_⟩⟩
        · rw [asks.2]
        · rw [masters_acquire]
          simp
    · cases taken
  | finish position =>
    simp only [MultiTenancyRunner.stepRun] at taken
    split at taken
    · cases taken
      exact ⟨moved_setPhase _ _ _,Or.inl ⟨rfl,fun _ => rfl⟩⟩
    · cases taken

end

/-- Once a request of an interval was made, one was granted: the first. -/
theorem FirstOfInterval.granted {requests : List Request} (first : FirstOfInterval requests) {request : Request}
    (member : request ∈ requests) : ∃ other ∈ requests, other.due = request.due ∧ other.granted = true := by
  have some : (requests.find? (fun other => other.due = request.due)).isSome = true :=
    List.find?_isSome.mpr ⟨request,member,by simp⟩
  obtain ⟨found,isFound⟩ := Option.isSome_iff_exists.mp some
  obtain ⟨same,earlier,later,parts,others⟩ := List.find?_eq_some_iff_append.mp isFound
  have due : found.due = request.due := of_decide_eq_true same
  refine ⟨found,List.mem_of_find?_eq_some isFound,due,?_⟩
  refine (first earlier found later parts).mpr (fun other before equal => ?_)
  have differs := others other before
  simp [equal,due] at differs

theorem FirstOfInterval.snoc {requests : List Request} (first : FirstOfInterval requests) {request : Request}
    (granted : request.granted = true ↔ ∀ other ∈ requests, other.due ≠ request.due) :
    FirstOfInterval (requests ++ [request]) := by
  intro earlier found later same
  rcases List.eq_nil_or_concat later with rfl | ⟨rest,last,rfl⟩
  · obtain ⟨rfl,tail⟩ := List.append_inj' same rfl
    cases tail
    exact granted
  · have parts : requests ++ [request] = (earlier ++ found::rest) ++ [last] := by simpa using same
    exact first earlier found rest (List.append_inj' parts rfl).1

theorem run_period (interval : Rat) (runner : SetIntervalDriftSafe.State) (now : Nat) :
    (runner.run interval now).period = runner.period := by
  unfold SetIntervalDriftSafe.State.run
  split
  · exact (SetIntervalDriftSafe.expect_rest runner now).2.1
  · rfl

section
variable {app : MultiTenancyRunner.Application} {hash : List String → String} {tolerance : Tolerance} {state : State}

theorem Timed.moved (timed : Timed app tolerance state) {calls : FirstRun.State} {runner : MultiTenancyRunner.State}
    (phased : FirstRun.Phased app.runInterval calls) (past : ∀ call ∈ calls.instances, call.now ≤ calls.clock)
    (clock : calls.clock = runner.clock) (later : state.clock ≤ runner.clock)
    (kept : ∀ call ∈ state.calls.instances, ∀ lastRunTs, call.stage = .scheduled lastRunTs → call ∈ calls.instances)
    (requests : List Request) :
    Timed app tolerance {state with calls := calls,runner := runner,requests := requests} where
  phased := phased
  past := past
  clock := clock
  onTime := timed.onTime
  anchored caller member settled := (timed.anchored caller member settled).mono kept
  begun := by
    intro begun member
    obtain ⟨anchored,early,late,before⟩ := timed.begun begun member
    exact ⟨anchored.mono kept,early,late,Nat.le_trans before later⟩

theorem Timed.join (timed : Timed app tolerance state) :
    Timed app tolerance {state with instances := state.instances ++ [⟨.calculating,true,0⟩]} where
  phased := timed.phased
  past := timed.past
  clock := timed.clock
  onTime := by
    intro caller member
    rcases List.mem_append.mp member with before | last
    · exact timed.onTime caller before
    · rw [List.mem_singleton.mp last]
      trivial
  anchored := by
    intro caller member settled
    rcases List.mem_append.mp member with before | last
    · exact timed.anchored caller before settled
    · rw [List.mem_singleton.mp last] at settled
      exact absurd rfl settled
  begun := timed.begun

theorem Timed.setInstance (timed : Timed app tolerance state) (index : Nat) {changed : Instance}
    (onTime : OnTime app.runInterval tolerance changed)
    (anchored : changed.stage ≠ .calculating → Anchored app.runInterval state.calls changed.due) :
    Timed app tolerance (state.setInstance index changed) where
  phased := timed.phased
  past := timed.past
  clock := timed.clock
  onTime := Parties.forall_mem_moved timed.onTime onTime
  anchored := Parties.forall_mem_moved timed.anchored anchored
  begun := timed.begun

theorem fnWithRunningCheck_cases {index : Nat} {caller : Instance} {next : State}
    (taken : state.fnWithRunningCheck hash index caller = some next) :
    next = state ∨ next = {state with
      runner := {state.runner with runs := state.runner.runs ++ [⟨index,.fetching⟩]}
      begun := state.begun ++ [⟨caller.due,state.clock⟩]} := by
  unfold State.fnWithRunningCheck at taken
  split at taken
  · obtain ⟨runner,moved,rfl⟩ := Option.map_eq_some_iff.mp taken
    simp only [MultiTenancyRunner.step] at moved
    split at moved
    · cases moved
      exact Or.inr rfl
    · cases moved
  · cases taken
    exact Or.inl rfl

theorem Timed.fnWithRunningCheck (timed : Timed app tolerance state) {index : Nat} {caller : Instance} {next : State}
    (taken : state.fnWithRunningCheck hash index caller = some next)
    (anchored : Anchored app.runInterval state.calls caller.due) (early : caller.due ≤ state.clock)
    (late : state.clock ≤ caller.due + tolerance.began) : Timed app tolerance next := by
  rcases fnWithRunningCheck_cases taken with rfl | rfl
  · exact timed
  · refine {timed with clock := timed.clock,begun := ?_}
    intro begun member
    rcases List.mem_append.mp member with before | last
    · exact timed.begun begun before
    · rw [List.mem_singleton.mp last]
      exact ⟨anchored,early,late,Nat.le_refl _⟩

theorem Timed.tick (timed : Timed app tolerance state) {index : Nat} {caller : Instance}
    {intervalRunner : SetIntervalDriftSafe.State} {next : State}
    (taken : state.tick app hash index caller intervalRunner = some next)
    (anchored : Anchored app.runInterval state.calls caller.due) (early : caller.due ≤ state.clock)
    (late : state.clock ≤ caller.due + tolerance.began)
    (onTime : OnTime app.runInterval tolerance
      {caller with stage := .running intervalRunner,due := caller.due + app.runInterval}) :
    Timed app tolerance next := by
  obtain ⟨begun,checked,rfl⟩ := Option.map_eq_some_iff.mp taken
  have same : begun.calls = state.calls := by
    rcases fnWithRunningCheck_cases checked with rfl | rfl
    · rfl
    · rfl
  refine (timed.fnWithRunningCheck checked anchored early late).setInstance index onTime (fun _ => ?_)
  rw [same]
  exact anchored.add

/-- The instance takes over a timestamp, and one interval later it is to run. -/
theorem Timed.schedule (timed : Timed app tolerance state) (fits : (app.runInterval : Int) ≤ TIMEOUT_MAX) {index : Nat}
    (caller : Instance) {call : FirstRun.Instance} (own : state.calls.instances[index]? = some call) {offset : Int}
    (given : call.offset app.runInterval = some offset)
    (punctual : state.clock + timeoutOf offset ≤ call.now + offset + tolerance.schedule) :
    Timed app tolerance (state.setInstance index
      {caller with stage := .waiting (state.clock + timeoutOf offset),due := (call.now + offset).toNat}) := by
  obtain ⟨lastRunTs,stage,instant⟩ := FirstRun.Instance.offset_some given
  have member := List.mem_of_getElem? own
  have young := (timed.phased.congruent call member lastRunTs stage).1
  have reached : offset ≤ timeoutOf offset := (EventScheduler.timeoutOf_reaches offset).mpr (by omega)
  have passed := timed.past call member
  rw [timed.clock] at passed
  refine timed.setInstance index ?_ (fun _ => ⟨call,member,lastRunTs,stage,?_⟩)
  · constructor
    · simp only [instant]
      omega
    · simp only
      omega
  · have due : (call.now + offset).toNat = lastRunTs + app.runInterval := by omega
    simp only [due,Nat.ModEq,Nat.add_mod_right]

theorem Timed.first (timed : Timed app tolerance state) (positive : 0 < app.runInterval) {index : Nat} {caller : Instance}
    (found : state.instances[index]? = some caller) {target : Int} (stage : caller.stage = .waiting target)
    (punctual : target ≤ state.clock ∧ state.clock ≤ target + tolerance.timer) {next : State}
    (taken : state.tick app hash index caller
      ((SetIntervalDriftSafe.created app.runInterval).start app.runInterval state.clock) = some next) :
    Timed app tolerance next := by
  have member := List.mem_of_getElem? found
  have onTime := timed.onTime caller member
  rw [OnTime,stage] at onTime
  have interval : (0 : Rat) < app.runInterval := by exact_mod_cast positive
  have early : caller.due ≤ state.clock := by omega
  have late : state.clock ≤ caller.due + tolerance.schedule + tolerance.timer := by omega
  refine timed.tick taken (timed.anchored caller member (by simp [stage])) early ?_ ?_
  · unfold Tolerance.began
    omega
  · have sound := (SetIntervalDriftSafe.created_sound (app.runInterval : Rat)).start interval rfl state.clock (Or.inl rfl)
    refine ⟨sound,⟨state.clock,0⟩,run_period _ _ _,?_,?_⟩
    · simp only [SetIntervalDriftSafe.Period.nextTarget]
      push_cast
      have : (caller.due : Rat) ≤ state.clock := by exact_mod_cast early
      linarith
    · simp only [SetIntervalDriftSafe.Period.nextTarget]
      push_cast
      have : (state.clock : Rat) ≤ caller.due + tolerance.schedule + tolerance.timer := by exact_mod_cast late
      linarith

theorem Timed.fire (timed : Timed app tolerance state) (positive : 0 < app.runInterval) {index id : Nat}
    {caller : Instance} (found : state.instances[index]? = some caller) {intervalRunner : SetIntervalDriftSafe.State}
    (stage : caller.stage = .running intervalRunner) {target : Rat} (pending : intervalRunner.timers.get? id = some target)
    (punctual : target ≤ state.clock ∧ state.clock ≤ target + tolerance.timer) {next : State}
    (taken : state.tick app hash index caller
      (intervalRunner.fire app.runInterval id state.clock target) = some next) : Timed app tolerance next := by
  have member := List.mem_of_getElem? found
  have onTime := timed.onTime caller member
  rw [OnTime,stage] at onTime
  obtain ⟨sound,period,running,low,high⟩ := onTime
  have interval : (0 : Rat) < app.runInterval := by exact_mod_cast positive
  have awaiting := sound.running period running
  obtain ⟨rfl,_⟩ := awaiting.others_cleared pending
  have early : caller.due ≤ state.clock := by
    have : (caller.due : Rat) ≤ state.clock := le_trans low punctual.1
    exact_mod_cast this
  have late : state.clock ≤ caller.due + tolerance.began := by
    have : (state.clock : Rat) ≤ (caller.due + tolerance.began : Nat) := by
      simp only [Tolerance.began]
      push_cast
      linarith [punctual.2]
    exact_mod_cast this
  refine timed.tick taken (timed.anchored caller member (by simp [stage])) early late ?_
  have following : SetIntervalDriftSafe.Period.nextTarget app.runInterval {period with callbacks := period.callbacks + 1} =
      period.nextTarget app.runInterval + app.runInterval := by
    simp only [SetIntervalDriftSafe.Period.nextTarget]
    push_cast
    ring
  refine ⟨sound.fire interval id state.clock _ pending,{period with callbacks := period.callbacks + 1},?_,?_,?_⟩
  · simp [SetIntervalDriftSafe.State.fire,awaiting.shouldRun,SetIntervalDriftSafe.State.callback,run_period,running]
  · rw [following]
    push_cast
    linarith
  · rw [following]
    push_cast
    linarith

theorem Elected.moved (elected : Elected app hash tolerance state) {calls : FirstRun.State}
    {runner : MultiTenancyRunner.State} (sound : MultiTenancyRunner.Sound hash runner)
    (moved : Moved state.runner runner) (same : masters runner = masters state.runner)
    (kept : ∀ call ∈ state.calls.instances, ∀ lastRunTs, call.stage = .scheduled lastRunTs → call ∈ calls.instances) :
    Elected app hash tolerance {state with calls := calls,runner := runner} where
  runner := sound
  apps := by
    intro caller member
    obtain ⟨before,also,equal⟩ := moved.apps caller member
    rw [← equal]
    exact elected.apps before also
  aligned := elected.aligned.trans moved.runs.symm
  entered := by
    rw [same]
    exact elected.entered
  granted := by
    rw [same]
    exact elected.granted
  requests request member := (elected.requests request member).mono kept
  first := elected.first

theorem Elected.instances (elected : Elected app hash tolerance state) (instances : List Instance) :
    Elected app hash tolerance {state with instances := instances} := {elected with}

theorem Elected.fnWithRunningCheck (elected : Elected app hash tolerance state) {index : Nat} {caller : Instance}
    {next : State} (taken : state.fnWithRunningCheck hash index caller = some next) :
    Elected app hash tolerance next := by
  unfold State.fnWithRunningCheck at taken
  split at taken
  · obtain ⟨runner,moved,rfl⟩ := Option.map_eq_some_iff.mp taken
    have sound := elected.runner.step moved
    simp only [MultiTenancyRunner.step] at moved
    split at moved
    · cases moved
      refine {elected with runner := sound,aligned := ?_}
      simp [elected.aligned]
    · cases moved
  · cases taken
    exact elected

theorem Elected.tick (elected : Elected app hash tolerance state) {index : Nat} {caller : Instance}
    {intervalRunner : SetIntervalDriftSafe.State} {next : State}
    (taken : state.tick app hash index caller intervalRunner = some next) : Elected app hash tolerance next := by
  obtain ⟨begun,checked,rfl⟩ := Option.map_eq_some_iff.mp taken
  exact (elected.fnWithRunningCheck checked).instances _

/-- The lock of the master is free iff no run of the interval has asked for it. -/
theorem Elected.acquire_iff (elected : Elected app hash tolerance state)
    (phased : FirstRun.Phased app.runInterval state.calls) (positive : 0 < app.runInterval)
    (fits : tolerance.asked + MultiTenancyRunner.expiryTime app .runRedisCheck ≤ app.runInterval) {due : Nat}
    (anchored : Anchored app.runInterval state.calls due) (early : due ≤ state.clock)
    (late : state.clock ≤ due + tolerance.asked) :
    (state.runner.acquireLock app .runRedisCheck).1 = true ↔ ∀ other ∈ state.requests, other.due ≠ due := by
  have short : tolerance.asked < MultiTenancyRunner.expiryTime app .runRedisCheck := by
    simp only [MultiTenancyRunner.expiryTime] at fits ⊢
    rcases Nat.eq_or_lt_of_le positive with one | more
    · rw [← one] at fits ⊢
      omega
    · omega
  have locking := elected.runner.locking
  rw [locking.lock_iff]
  constructor
  · intro free other member same
    obtain ⟨request,also,equal,granted⟩ := elected.first.granted member
    obtain ⟨entered,master,low,high⟩ := elected.granted request also granted
    obtain ⟨locked,lock⟩ := List.mem_filter.mp master
    have own := (elected.entered entered master).1
    have lock : entered.lock = .runRedisCheck := of_decide_eq_true lock
    have past := locking.past entered (List.mem_filter.mp locked).1
    refine free ⟨entered,locked,?_,lock,past,?_⟩
    · rw [own]
    · simp only [MultiTenancyRunner.Entered.until,own,lock]
      change state.clock < _
      omega
  · intro none held
    obtain ⟨entered,locked,_,lock,past,valid⟩ := held
    have master : entered ∈ masters state.runner := List.mem_filter.mpr ⟨locked,decide_eq_true lock⟩
    obtain ⟨own,request,member,_,low,high⟩ := elected.entered entered master
    simp only [MultiTenancyRunner.Entered.until,own,lock] at valid
    change state.clock < _ at valid
    change entered.time ≤ state.clock at past
    have congruent := (elected.requests request member).congruent phased anchored
    refine none request member (congruent.eq_of_abs_lt ?_)
    rw [abs_lt]
    constructor
    · omega
    · omega

/-- A run has asked, and it is the master iff it got the lock. -/
theorem Elected.request (elected : Elected app hash tolerance state)
    (phased : FirstRun.Phased app.runInterval state.calls) (positive : 0 < app.runInterval)
    (fits : tolerance.asked + MultiTenancyRunner.expiryTime app .runRedisCheck ≤ app.runInterval) {begun : Begun}
    (anchored : Anchored app.runInterval state.calls begun.due) (early : begun.due ≤ state.clock)
    (late : state.clock ≤ begun.due + tolerance.asked) {runner : MultiTenancyRunner.State}
    (sound : MultiTenancyRunner.Sound hash runner) (moved : Moved state.runner runner)
    (more : masters runner = masters state.runner ++
      if (state.runner.acquireLock app .runRedisCheck).1 = true then
        [⟨state.runner.clock,app,.runRedisCheck,true⟩] else []) :
    Elected app hash tolerance {state with
      runner := runner
      requests := state.requests ++ [⟨begun.due,(state.runner.acquireLock app .runRedisCheck).1⟩]} where
  runner := sound
  apps := by
    intro caller member
    obtain ⟨before,also,equal⟩ := moved.apps caller member
    rw [← equal]
    exact elected.apps before also
  aligned := elected.aligned.trans moved.runs.symm
  entered := by
    intro entered member
    simp only [more,List.mem_append] at member
    rcases member with before | new
    · obtain ⟨own,request,known,granted,within⟩ := elected.entered entered before
      exact ⟨own,request,List.mem_append_left _ known,granted,within⟩
    · split at new
      · rename_i given
        rw [List.mem_singleton] at new
        subst new
        exact ⟨rfl,_,List.mem_append_right _ (List.mem_singleton_self _),given,early,late⟩
      · cases new
  granted := by
    intro request member granted
    simp only [more]
    rcases List.mem_append.mp member with before | last
    · obtain ⟨entered,known,within⟩ := elected.granted request before granted
      exact ⟨entered,List.mem_append_left _ known,within⟩
    · rw [List.mem_singleton] at last
      subst last
      rw [if_pos granted]
      exact ⟨_,List.mem_append_right _ (List.mem_singleton_self _),early,late⟩
  requests := by
    intro request member
    rcases List.mem_append.mp member with before | last
    · exact elected.requests request before
    · rw [List.mem_singleton.mp last]
      exact anchored
  first := elected.first.snoc (elected.acquire_iff phased positive fits anchored early late)

end

/-- Both invariants, step by step. -/
structure Sound (app : MultiTenancyRunner.Application) (hash : List String → String) (tolerance : Tolerance)
    (state : State) : Prop where
  timed : Timed app tolerance state
  elected : Elected app hash tolerance state

section
variable {app : MultiTenancyRunner.Application} {hash : List String → String} {tolerance : Tolerance}
  {state next : State} (sound : Sound app hash tolerance state)

include sound

omit sound in
theorem both_cases {command : FirstRun.Action} {action : MultiTenancyRunner.Action}
    (taken : state.both app hash command action = some next) :
    ∃ calls runner, FirstRun.step app.runInterval state.calls command = some calls ∧
      MultiTenancyRunner.step hash state.runner action = some runner ∧
      next = {state with calls := calls,runner := runner} := by
  obtain ⟨calls,called,taken⟩ := Option.bind_eq_some_iff.mp taken
  obtain ⟨runner,moved,rfl⟩ := Option.map_eq_some_iff.mp taken
  exact ⟨calls,runner,called,moved,rfl⟩

theorem Sound.wait {time : Nat} (taken : step app hash state (.wait time) = some next) :
    Sound app hash tolerance next := by
  obtain ⟨calls,runner,waited,moved,rfl⟩ := both_cases taken
  have keeps : FirstRun.KeepsPhase app.runInterval state.calls (.wait time) := trivial
  have phased := sound.timed.phased.step keeps waited
  have running := sound.elected.runner.step moved
  cases waited
  cases moved
  refine ⟨?_,{sound.elected with runner := running}⟩
  refine sound.timed.moved phased (fun call member => ?_) ?_ (Nat.le_add_right _ _) (fun call member _ _ => member)
    state.requests
  · exact Nat.le_trans (sound.timed.past call member) (Nat.le_add_right _ _)
  · exact congrArg (· + time) sound.timed.clock

theorem Sound.start (taken : step app hash state .start = some next) : Sound app hash tolerance next := by
  simp only [RunnerCycles.step] at taken
  obtain ⟨started,both,rfl⟩ := Option.map_eq_some_iff.mp taken
  obtain ⟨calls,runner,called,moved,rfl⟩ := both_cases both
  have keeps : FirstRun.KeepsPhase app.runInterval state.calls .call := trivial
  have phased := sound.timed.phased.step keeps called
  have running := sound.elected.runner.step moved
  cases called
  cases moved
  have kept : ∀ call ∈ state.calls.instances, ∀ lastRunTs, call.stage = .scheduled lastRunTs →
      call ∈ state.calls.instances ++ [⟨state.calls.clock,.reading⟩] :=
    fun call member _ _ => List.mem_append_left _ member
  constructor
  · refine Timed.join ?_
    refine sound.timed.moved phased (fun call member => ?_) ?_ ?_ kept state.requests
    · rcases List.mem_append.mp member with before | last
      · exact sound.timed.past call before
      · rw [List.mem_singleton.mp last]
    · exact sound.timed.clock
    · exact Nat.le_refl _
  · refine {sound.elected with
      runner := running
      apps := ?_
      requests := fun request member => (sound.elected.requests request member).mono kept}
    intro caller member
    rcases List.mem_append.mp member with before | last
    · exact sound.elected.apps caller before
    · rw [List.mem_singleton.mp last]

theorem Sound.calculate {command : FirstRun.Action} (keeps : FirstRun.KeepsPhase app.runInterval state.calls command)
    (taken : step app hash state (.calculate command) = some next) : Sound app hash tolerance next := by
  simp only [RunnerCycles.step] at taken
  split at taken
  · rename_i isOne
    obtain ⟨calls,moved,rfl⟩ := Option.map_eq_some_iff.mp taken
    obtain ⟨index,caller,stage,found,pending,instances,clock⟩ := command_cases isOne moved
    have kept : ∀ call ∈ state.calls.instances, ∀ lastRunTs, call.stage = .scheduled lastRunTs →
        call ∈ calls.instances := by
      intro call member lastRunTs own
      rw [instances]
      exact FirstRun.setStage_scheduled stage found pending member own
    constructor
    · refine sound.timed.moved (sound.timed.phased.step keeps moved) ?_ (clock.trans sound.timed.clock) (Nat.le_refl _)
        kept state.requests
      rw [instances,clock]
      exact Parties.forall_mem_moved sound.timed.past (sound.timed.past caller (List.mem_of_getElem? found))
    · exact {sound.elected with
        requests := fun request member => (sound.elected.requests request member).mono kept}
  · cases taken

theorem Sound.run {action : MultiTenancyRunner.Action} (positive : 0 < app.runInterval)
    (fits : tolerance.asked + MultiTenancyRunner.expiryTime app .runRedisCheck ≤ app.runInterval)
    (punctual : Punctual app tolerance state (.run action)) (taken : step app hash state (.run action) = some next) :
    Sound app hash tolerance next := by
  simp only [RunnerCycles.step] at taken
  split at taken
  · rename_i isOne
    obtain ⟨runner,went,rfl⟩ := Option.map_eq_some_iff.mp taken
    have running := sound.elected.runner.step went
    obtain ⟨moved,masters⟩ := ofRun_cases sound.elected.apps isOne went
    constructor
    · refine sound.timed.moved sound.timed.phased sound.timed.past ?_ ?_ (fun call member _ _ => member) _
      · exact sound.timed.clock.trans moved.clock.symm
      · exact moved.clock.ge
    · rcases masters with ⟨same,none⟩ | ⟨position,rfl,asks,inside,more⟩
      · rw [none state,List.append_nil]
        exact sound.elected.moved running moved same (fun call member _ _ => member)
      · rw [← sound.elected.aligned] at inside
        have begun := List.getElem?_eq_getElem inside
        obtain ⟨anchored,early,late,before⟩ := sound.timed.begun _ (List.getElem_mem inside)
        have soon := punctual _ begun
        have requested : state.requested app (.lockMaster position false) =
            [⟨state.begun[position].due,(state.runner.acquireLock app .runRedisCheck).1⟩] := by
          simp [State.requested,asks,begun]
        rw [requested]
        refine sound.elected.request sound.timed.phased positive fits anchored (Nat.le_trans early before) ?_ running
          moved more
        unfold Tolerance.asked
        omega
  · cases taken

/-- What the steps of single instances are: the timer, the switch and the runs of one instance. -/
theorem Sound.stepInstance {index : Nat} {caller : Instance} (found : state.instances[index]? = some caller)
    (positive : 0 < app.runInterval) (reachable : (app.runInterval : Int) ≤ TIMEOUT_MAX) {action : Action}
    (same : action.index = index) (punctual : Punctual app tolerance state action)
    (taken : stepInstance app hash state index caller action = some next) : Sound app hash tolerance next := by
  obtain ⟨timed,elected⟩ := sound
  have member := List.mem_of_getElem? found
  cases action with
  | schedule own =>
    obtain rfl : own = index := same
    simp only [RunnerCycles.stepInstance] at taken
    split at taken
    · rename_i call _ answered
      obtain ⟨offset,given,rfl⟩ := Option.map_eq_some_iff.mp taken
      exact ⟨timed.schedule reachable caller answered given (punctual call answered offset given),elected.instances _⟩
    · cases taken
  | activate own active =>
    cases taken
    exact ⟨timed.setInstance index (timed.onTime caller member) (timed.anchored caller member),elected.instances _⟩
  | first own =>
    obtain rfl : own = index := same
    simp only [RunnerCycles.stepInstance] at taken
    split at taken
    · rename_i target stage
      have due : target ∈ caller.stage.target? := by simp [stage,Stage.target?]
      exact ⟨timed.first positive found stage (punctual caller found target due) taken,elected.tick taken⟩
    · cases taken
  | fire own id =>
    obtain rfl : own = index := same
    simp only [RunnerCycles.stepInstance] at taken
    split at taken
    · rename_i intervalRunner stage
      obtain ⟨fired,firing,taken⟩ := Option.bind_eq_some_iff.mp taken
      obtain ⟨target,pending,rfl⟩ := Option.map_eq_some_iff.mp firing
      have due : target ∈ caller.stage.timer? id := by simp [stage,Stage.timer?,pending]
      exact ⟨timed.fire positive found stage pending (punctual caller found target due) taken,elected.tick taken⟩
    · cases taken
  | wait time => cases taken
  | start => cases taken
  | calculate command => cases taken
  | run action => cases taken

theorem Sound.step (positive : 0 < app.runInterval) (reachable : (app.runInterval : Int) ≤ TIMEOUT_MAX)
    (fits : tolerance.asked + MultiTenancyRunner.expiryTime app .runRedisCheck ≤ app.runInterval) {action : Action}
    (punctual : Punctual app tolerance state action) (taken : step app hash state action = some next) :
    Sound app hash tolerance next := by
  have going {action : Action} (punctual : Punctual app tolerance state action)
      (moved : state.instances[action.index]?.bind (fun caller =>
        RunnerCycles.stepInstance app hash state action.index caller action) = some next) :
      Sound app hash tolerance next := by
    obtain ⟨caller,found,taken⟩ := Option.bind_eq_some_iff.mp moved
    exact sound.stepInstance found positive reachable rfl punctual taken
  cases action with
  | wait time => exact sound.wait taken
  | start => exact sound.start taken
  | calculate command => exact sound.calculate punctual taken
  | schedule index => exact going punctual taken
  | activate index active => exact going punctual taken
  | first index => exact going punctual taken
  | fire index id => exact going punctual taken
  | run action => exact sound.run positive fits punctual taken

end

theorem initial_sound (app : MultiTenancyRunner.Application) (hash : List String → String) (tolerance : Tolerance) :
    Sound app hash tolerance State.initial := by
  refine ⟨⟨FirstRun.initial_phased,?_,rfl,?_,?_,?_⟩,⟨?_,?_,rfl,?_,?_,?_,?_⟩⟩
  · simp [State.initial,FirstRun.State.initial]
  · simp [State.initial]
  · simp [State.initial]
  · simp [State.initial]
  · exact ⟨MultiTenancyRunner.initial_locking,MultiTenancyRunner.initial_followed hash⟩
  · simp [State.initial,MultiTenancyRunner.State.initial]
  · simp [State.initial,MultiTenancyRunner.State.initial,masters,MultiTenancyRunner.State.locked]
  · simp [State.initial]
  · simp [State.initial]
  · intro earlier request later same
    simp [State.initial] at same

/-- Two instances start at once; the second one is faster to ask in the first interval, and slower in the next. -/
def twoInstances : List Action :=
  [.wait 100,.start,.start,.calculate (.get 0),.calculate (.get 1),.calculate (.setNX 0),.calculate (.setNX 1),
    .calculate (.getAgain 1),.wait 2,.schedule 0,.schedule 1,.wait 1000,.first 0,.wait 1,.first 1,
    .run (.fetch 0 (some ["t1"])),.run (.fetch 1 (some ["t1"])),.wait 10,.run (.lockMaster 1 false),
    .run (.lockMaster 0 false),.wait 992,.fire 0 0,.fire 1 0,.run (.fetch 2 (some ["t1"])),.run (.lockMaster 2 false),
    .run (.fetch 3 (some ["t1"])),.run (.lockMaster 3 false)]

end EventQueue.RunnerCycles

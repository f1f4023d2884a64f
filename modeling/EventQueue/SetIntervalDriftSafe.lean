import EventQueue.Lib.Timers
import EventQueue.Lib.Transition
import Mathlib.Algebra.Order.Field.Rat
import Mathlib.Tactic.Linarith
import Mathlib.Tactic.Positivity
import Mathlib.Tactic.Ring

/-! `SetIntervalDriftSafe`: a timer that is set anew for every cycle, with the lateness of the last one taken off.
The expected cycle time outlives `stop`, so a start goes on from where the last cycle was expected. -/
namespace EventQueue.SetIntervalDriftSafe

/-- The time since the last start: when it was, and the callbacks run so far. -/
structure Period where
  start : Nat
  callbacks : Nat
  deriving DecidableEq

/-- A callback and the time its timer was set for; no period if it ran after a stop. -/
structure Callback where
  period : Option Period
  target : Rat

structure State where
  adjustedInterval : Rat
  expectedCycleTime : Rat
  shouldRun : Bool
  lastTimeoutId : Option Nat
  /-- The timers that are to fire yet, each with the time it is set for. -/
  timers : Timers Rat
  period : Option Period
  callbacks : List Callback

/-- A timer may fire at any time. -/
inductive Action
  | start (now : Nat)
  | stop
  | fire (id now : Nat)

def created (interval : Rat) : State := ⟨interval,0,true,none,Timers.empty,none,[]⟩

section
variable (interval : Rat)

def State.setTimeout (state : State) (now : Nat) : State :=
  {state with
    timers := state.timers.set (now + state.adjustedInterval)
    lastTimeoutId := some state.timers.created}

def State.expect (state : State) (now : Nat) : State :=
  if state.expectedCycleTime = 0 then {state with expectedCycleTime := now + interval}
  else {state with
    adjustedInterval := interval - (now - state.expectedCycleTime)
    expectedCycleTime := state.expectedCycleTime + interval}

def State.run (state : State) (now : Nat) : State :=
  if state.shouldRun then (state.expect interval now).setTimeout now else state

def State.start (state : State) (now : Nat) : State :=
  State.run interval {state with shouldRun := true,period := some ⟨now,0⟩} now

def State.stop (state : State) : State :=
  {state with
    shouldRun := false
    timers := state.lastTimeoutId.elim state.timers state.timers.clear
    period := none}

/-- The function given to `start`. -/
def State.callback (state : State) (target : Rat) : State :=
  {state with
    period := state.period.map (fun period => {period with callbacks := period.callbacks + 1})
    callbacks := state.callbacks ++ [⟨state.period,target⟩]}

def State.fire (state : State) (id now : Nat) (target : Rat) : State :=
  let fired := {state with timers := state.timers.clear id}
  if state.shouldRun then (fired.run interval now).callback target else fired

/-- `start` is only called when the instance is not running. -/
def step (state : State) : Action → Option State
  | .start now => if state.period.isSome then none else some (state.start interval now)
  | .stop => some state.stop
  | .fire id now => (state.timers.get? id).map (state.fire interval id now)

/-- The grid point of the callback that is to follow those of the period. -/
def Period.nextTarget (period : Period) : Rat := period.start + (period.callbacks + 1) * interval

/-- While running exactly one timer is pending, that of the next callback, set for its grid point; after a stop
there is none. Every callback has run in a period and at its grid point. -/
structure OnGrid (state : State) : Prop where
  pending : ∀ period, state.period = some period → ∃ id, ∀ other target,
    state.timers.get? other = some target ↔ other = id ∧ target = period.nextTarget interval
  stopped : state.period = none → ∀ id, state.timers.get? id = none
  callbacks : ∀ callback ∈ state.callbacks, ∃ period, callback.period = some period ∧
    callback.target = period.nextTarget interval

end

/-- The first start, or one at exactly the time the last cycle was expected at. -/
def InPhase (state : State) : Action → Prop
  | .start now => state.period = none → state.expectedCycleTime = 0 ∨ state.expectedCycleTime = now
  | _ => True

instance decidableInPhase (state : State) (action : Action) : Decidable (InPhase state action) :=
  match action with
  | .start now =>
    have : Decidable (state.period = none) := decidable_of_iff (state.period.isNone = true) Option.isNone_iff_eq_none
    inferInstanceAs (Decidable (state.period = none → state.expectedCycleTime = 0 ∨ state.expectedCycleTime = now))
  | .stop => .isTrue trivial
  | .fire _ _ => .isTrue trivial

/-- Exactly one timer is pending, the last one, set for the time the cycle is expected to end at. -/
structure Awaiting (state : State) (target : Rat) : Prop where
  shouldRun : state.shouldRun = true
  expected : state.expectedCycleTime = target
  only : ∃ id, state.lastTimeoutId = some id ∧
    ∀ other time, state.timers.get? other = some time ↔ other = id ∧ time = target

structure Sound (interval : Rat) (state : State) : Prop where
  fresh : state.expectedCycleTime = 0 → state.adjustedInterval = interval ∧ state.period = none
  expected : 0 ≤ state.expectedCycleTime
  running : ∀ period, state.period = some period → Awaiting state (period.nextTarget interval)
  stopped : state.period = none → ∀ id, state.timers.get? id = none
  callbacks : ∀ callback ∈ state.callbacks, ∃ period, callback.period = some period ∧
    callback.target = period.nextTarget interval

section
variable {interval : Rat} {state next : State}

theorem Sound.onGrid (sound : Sound interval state) : OnGrid interval state := by
  refine ⟨fun period running => ?_,sound.stopped,sound.callbacks⟩
  obtain ⟨id,_,only⟩ := (sound.running period running).only
  exact ⟨id,only⟩

theorem created_sound (interval : Rat) : Sound interval (created interval) where
  fresh _ := ⟨rfl,rfl⟩
  expected := le_refl _
  running _ running := by cases running
  stopped _ _ := rfl
  callbacks _ member := by cases member

/-- A cycle that begins where one was expected is expected to end an interval later. -/
theorem expect_inPhase (state : State) (now : Nat) (fresh : state.expectedCycleTime = 0 → state.adjustedInterval = interval)
    (inPhase : state.expectedCycleTime = 0 ∨ state.expectedCycleTime = now) :
    (state.expect interval now).expectedCycleTime = now + interval ∧
      now + (state.expect interval now).adjustedInterval = now + interval := by
  unfold State.expect
  split
  · rename_i first
    refine ⟨rfl,?_⟩
    rw [fresh first]
  · rename_i again
    have same := inPhase.resolve_left again
    refine ⟨?_,?_⟩
    · rw [same]
    · rw [same]
      ring

/-- The lateness of a cycle is taken off the next one. -/
theorem expect_late (state : State) (now : Nat) (given : state.expectedCycleTime ≠ 0) :
    (state.expect interval now).expectedCycleTime = state.expectedCycleTime + interval ∧
      now + (state.expect interval now).adjustedInterval = state.expectedCycleTime + interval := by
  unfold State.expect
  rw [if_neg given]
  exact ⟨rfl,by ring⟩

theorem expect_rest (state : State) (now : Nat) : (state.expect interval now).timers = state.timers ∧
    (state.expect interval now).period = state.period ∧ (state.expect interval now).callbacks = state.callbacks := by
  unfold State.expect
  split <;> exact ⟨rfl,rfl,rfl⟩

theorem Awaiting.others_cleared {target : Rat} (awaiting : Awaiting state target) {id : Nat} {time : Rat}
    (found : state.timers.get? id = some time) : time = target ∧ ∀ other, (state.timers.clear id).get? other = none := by
  obtain ⟨last,_,only⟩ := awaiting.only
  obtain ⟨rfl,rfl⟩ := (only id time).mp found
  refine ⟨rfl,fun other => ?_⟩
  rw [Timers.get?_clear]
  split
  · rfl
  · rename_i differs
    rw [Option.eq_none_iff_forall_ne_some]
    intro time found
    exact differs ((only other time).mp found).1

theorem run_awaiting {target : Rat} (state : State) (now : Nat) (shouldRun : state.shouldRun = true)
    (none : ∀ id, state.timers.get? id = none)
    (cycle : (state.expect interval now).expectedCycleTime = target ∧
      now + (state.expect interval now).adjustedInterval = target) :
    Awaiting (state.run interval now) target ∧ (state.run interval now).period = state.period ∧
      (state.run interval now).callbacks = state.callbacks := by
  obtain ⟨timers,period,callbacks⟩ := @expect_rest interval state now
  have running : state.run interval now = (state.expect interval now).setTimeout now := if_pos shouldRun
  rw [running]
  refine ⟨⟨?_,cycle.1,_,rfl,fun other time => ?_⟩,period,callbacks⟩
  · simp only [State.setTimeout,State.expect]
    split <;> exact shouldRun
  · simp only [State.setTimeout,Timers.get?_set,timers,none,cycle.2]
    split
    · rename_i last
      simp [last,eq_comm]
    · rename_i other
      simp [other]

theorem Sound.start (positive : 0 < interval) (sound : Sound interval state) (stopped : state.period = none)
    (now : Nat) (inPhase : state.expectedCycleTime = 0 ∨ state.expectedCycleTime = now) :
    Sound interval (state.start interval now) := by
  have cycle := expect_inPhase {state with shouldRun := true,period := some ⟨now,0⟩} now
    (fun first => (sound.fresh first).1) inPhase
  have grid : Period.nextTarget interval ⟨now,0⟩ = now + interval := by simp [Period.nextTarget]
  obtain ⟨awaiting,period,callbacks⟩ := run_awaiting {state with shouldRun := true,period := some ⟨now,0⟩} now rfl
    (sound.stopped stopped) cycle
  have later : (0 : Rat) < now + interval := by positivity
  refine ⟨fun never => ?_,?_,fun current running => ?_,fun never => ?_,?_⟩
  · exact absurd (awaiting.expected.symm.trans never) (ne_of_gt later)
  · exact le_of_le_of_eq later.le awaiting.expected.symm
  · obtain rfl := Option.some.inj (period.symm.trans running)
    rw [grid]
    exact awaiting
  · cases period.symm.trans never
  · intro callback member
    exact sound.callbacks callback (callbacks ▸ member)

theorem Sound.stop (sound : Sound interval state) : Sound interval state.stop := by
  refine ⟨fun never => ⟨(sound.fresh never).1,rfl⟩,sound.expected,fun period running => ?_,fun _ id => ?_,
    sound.callbacks⟩
  · cases running
  · cases period : state.period with
    | none =>
      have absent := sound.stopped period
      cases last : state.lastTimeoutId with
      | none => simpa [State.stop,last] using absent id
      | some timeoutId => simp [State.stop,last,Timers.get?_clear,absent]
    | some current =>
      have awaiting := sound.running current period
      obtain ⟨timeoutId,last,only⟩ := awaiting.only
      have cleared := (awaiting.others_cleared ((only timeoutId _).mpr ⟨rfl,rfl⟩)).2 id
      simpa [State.stop,last] using cleared

theorem Sound.fire (positive : 0 < interval) (sound : Sound interval state) (id now : Nat) (target : Rat)
    (found : state.timers.get? id = some target) : Sound interval (state.fire interval id now target) := by
  cases running : state.period with
  | none =>
    rw [sound.stopped running] at found
    cases found
  | some period =>
    have awaiting := sound.running period running
    obtain ⟨rfl,alone⟩ := awaiting.others_cleared found
    have given : state.expectedCycleTime ≠ 0 := by
      intro never
      have none := (sound.fresh never).2
      rw [running] at none
      cases none
    have expected := sound.expected
    have following : Period.nextTarget interval {period with callbacks := period.callbacks + 1} =
        state.expectedCycleTime + interval := by
      rw [awaiting.expected]
      simp only [Period.nextTarget]
      push_cast
      ring
    obtain ⟨next,same,before⟩ := run_awaiting {state with timers := state.timers.clear id} now awaiting.shouldRun alone
      (expect_late _ now given)
    have fired : state.fire interval id now (period.nextTarget interval) =
        (State.run interval {state with timers := state.timers.clear id} now).callback (period.nextTarget interval) :=
      if_pos awaiting.shouldRun
    rw [fired]
    generalize State.run interval {state with timers := state.timers.clear id} now = ran at next same before ⊢
    have period := same.trans running
    refine ⟨fun never => ?_,?_,fun current moved => ?_,fun never => ?_,?_⟩
    · have zero := next.expected.symm.trans never
      linarith
    · refine le_of_le_of_eq ?_ next.expected.symm
      linarith
    · simp only [State.callback,period,Option.map_some,Option.some.injEq] at moved
      subst moved
      rw [following]
      exact ⟨next.shouldRun,next.expected,next.only⟩
    · simp [State.callback,period] at never
    · intro callback member
      simp only [State.callback,before,period,List.mem_append,List.mem_singleton] at member
      rcases member with old | rfl
      · exact sound.callbacks callback old
      · exact ⟨_,rfl,rfl⟩

theorem Sound.step (positive : 0 < interval) {action : Action} (sound : Sound interval state)
    (inPhase : InPhase state action) (taken : step interval state action = some next) : Sound interval next := by
  cases action with
  | start now =>
    simp only [SetIntervalDriftSafe.step] at taken
    split at taken
    · cases taken
    · rename_i stopped
      cases taken
      have none : state.period = none := by simpa using stopped
      exact sound.start positive none now (inPhase none)
  | stop =>
    cases taken
    exact sound.stop
  | fire id now =>
    obtain ⟨target,found,rfl⟩ := Option.map_eq_some_iff.mp taken
    exact sound.fire positive id now target found

/-- A start out of phase sets a timer for another time. -/
theorem inPhase_needed {action : Action} (sound : Sound interval state)
    (taken : step interval state action = some next) (onGrid : OnGrid interval next) : InPhase state action := by
  cases action with
  | start now =>
    simp only [SetIntervalDriftSafe.step] at taken
    split at taken
    · cases taken
    · rename_i stopped
      cases taken
      refine fun none => or_iff_not_imp_left.mpr (fun again => ?_)
      obtain ⟨awaiting,period,_⟩ := run_awaiting {state with shouldRun := true,period := some ⟨now,0⟩} now rfl
        (sound.stopped none) (@expect_late interval _ now again)
      obtain ⟨last,_,only⟩ := awaiting.only
      obtain ⟨id,targeted⟩ := onGrid.pending ⟨now,0⟩ period
      have same := ((targeted _ _).mp ((only _ _).mpr ⟨rfl,rfl⟩)).2
      simp only [Period.nextTarget,Nat.cast_zero,zero_add,one_mul] at same
      linarith
  | stop => trivial
  | fire id now => trivial

theorem inPhase_refused {action : Action} (refused : step interval state action = none) : InPhase state action := by
  cases action with
  | start now =>
    intro stopped
    simp [SetIntervalDriftSafe.step,stopped] at refused
  | stop => trivial
  | fire id now => trivial

end

/-- The callbacks stay on the grid of the last start exactly if every start after the first one comes at the time
the last cycle was expected at. -/
theorem grid_kept_iff (interval : Rat) (positive : 0 < interval) (actions : List Action) :
    (∀ first final, first <+: actions → Transition.run (step interval) (created interval) first = some final →
      OnGrid interval final) ↔ Transition.Along (step interval) InPhase (created interval) actions :=
  Transition.always_iff_along (step interval) InPhase (Sound interval) (OnGrid interval)
    (fun _ sound => sound.onGrid) (fun _ _ refused => inPhase_refused refused)
    (fun _ _ _ sound taken onGrid => inPhase_needed sound taken onGrid)
    (fun _ _ _ sound inPhase taken => sound.step positive inPhase taken) (created interval) actions
    (created_sound interval)

/-- Late firings, a stop, and a start at the time the third cycle was expected at. -/
def restarted : List Action :=
  [.start 5000,.fire 0 6003,.fire 1 7950,.stop,.start 8000,.fire 3 9001]

theorem grid_kept_iff_restarted : (0 : Rat) < 1000 ∧
    ∀ first final, first <+: restarted → Transition.run (step 1000) (created 1000) first = some final →
      OnGrid 1000 final :=
  ⟨by decide +kernel,(grid_kept_iff 1000 (by decide +kernel) restarted).mpr (by decide +kernel)⟩

/-- A start soon after a stop: the first period is longer than the interval. -/
theorem first_period_stretched : ∃ final,
    Transition.run (step 1000) (created 1000) [.start 5000,.stop,.start 5100] = some final ∧
      final.timers.get? 1 = some 7000 ∧ ¬OnGrid 1000 final := by
  refine ⟨_,rfl,by decide +kernel,fun onGrid => ?_⟩
  obtain ⟨id,only⟩ := onGrid.pending ⟨5100,0⟩ (by decide +kernel)
  have own := (only 1 7000).mp (by decide +kernel)
  have differ : (7000 : Rat) ≠ Period.nextTarget 1000 ⟨5100,0⟩ := by decide +kernel
  exact differ own.2

/-- A start long after a stop: the cycles that were missed run one right after the other. -/
example : (Transition.run (step 1000) (created 1000)
    [.start 5000,.stop,.start 9000,.fire 1 9001,.fire 2 9002]).map (fun final => final.callbacks.map Callback.target) =
      some [7000,8000] := by
  decide +kernel

end EventQueue.SetIntervalDriftSafe

import EventQueue.PeriodicEvent
import EventQueue.PeriodicStartup
import EventQueue.Selection
import Mathlib.Order.Bounds.Defs

/-! `scheduleNextPeriodEvent`: the start of the next row from the planned start of the current one or from a cron
expression, with every read of the clock on its own. Times are in milliseconds, intervals and offsets in seconds. -/
namespace EventQueue.PeriodicSchedule
open PeriodicStartup (PeriodicEvent Schedule)
open Selection (newDate)
open Transition

/-- The reads of the clock during one call, in their order, and the value of `Math.random`. -/
structure Call where
  /-- The parser of cron expressions starts from its own read of the clock. -/
  parsed : Int
  checked : Int
  shifted : Int
  scheduled : Int
  random : Rat
  forward : parsed ≤ checked ∧ checked ≤ shifted ∧ shifted ≤ scheduled
  unit : 0 ≤ random ∧ random < 1

structure Settings where
  randomOffsetPeriodicEvents : Option Rat
  runInterval : Nat
  /-- The next date of a cron expression. -/
  next : (cron tz : String) → (currentDate : Int) → Int

section
variable (settings : Settings) (event : PeriodicEvent)

def maximalOffset : Rat := (event.randomOffset.or settings.randomOffsetPeriodicEvents).getD 0

def calculateRandomOffset (random : Rat) : Int :=
  if maximalOffset settings event = 0 then 0 else ⌊random * maximalOffset settings event⌋ * 1000

/-- Null for cron events, which counts as zero in comparisons. -/
def intervalInMs : Rat :=
  match event.schedule with
  | .interval interval => interval * 1000
  | .cron _ _ => 0

/-- The start before a shift; a missing start of the current entry counts as zero. -/
def plannedStartAfter (startAfter : Option Int) (call : Call) : Int :=
  match event.schedule with
  | .interval interval => newDate (startAfter.getD 0 + interval * 1000 + calculateRandomOffset settings event call.random)
  | .cron cron tz => settings.next cron tz call.parsed + calculateRandomOffset settings event call.random

/-- More than one interval behind. -/
def shifts (startAfter : Option Int) (call : Call) : Bool :=
  decide (plannedStartAfter settings event startAfter call - call.checked < 0) &&
    decide (intervalInMs event ≤ |((plannedStartAfter settings event startAfter call - call.checked : Int) : Rat)|)

def newStartAfter (startAfter : Option Int) (call : Call) : Int :=
  if shifts settings event startAfter call then call.shifted + 5 * 1000
  else plannedStartAfter settings event startAfter call

/-- The start of the inserted row and the returned value: whether the next tick is behind schedule already. -/
def scheduleNextPeriodEvent (startAfter : Option Int) (call : Call) : Int × Bool :=
  (newStartAfter settings event startAfter call,
    decide (intervalInMs event < settings.runInterval * (3 / 2 : Rat)) &&
      decide (newStartAfter settings event startAfter call - call.scheduled ≤ 0))

/-- The starts of the rows that successive calls insert, each for the row of the call before. -/
def startAfters (startAfter : Int) : List Call → List Int
  | [] => []
  | call::rest =>
    (scheduleNextPeriodEvent settings event (some startAfter) call).1::
      startAfters (scheduleNextPeriodEvent settings event (some startAfter) call).1 rest

end

section
variable {settings : Settings} {event : PeriodicEvent}

theorem newDate_int (time : Int) : newDate time = time := by simp [newDate]

theorem calculateRandomOffset_nonneg (nonnegative : 0 ≤ maximalOffset settings event) {random : Rat}
    (unit : 0 ≤ random) : 0 ≤ calculateRandomOffset settings event random := by
  unfold calculateRandomOffset
  split
  · exact le_refl 0
  · have floor : 0 ≤ ⌊random * maximalOffset settings event⌋ := Int.floor_nonneg.mpr (mul_nonneg unit nonnegative)
    omega

/-- The start of the next row of an event with an interval of whole milliseconds. -/
theorem plannedStartAfter_interval {interval : Rat} {milliseconds : Nat} (scheduled : event.schedule = .interval interval)
    (whole : interval * 1000 = milliseconds) (startAfter : Int) (call : Call) :
    plannedStartAfter settings event (some startAfter) call =
      startAfter + milliseconds + calculateRandomOffset settings event call.random := by
  rw [plannedStartAfter,scheduled]
  simp only [Option.getD_some,whole]
  rw [← newDate_int (startAfter + milliseconds + calculateRandomOffset settings event call.random)]
  push_cast
  rfl

theorem shifts_interval {interval : Rat} {milliseconds : Nat} (scheduled : event.schedule = .interval interval)
    (whole : interval * 1000 = milliseconds) (startAfter : Option Int) (call : Call) :
    shifts settings event startAfter call = true ↔
      plannedStartAfter settings event startAfter call < call.checked ∧
        plannedStartAfter settings event startAfter call + milliseconds ≤ call.checked := by
  have known : intervalInMs event = milliseconds := by rw [intervalInMs,scheduled,← whole]
  unfold shifts
  rw [known,Bool.and_eq_true,decide_eq_true_eq,decide_eq_true_eq]
  generalize plannedStartAfter settings event startAfter call = planned
  have behind : ((milliseconds : Nat) : Rat) ≤ |((planned - call.checked : Int) : Rat)| ↔
      (milliseconds : Int) ≤ |planned - call.checked| := by
    rw [← Int.cast_abs]
    exact_mod_cast Iff.rfl
  rw [behind]
  constructor
  · rintro ⟨late,far⟩
    rw [abs_of_neg late] at far
    omega
  · rintro ⟨late,far⟩
    have negative : planned - call.checked < 0 := by omega
    rw [abs_of_neg negative]
    omega

/-- One call for an interval: the start moves on, it is less than an interval behind the clock, and without a shift
and an offset it moves by the interval. -/
theorem interval_step {interval : Rat} {milliseconds : Nat} (scheduled : event.schedule = .interval interval)
    (whole : interval * 1000 = milliseconds) (positive : 0 < milliseconds)
    (nonnegative : 0 ≤ maximalOffset settings event) (startAfter : Int) (call : Call) :
    startAfter < newStartAfter settings event (some startAfter) call ∧
      call.checked - milliseconds < newStartAfter settings event (some startAfter) call ∧
      (shifts settings event (some startAfter) call = false → calculateRandomOffset settings event call.random = 0 →
        newStartAfter settings event (some startAfter) call = startAfter + milliseconds) := by
  have planned := @plannedStartAfter_interval settings _ _ _ scheduled whole startAfter call
  have offset := calculateRandomOffset_nonneg nonnegative call.unit.1
  have shifted := @shifts_interval settings _ _ _ scheduled whole (some startAfter) call
  have later := call.forward.2.1
  unfold newStartAfter
  by_cases moved : shifts settings event (some startAfter) call = true
  · have far := (shifted.mp moved).2
    simp only [moved,if_true]
    refine ⟨by omega,by omega,fun none => by simp at none⟩
  · have near : ¬(plannedStartAfter settings event (some startAfter) call < call.checked ∧
        plannedStartAfter settings event (some startAfter) call + milliseconds ≤ call.checked) :=
      fun both => moved (shifted.mpr both)
    rw [if_neg moved]
    refine ⟨by omega,by omega,fun _ none => by omega⟩

theorem startAfters_length (startAfter : Int) (calls : List Call) :
    (startAfters settings event startAfter calls).length = calls.length := by
  induction calls generalizing startAfter with
  | nil => rfl
  | cons call rest ih => simp [startAfters,ih]

theorem startAfters_chain (startAfter : Int) (calls : List Call)
    (moves : ∀ startAfter, ∀ call ∈ calls, startAfter < newStartAfter settings event (some startAfter) call) :
    (startAfter::startAfters settings event startAfter calls).IsChain (· < ·) := by
  induction calls generalizing startAfter with
  | nil => exact List.isChain_singleton _
  | cons call rest ih =>
    refine List.isChain_cons_cons.mpr ⟨moves startAfter call (by simp),?_⟩
    exact ih _ (fun current other member => moves current other (by simp [member]))

/-- The row of a call is the one its predecessor in the chain leads to. -/
theorem startAfters_getElem (startAfter : Int) (calls : List Call) (index : Nat) (value : Int)
    (found : (startAfters settings event startAfter calls)[index]? = some value) :
    ∃ current call, (startAfter::startAfters settings event startAfter calls)[index]? = some current ∧
      calls[index]? = some call ∧ value = newStartAfter settings event (some current) call := by
  induction calls generalizing startAfter index with
  | nil => simp [startAfters] at found
  | cons call rest ih =>
    cases index with
    | zero =>
      simp only [startAfters,List.getElem?_cons_zero,Option.some.injEq] at found
      exact ⟨startAfter,call,rfl,rfl,found.symm⟩
    | succ index =>
      simp only [startAfters,List.getElem?_cons_succ] at found
      exact ih _ index found

/-- The chain of an interval event: its starts increase strictly, none of them is a whole interval behind the clock
of its lag check, and without shifts and offsets the `k`-th of them is `k` intervals after the first start. -/
theorem interval_chain {interval : Rat} {milliseconds : Nat} (scheduled : event.schedule = .interval interval)
    (whole : interval * 1000 = milliseconds) (positive : 0 < milliseconds)
    (nonnegative : 0 ≤ maximalOffset settings event) (startAfter : Int) (calls : List Call) :
    let chain := startAfters settings event startAfter calls
    chain.length = calls.length ∧
    (startAfter::chain).Pairwise (· < ·) ∧
    (∀ (index : Nat) (value : Int) (call : Call), chain[index]? = some value → calls[index]? = some call →
      call.checked - milliseconds < value) ∧
    ∀ (index : Nat) (value : Int), chain[index]? = some value →
      (∀ earlier ≤ index, ∀ current call, (startAfter::chain)[earlier]? = some current →
        calls[earlier]? = some call → shifts settings event (some current) call = false ∧
          calculateRandomOffset settings event call.random = 0) →
      value = startAfter + (index + 1) * milliseconds := by
  have step := interval_step scheduled whole positive nonnegative
  intro chain
  refine ⟨startAfters_length startAfter calls,?_,?_,?_⟩
  · rw [← List.isChain_iff_pairwise]
    exact startAfters_chain startAfter calls (fun current call _ => (step current call).1)
  · intro index value call found called
    obtain ⟨current,own,_,same,rfl⟩ := startAfters_getElem startAfter calls index value found
    rw [called,Option.some.injEq] at same
    subst same
    exact (step current call).2.1
  · intro index
    induction index with
    | zero =>
      intro value found undisturbed
      obtain ⟨current,call,first,called,rfl⟩ := startAfters_getElem startAfter calls 0 value found
      obtain ⟨unshifted,none⟩ := undisturbed 0 (le_refl 0) current call first called
      rw [List.getElem?_cons_zero,Option.some.injEq] at first
      subst first
      rw [(step startAfter call).2.2 unshifted none]
      push_cast
      ring
    | succ index ih =>
      intro value found undisturbed
      obtain ⟨current,call,before,called,rfl⟩ := startAfters_getElem startAfter calls (index + 1) value found
      obtain ⟨unshifted,none⟩ := undisturbed (index + 1) (le_refl _) current call before called
      rw [List.getElem?_cons_succ] at before
      have earlier := ih current before (fun other within => undisturbed other (by omega))
      rw [(step current call).2.2 unshifted none,earlier]
      push_cast
      ring

end

/-- The start of every minute in UTC. -/
def nextMinute (time : Int) : Int := (time / 60000 + 1) * 60000

def usualSettings : Settings := ⟨none,25 * 60 * 1000,fun _ _ => nextMinute⟩

/-- A call without delay between its reads of the clock. -/
def callAt (time : Int) : Call :=
  ⟨time,time,time,time,0,⟨le_refl time,le_refl time,le_refl time⟩,⟨le_refl 0,one_pos⟩⟩

def everyHalfMinute : PeriodicEvent := ⟨"HealthCheck_PERIODIC","DB","default",.interval 30,none⟩

theorem interval_chain_late_calls :
    (0::startAfters usualSettings everyHalfMinute 0 [callAt 100,callAt 200000]).Pairwise (· < ·) :=
  (@interval_chain usualSettings everyHalfMinute 30 30000 rfl (by norm_num) (by decide) (by decide) 0
    [callAt 100,callAt 200000]).2.1

/-- A selection and the call that follows it. -/
structure Round where
  baseDate : Int
  call : Call
  begun : baseDate ≤ call.parsed

/-- The selection takes entries that start at most three seconds after its base time. -/
def Permitted (startAfter : Int) (round : Round) : Prop := startAfter ≤ round.baseDate + EVENT_START_AFTER_HEADROOM

instance decidablePermitted (startAfter : Int) (round : Round) : Decidable (Permitted startAfter round) :=
  inferInstanceAs (Decidable (startAfter ≤ round.baseDate + EVENT_START_AFTER_HEADROOM))

section
variable (settings : Settings) (event : PeriodicEvent)

def advance (startAfter : Int) (round : Round) : Option Int :=
  some (scheduleNextPeriodEvent settings event (some startAfter) round.call).1

/-- A date of a cron expression strictly after the given time, and the first one. -/
def LeastTick (ticks : Set Int) (next : Int → Int) : Prop :=
  ∀ time, IsLeast {tick | tick ∈ ticks ∧ time < tick} (next time)

/-- No tick lies between the clock and the start of the entry, or the clock has passed one before the lag check. -/
def TickReached (ticks : Set Int) (startAfter : Int) (round : Round) : Prop :=
  (∀ tick ∈ ticks, round.call.parsed < tick → startAfter < tick) ∨
    ∃ tick ∈ ticks, round.call.parsed < tick ∧ tick < round.call.checked

end

section
variable {settings : Settings} {event : PeriodicEvent} {cron tz : String} {ticks : Set Int}

theorem calculateRandomOffset_zero (none : maximalOffset settings event = 0) (random : Rat) :
    calculateRandomOffset settings event random = 0 := by simp [calculateRandomOffset,none]

theorem newStartAfter_cron (scheduled : event.schedule = .cron cron tz) (startAfter : Option Int) (call : Call) :
    newStartAfter settings event startAfter call =
      if settings.next cron tz call.parsed + calculateRandomOffset settings event call.random < call.checked then
        call.shifted + 5 * 1000
      else settings.next cron tz call.parsed + calculateRandomOffset settings event call.random := by
  have planned : plannedStartAfter settings event startAfter call =
      settings.next cron tz call.parsed + calculateRandomOffset settings event call.random := by
    simp [plannedStartAfter,scheduled]
  have behind : shifts settings event startAfter call = decide (plannedStartAfter settings event startAfter call <
      call.checked) := by
    have zero : intervalInMs event = 0 := by simp [intervalInMs,scheduled]
    simp [shifts,zero]
  rw [newStartAfter,behind,planned]
  simp

theorem startAfters_increasing_iff (startAfter : Int) (rounds : List Round) :
    (startAfter::startAfters settings event startAfter (rounds.map Round.call)).Pairwise (· < ·) ↔
      Along (advance settings event) (fun current round => current < newStartAfter settings event (some current) round.call)
        startAfter rounds := by
  rw [← List.isChain_iff_pairwise]
  induction rounds generalizing startAfter with
  | nil => simp [startAfters,Along]
  | cons round rest ih =>
    simp only [List.map_cons,startAfters,List.isChain_cons_cons,ih,Along,advance,Option.some.injEq,forall_eq']
    rfl

/-- In a round that the selection permits, the next start is later than the current one iff a tick is reached. -/
theorem cron_step (scheduled : event.schedule = .cron cron tz) (none : maximalOffset settings event = 0)
    (least : LeastTick ticks (settings.next cron tz)) (startAfter : Int) (round : Round)
    (permitted : Permitted startAfter round) :
    startAfter < newStartAfter settings event (some startAfter) round.call ↔ TickReached ticks startAfter round := by
  obtain ⟨⟨tick,after⟩,first⟩ := least round.call.parsed
  obtain ⟨forward,later,_⟩ := round.call.forward
  have begun := round.begun
  rw [newStartAfter_cron scheduled,calculateRandomOffset_zero none,add_zero]
  unfold TickReached
  unfold Permitted EVENT_START_AFTER_HEADROOM at permitted
  by_cases passed : settings.next cron tz round.call.parsed < round.call.checked
  · rw [if_pos passed]
    refine iff_of_true (by omega) (Or.inr ⟨_,tick,after,passed⟩)
  · rw [if_neg passed]
    constructor
    · intro increased
      refine Or.inl (fun other member ahead => ?_)
      have bound := first ⟨member,ahead⟩
      omega
    · rintro (apart | ⟨other,member,ahead,behind⟩)
      · exact apart _ tick after
      · have bound := first ⟨member,ahead⟩
        omega

/-- The starts of a cron event increase strictly, so that no tick is executed twice, iff in every round a tick is
reached. -/
theorem cron_ticks_once_iff (scheduled : event.schedule = .cron cron tz) (none : maximalOffset settings event = 0)
    (least : LeastTick ticks (settings.next cron tz)) (startAfter : Int) (rounds : List Round)
    (permitted : Along (advance settings event) Permitted startAfter rounds) :
    (startAfter::startAfters settings event startAfter (rounds.map Round.call)).Pairwise (· < ·) ↔
      Along (advance settings event) (TickReached ticks) startAfter rounds := by
  rw [startAfters_increasing_iff]
  exact along_congr_assuming (fun current round allowed => cron_step scheduled none least current round allowed)
    startAfter rounds permitted

end

/-- The system of `EventQueue.PeriodicEvent` schedules as a call does whose clock stands still up to the insertion. -/
theorem scheduleNextPeriodEvent_system {settings : Settings} {event : PeriodicEvent} {cron tz : String}
    (config : PeriodicConfig) (queueEntry : Row) (call : Call) (randomOffset now later : Nat)
    (schedule : event.schedule = if config.cron then .cron cron tz else .interval config.interval)
    (offset : calculateRandomOffset settings event call.random = randomOffset)
    (runInterval : settings.runInterval = config.runInterval)
    (checked : call.checked = now) (shifted : call.shifted = now) (scheduled : call.scheduled = later) :
    scheduleNextPeriodEvent settings event queueEntry.startAfter call =
      (EventQueue.newStartAfter config queueEntry (settings.next cron tz call.parsed) randomOffset now,
        behindSchedule config
          (EventQueue.newStartAfter config queueEntry (settings.next cron tz call.parsed) randomOffset now) later) := by
  have milliseconds : intervalInMs event = config.intervalInMs := by
    rw [intervalInMs,PeriodicConfig.intervalInMs,schedule]
    by_cases given : config.cron = true
    · simp [given]
    · simp [given]
  have start : newStartAfter settings event queueEntry.startAfter call =
      EventQueue.newStartAfter config queueEntry (settings.next cron tz call.parsed) randomOffset now := by
    by_cases given : config.cron = true
    · rw [newStartAfter_cron (by rw [schedule,if_pos given]),offset,checked,shifted]
      simp only [EventQueue.newStartAfter,given,if_true,PeriodicConfig.intervalInMs]
      refine if_congr ?_ rfl rfl
      omega
    · have plain : event.schedule = .interval config.interval := by rw [schedule,if_neg given]
      have whole : (config.interval : Rat) * 1000 = ((config.interval * 1000 : Nat) : Rat) := by push_cast; rfl
      have planned := @plannedStartAfter_interval settings _ _ _ plain whole (queueEntry.startAfter.getD 0) call
      have moved := @shifts_interval settings _ _ _ plain whole queueEntry.startAfter call
      rw [show plannedStartAfter settings event (some (queueEntry.startAfter.getD 0)) call =
        plannedStartAfter settings event queueEntry.startAfter call by simp [plannedStartAfter],offset] at planned
      rw [planned,checked] at moved
      simp only [newStartAfter,EventQueue.newStartAfter,given,PeriodicConfig.intervalInMs,shifted,planned,
        if_neg Bool.false_ne_true]
      refine if_congr ?_ rfl rfl
      rw [moved]
      omega
  have soon : intervalInMs event < settings.runInterval * (3 / 2 : Rat) ↔
      config.intervalInMs * 2 < config.runInterval * 3 := by
    rw [milliseconds,runInterval,← Nat.cast_lt (α := Rat)]
    push_cast
    constructor
    · intro less
      linarith
    · intro less
      linarith
  simp only [scheduleNextPeriodEvent,start,behindSchedule,scheduled,decide_eq_decide.mpr soon]

def minutes : Set Int := {time | 60000 ∣ time}

theorem nextMinute_least : LeastTick minutes nextMinute := by
  intro time
  refine ⟨⟨⟨time / 60000 + 1,mul_comm _ _⟩,?_⟩,?_⟩
  · unfold nextMinute
    omega
  · rintro tick ⟨⟨factor,rfl⟩,ahead⟩
    unfold nextMinute
    omega

def everyMinute : PeriodicEvent := ⟨"HealthCheck_PERIODIC","DB","default",.cron "* * * * *" "UTC",none⟩

/-- A selection and a call at one time. -/
def roundAt (time : Int) : Round := ⟨time,callAt time,le_refl time⟩

theorem cron_ticks_once_iff_on_time :
    (0::startAfters usualSettings everyMinute 0 ([roundAt 0,roundAt 60000].map Round.call)).Pairwise (· < ·) := by
  refine (@cron_ticks_once_iff usualSettings everyMinute "* * * * *" "UTC" _ rfl rfl nextMinute_least 0
    [roundAt 0,roundAt 60000] ?_).mpr ?_
  · decide
  · exact ⟨Or.inl (fun tick _ ahead => ahead),fun next taken => ⟨by
      cases taken
      exact Or.inl (fun tick _ ahead => ahead),fun _ _ => trivial⟩⟩

/-- The entry for the first minute is selected two seconds early, and the parser gives the same minute again. -/
theorem tick_scheduled_twice : LeastTick minutes nextMinute ∧
    Along (advance usualSettings everyMinute) Permitted 0 [roundAt 0,roundAt 58000] ∧
    ¬(startAfters usualSettings everyMinute 0 ([roundAt 0,roundAt 58000].map Round.call)).Pairwise (· < ·) := by
  refine ⟨nextMinute_least,by decide,?_⟩
  have twice : startAfters usualSettings everyMinute 0 ([roundAt 0,roundAt 58000].map Round.call) = [60000,60000] := by
    decide
  rw [twice]
  decide

end EventQueue.PeriodicSchedule

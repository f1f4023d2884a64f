import EventQueue.Selection
import EventQueue.Lib.Dict
import EventQueue.Lib.Separated
import EventQueue.Lib.Timers
import EventQueue.Lib.Transition

/-! `EventScheduler`: a broadcast at a later date, at most one timer for each combination and date. The keys of what is
scheduled, the timers of each tenant and the timers of Node are three registries; `clearForTenant` only touches the
last one. -/
namespace EventQueue.EventScheduler

/-- The longest delay of `setTimeout`, in milliseconds. -/
def TIMEOUT_MAX : Int := 2147483647

structure Event where
  tenantId : String
  type : String
  subType : String
  nameSpace : String
  startAfter : Int
  deriving DecidableEq

/-- The callback of a timer, and the time from which on the timer may fire. -/
structure Task where
  event : Event
  due : Int

structure State where
  scheduledEvents : Dict Bool
  eventsByTenants : Dict (List Nat)
  timers : Timers Task
  /-- The broadcasts triggered so far with their times. -/
  broadcasts : List (Event × Int)

inductive Action
  | scheduleEvent (event : Event) (now : Int)
  | fire (id : Nat) (now : Int)
  | clearForTenant (tenantId : String)

def State.initial : State := ⟨Dict.empty,Dict.empty,Timers.empty,[]⟩

/-- The delay that `setTimeout` takes instead of the one it is given. -/
def timeoutOf (delay : Int) : Int := if 1 ≤ delay ∧ delay ≤ TIMEOUT_MAX then delay else 1

def State.timeoutsOf (state : State) (tenantId : String) : List Nat := (state.eventsByTenants.get? tenantId).getD []

section
variable (toISOString : Int → String)

def Event.key (event : Event) : String :=
  Separated.join '#' [event.tenantId,event.type,event.subType,event.nameSpace,toISOString event.startAfter]

def State.isScheduled (state : State) (event : Event) : Bool :=
  (state.scheduledEvents.get? (event.key toISOString)).getD false

def State.scheduleEvent (state : State) (event : Event) (now : Int) : State :=
  if state.isScheduled toISOString event then state
  else {state with
    scheduledEvents := state.scheduledEvents.set (event.key toISOString) true
    eventsByTenants := state.eventsByTenants.set event.tenantId
      (state.timeoutsOf event.tenantId ++ [state.timers.created])
    timers := state.timers.set ⟨event,now + timeoutOf (event.startAfter - now)⟩}

def State.fire (state : State) (id : Nat) (now : Int) (event : Event) : State where
  scheduledEvents := state.scheduledEvents.filter (fun key _ => key ≠ event.key toISOString)
  eventsByTenants := state.eventsByTenants.set event.tenantId
    ((state.timeoutsOf event.tenantId).filter (· ≠ id))
  timers := state.timers.clear id
  broadcasts := state.broadcasts ++ [(event,now)]

def State.clearForTenant (state : State) (tenantId : String) : State :=
  {state with timers := (state.timeoutsOf tenantId).foldl Timers.clear state.timers}

def step (state : State) : Action → Option State
  | .scheduleEvent event now => some (state.scheduleEvent toISOString event now)
  | .fire id now => (state.timers.get? id).bind (fun task =>
      if task.due ≤ now then some (state.fire toISOString id now task.event) else none)
  | .clearForTenant tenantId => some (state.clearForTenant tenantId)

/-- A key is registered, so that a call for it is ignored, exactly while a timer for it is pending, and there is one
timer at most; no broadcast has come before its date, and none is due before it. -/
structure InStep (state : State) : Prop where
  registered : ∀ event, state.isScheduled toISOString event = true ↔
    ∃ id task, state.timers.get? id = some task ∧ task.event = event
  single : ∀ first second one other, state.timers.get? first = some one → state.timers.get? second = some other →
    one.event = other.event → first = second
  broadcasts : ∀ broadcast ∈ state.broadcasts, broadcast.1.startAfter ≤ broadcast.2
  due : ∀ id task, state.timers.get? id = some task → task.event.startAfter ≤ task.due

/-- No other combination and date has the same text. -/
def Unambiguous (event : Event) : Prop := ∀ other : Event, other.key toISOString = event.key toISOString → other = event

/-- A call that is not ignored has an unambiguous key and a date that `setTimeout` reaches; no timer is pending for a
tenant that is cleared. -/
def KeepsStep (state : State) : Action → Prop
  | .scheduleEvent event now => state.isScheduled toISOString event = false →
      Unambiguous toISOString event ∧ event.startAfter - now ≤ TIMEOUT_MAX
  | .fire _ _ => True
  | .clearForTenant tenantId => ∀ id task, state.timers.get? id = some task → task.event.tenantId ≠ tenantId

/-- The timers of a tenant are listed for it and for no other one. -/
structure Sound (state : State) : Prop extends InStep toISOString state where
  unambiguous : ∀ id task, state.timers.get? id = some task → Unambiguous toISOString task.event
  listed : ∀ id task, state.timers.get? id = some task → id ∈ state.timeoutsOf task.event.tenantId
  own : ∀ tenantId, ∀ id ∈ state.timeoutsOf tenantId, id < state.timers.created ∧
    ∀ task, state.timers.get? id = some task → task.event.tenantId = tenantId

end

section
variable {toISOString : Int → String}

/-- Names without `#` are enough, for a date is written without one. -/
theorem unambiguous_of_plain (event : Event) (plain : ∀ name ∈ [event.tenantId,event.type,event.subType,event.nameSpace],
    '#' ∉ name.toList) (plainDates : ∀ date, '#' ∉ (toISOString date).toList)
    (injective : Function.Injective toISOString) : Unambiguous toISOString event := by
  intro other same
  have marked : ∀ part ∈ [event.tenantId,event.type,event.subType,event.nameSpace] ++ [toISOString event.startAfter],
      '#' ∉ part.toList := by
    intro part member
    rcases List.mem_append.mp member with name | date
    · exact plain part name
    · rw [List.mem_singleton.mp date]
      exact plainDates _
  have parts : [other.tenantId,other.type,other.subType,other.nameSpace,toISOString other.startAfter] =
      [event.tenantId,event.type,event.subType,event.nameSpace,toISOString event.startAfter] :=
    Separated.join_plain_inj marked rfl same
  simp only [List.cons.injEq,and_true] at parts
  obtain ⟨tenantId,type,subType,nameSpace,date⟩ := parts
  have startAfter := injective date
  cases other
  cases event
  simp_all only

theorem timeoutsOf_set (state : State) (tenantId : String) (ids : List Nat) (other : String) :
    ((state.eventsByTenants.set tenantId ids).get? other).getD [] =
      if other = tenantId then ids else state.timeoutsOf other := by
  rw [Dict.get?_set]
  split
  · rfl
  · rfl

/-- `setTimeout` keeps a delay that it can reach, and does not fire before a date that is past. -/
theorem timeoutOf_reaches (delay : Int) : delay ≤ timeoutOf delay ↔ delay ≤ TIMEOUT_MAX := by
  unfold timeoutOf
  have long : 1 < TIMEOUT_MAX := by decide
  split
  · omega
  · omega

theorem initial_sound : Sound toISOString State.initial := by
  refine ⟨⟨fun event => ?_,?_,?_,?_⟩,?_,?_,?_⟩
  · simp [State.isScheduled,State.initial]
  all_goals simp [State.initial,State.timeoutsOf]

/-- What a call that is not ignored leaves behind. -/
theorem scheduleEvent_new {state : State} {event : Event} (now : Int) (new : state.isScheduled toISOString event = false) :
    (∀ other, (state.scheduleEvent toISOString event now).isScheduled toISOString other =
      (decide (other.key toISOString = event.key toISOString) || state.isScheduled toISOString other)) ∧
    (state.scheduleEvent toISOString event now).timers =
      state.timers.set ⟨event,now + timeoutOf (event.startAfter - now)⟩ ∧
    (∀ tenantId, (state.scheduleEvent toISOString event now).timeoutsOf tenantId =
      if tenantId = event.tenantId then state.timeoutsOf event.tenantId ++ [state.timers.created]
      else state.timeoutsOf tenantId) ∧
    (state.scheduleEvent toISOString event now).broadcasts = state.broadcasts := by
  have added : state.scheduleEvent toISOString event now = {state with
      scheduledEvents := state.scheduledEvents.set (event.key toISOString) true
      eventsByTenants := state.eventsByTenants.set event.tenantId
        (state.timeoutsOf event.tenantId ++ [state.timers.created])
      timers := state.timers.set ⟨event,now + timeoutOf (event.startAfter - now)⟩} := by
    rw [State.scheduleEvent,new]
    rfl
  rw [added]
  refine ⟨fun other => ?_,rfl,fun tenantId => timeoutsOf_set _ _ _ tenantId,rfl⟩
  simp only [State.isScheduled,Dict.get?_set]
  split
  · rename_i same
    simp [same]
  · rename_i differs
    simp [differs]

theorem Sound.scheduleEvent {state : State} (sound : Sound toISOString state) (event : Event) (now : Int)
    (keeps : state.isScheduled toISOString event = false →
      Unambiguous toISOString event ∧ event.startAfter - now ≤ TIMEOUT_MAX) :
    Sound toISOString (state.scheduleEvent toISOString event now) := by
  cases new : state.isScheduled toISOString event with
  | true =>
    rw [State.scheduleEvent,new]
    exact sound
  | false =>
    obtain ⟨unambiguous,reached⟩ := keeps new
    obtain ⟨isScheduled,timers,timeouts,broadcasts⟩ := scheduleEvent_new now new
    have notPending : ∀ id task, state.timers.get? id = some task → task.event ≠ event := by
      intro id task found same
      have registered := (sound.registered event).mpr ⟨id,task,found,same⟩
      rw [new] at registered
      cases registered
    refine ⟨⟨fun other => ?_,?_,?_,?_⟩,?_,?_,?_⟩
    · rw [isScheduled,Bool.or_eq_true,decide_eq_true_iff,sound.registered,timers]
      constructor
      · rintro (same | ⟨id,task,found,own⟩)
        · obtain rfl := unambiguous other same
          exact ⟨_,_,by rw [Timers.get?_set,if_pos rfl],rfl⟩
        · refine ⟨id,task,?_,own⟩
          rw [Timers.get?_set,if_neg (ne_of_lt (Timers.get?_lt found)),found]
      · rintro ⟨id,task,found,rfl⟩
        rcases Timers.set_cases found with ⟨_,rfl⟩ | old
        · exact Or.inl rfl
        · exact Or.inr ⟨id,task,old,rfl⟩
    · rw [timers]
      intro first second one other foundFirst foundSecond same
      rcases Timers.set_cases foundFirst with ⟨rfl,rfl⟩ | oldFirst
      · rcases Timers.set_cases foundSecond with ⟨rfl,rfl⟩ | oldSecond
        · rfl
        · exact absurd same.symm (notPending _ _ oldSecond)
      · rcases Timers.set_cases foundSecond with ⟨rfl,rfl⟩ | oldSecond
        · exact absurd same (notPending _ _ oldFirst)
        · exact sound.single _ _ _ _ oldFirst oldSecond same
    · rw [broadcasts]
      exact sound.broadcasts
    · rw [timers]
      intro id task found
      rcases Timers.set_cases found with ⟨_,rfl⟩ | old
      · have late := (timeoutOf_reaches _).mpr reached
        simp only
        omega
      · exact sound.due id task old
    · rw [timers]
      intro id task found
      rcases Timers.set_cases found with ⟨_,rfl⟩ | old
      · exact unambiguous
      · exact sound.unambiguous id task old
    · intro id task found
      rw [timers] at found
      rw [timeouts]
      rcases Timers.set_cases found with ⟨rfl,rfl⟩ | old
      · simp
      · have listed := sound.listed id task old
        split
        · rename_i same
          rw [same] at listed
          exact List.mem_append_left _ listed
        · exact listed
    · intro tenantId id member
      rw [timeouts] at member
      rw [timers]
      have listed : id = state.timers.created ∧ tenantId = event.tenantId ∨ id ∈ state.timeoutsOf tenantId := by
        split at member
        · rename_i same
          rcases List.mem_append.mp member with old | last
          · exact Or.inr (same ▸ old)
          · exact Or.inl ⟨List.mem_singleton.mp last,same⟩
        · exact Or.inr member
      rcases listed with ⟨rfl,rfl⟩ | old
      · refine ⟨Nat.lt_succ_self _,fun task found => ?_⟩
        rcases Timers.set_cases found with ⟨_,rfl⟩ | old
        · rfl
        · exact absurd (Timers.get?_lt old) (Nat.lt_irrefl _)
      · obtain ⟨earlier,tenant⟩ := sound.own tenantId id old
        refine ⟨Nat.lt_succ_of_lt earlier,fun task found => ?_⟩
        rcases Timers.set_cases found with ⟨rfl,_⟩ | before
        · exact absurd earlier (Nat.lt_irrefl _)
        · exact tenant task before

theorem Sound.fire {state : State} (sound : Sound toISOString state) {id : Nat} {now : Int} {task : Task}
    (found : state.timers.get? id = some task) (due : task.due ≤ now) :
    Sound toISOString (state.fire toISOString id now task.event) := by
  have timers : (state.fire toISOString id now task.event).timers = state.timers.clear id := rfl
  have timeouts (tenantId : String) : (state.fire toISOString id now task.event).timeoutsOf tenantId =
      if tenantId = task.event.tenantId then (state.timeoutsOf task.event.tenantId).filter (· ≠ id)
      else state.timeoutsOf tenantId := timeoutsOf_set _ _ _ tenantId
  refine ⟨⟨fun event => ?_,?_,?_,?_⟩,?_,?_,?_⟩
  · have isScheduled : (state.fire toISOString id now task.event).isScheduled toISOString event =
        (decide (event.key toISOString ≠ task.event.key toISOString) && state.isScheduled toISOString event) := by
      simp only [State.isScheduled,State.fire,Dict.get?_filter]
      cases state.scheduledEvents.get? (event.key toISOString) with
      | none => simp
      | some value => by_cases same : event.key toISOString = task.event.key toISOString <;> simp [same,Option.filter]
    rw [isScheduled,Bool.and_eq_true,decide_eq_true_iff,sound.registered,timers]
    constructor
    · rintro ⟨differs,other,later,at_,rfl⟩
      refine ⟨other,later,?_,rfl⟩
      rw [Timers.get?_clear,if_neg,at_]
      rintro rfl
      rw [found] at at_
      cases at_
      exact differs rfl
    · rintro ⟨other,later,at_,rfl⟩
      obtain ⟨differs,before⟩ := Timers.clear_cases at_
      refine ⟨fun same => differs ?_,other,later,before,rfl⟩
      exact sound.single _ _ _ _ before found (sound.unambiguous id task found _ same)
  · intro first second one other atFirst atSecond same
    exact sound.single _ _ _ _ (Timers.clear_cases atFirst).2 (Timers.clear_cases atSecond).2 same
  · intro broadcast member
    rcases List.mem_append.mp member with old | last
    · exact sound.broadcasts broadcast old
    · rw [List.mem_singleton.mp last]
      exact (sound.due id task found).trans due
  · exact fun other later at_ => sound.due other later (Timers.clear_cases at_).2
  · exact fun other later at_ => sound.unambiguous other later (Timers.clear_cases at_).2
  · intro other later at_
    obtain ⟨differs,before⟩ := Timers.clear_cases at_
    have listed := sound.listed other later before
    rw [timeouts]
    split
    · rename_i same
      rw [same] at listed
      exact List.mem_filter.mpr ⟨listed,by simpa using differs⟩
    · exact listed
  · intro tenantId other member
    have listed : other ∈ state.timeoutsOf tenantId := by
      rw [timeouts] at member
      split at member
      · rename_i same
        rw [same]
        exact (List.mem_filter.mp member).1
      · exact member
    obtain ⟨earlier,tenant⟩ := sound.own tenantId other listed
    exact ⟨earlier,fun later at_ => tenant later (Timers.clear_cases at_).2⟩

theorem get?_clearForTenant (state : State) (tenantId : String) (id : Nat) :
    (state.clearForTenant tenantId).timers.get? id =
      if id ∈ state.timeoutsOf tenantId then none else state.timers.get? id :=
  Timers.get?_clearAll _ _ _

/-- Where no timer of the tenant is pending, nothing changes. -/
theorem Sound.clearForTenant {state : State} (sound : Sound toISOString state) (tenantId : String)
    (none : ∀ id task, state.timers.get? id = some task → task.event.tenantId ≠ tenantId) :
    Sound toISOString (state.clearForTenant tenantId) := by
  have timers (id : Nat) : (state.clearForTenant tenantId).timers.get? id = state.timers.get? id := by
    rw [get?_clearForTenant]
    split
    · rename_i listed
      symm
      rw [Option.eq_none_iff_forall_ne_some]
      intro task found
      exact none id task found ((sound.own tenantId id listed).2 task found)
    · rfl
  refine ⟨⟨?_,?_,sound.broadcasts,?_⟩,?_,?_,?_⟩
  · intro event
    simp only [timers]
    exact sound.registered event
  · simpa only [timers] using sound.single
  · simpa only [timers] using sound.due
  · simpa only [timers] using sound.unambiguous
  · intro id task found
    rw [timers] at found
    exact sound.listed id task found
  · intro other id listed
    rw [timers]
    obtain ⟨earlier,tenant⟩ := sound.own other id listed
    refine ⟨?_,tenant⟩
    rw [State.clearForTenant,Timers.created_clearAll]
    exact earlier

theorem Sound.step {state next : State} {action : Action} (sound : Sound toISOString state)
    (keeps : KeepsStep toISOString state action) (taken : step toISOString state action = some next) :
    Sound toISOString next := by
  cases action with
  | scheduleEvent event now =>
    cases taken
    exact sound.scheduleEvent event now keeps
  | fire id now =>
    obtain ⟨task,found,fired⟩ := Option.bind_eq_some_iff.mp taken
    split at fired
    · rename_i due
      cases fired
      exact sound.fire found due
    · cases fired
  | clearForTenant tenantId =>
    cases taken
    exact sound.clearForTenant tenantId keeps

theorem keepsStep_needed {state next : State} {action : Action} (sound : Sound toISOString state)
    (taken : EventScheduler.step toISOString state action = some next) (inStep : InStep toISOString next) :
    KeepsStep toISOString state action := by
  cases action with
  | scheduleEvent event now =>
    cases taken
    intro new
    obtain ⟨isScheduled,timers,_⟩ := scheduleEvent_new now new
    refine ⟨fun other same => ?_,?_⟩
    · have registered : (state.scheduleEvent toISOString event now).isScheduled toISOString other = true := by
        rw [isScheduled,same]
        simp
      obtain ⟨id,task,found,rfl⟩ := (inStep.registered other).mp registered
      rw [timers] at found
      rcases Timers.set_cases found with ⟨_,rfl⟩ | old
      · rfl
      -- A pending timer with the same text would have been registered before.
      · have before := (sound.registered task.event).mpr ⟨id,task,old,rfl⟩
        rw [State.isScheduled,same] at before
        rw [State.isScheduled,before] at new
        cases new
    · have due := inStep.due state.timers.created _ (by rw [timers,Timers.get?_set,if_pos rfl])
      simp only at due
      exact (timeoutOf_reaches _).mp (by omega)
  | fire id now => trivial
  | clearForTenant tenantId =>
    cases taken
    rintro id task found rfl
    have still : (state.clearForTenant task.event.tenantId).isScheduled toISOString task.event = true :=
      (sound.registered task.event).mpr ⟨id,task,found,rfl⟩
    obtain ⟨other,later,at_,same⟩ := (inStep.registered task.event).mp still
    rw [get?_clearForTenant] at at_
    split at at_
    · cases at_
    · rename_i unlisted
      obtain rfl := sound.single _ _ _ _ at_ found same
      exact unlisted (sound.listed other task found)

theorem keepsStep_refused {state : State} {action : Action} (refused : step toISOString state action = none) :
    KeepsStep toISOString state action := by
  cases action with
  | scheduleEvent event now => cases refused
  | fire id now => trivial
  | clearForTenant tenantId => cases refused

end

/-- The registries stay in step and nothing is early exactly if every call that is not ignored has an unambiguous key
and a date within the reach of `setTimeout`, and no timer is pending for a tenant when it is cleared. -/
theorem scheduler_in_step_iff (toISOString : Int → String) (actions : List Action) :
    (∀ first final, first <+: actions → Transition.run (step toISOString) State.initial first = some final →
      InStep toISOString final) ↔ Transition.Along (step toISOString) (KeepsStep toISOString) State.initial actions :=
  Transition.always_iff_along (step toISOString) (KeepsStep toISOString) (Sound toISOString) (InStep toISOString)
    (fun _ sound => sound.toInStep) (fun _ _ refused => keepsStep_refused refused)
    (fun _ _ _ sound taken inStep => keepsStep_needed sound taken inStep)
    (fun _ _ _ sound keeps taken => sound.step keeps taken) State.initial actions initial_sound

def delayedMail : Event := ⟨"t1","Notifications","Mail","default",600000⟩

/-- The key of a tenant that was cleared stays registered, and every further call for it is ignored. -/
theorem cleared_stays_registered : ∃ final,
    Transition.run (step Selection.toISOString) State.initial [.scheduleEvent delayedMail 0,.clearForTenant "t1"] = some final ∧
      (∀ id, final.timers.get? id = none) ∧ final.scheduleEvent Selection.toISOString delayedMail 1000 = final ∧
      ¬InStep Selection.toISOString final := by
  let scheduled := State.initial.scheduleEvent Selection.toISOString delayedMail 0
  obtain ⟨isScheduled,timers,timeouts,_⟩ := @scheduleEvent_new Selection.toISOString State.initial delayedMail 0 rfl
  have registered : (scheduled.clearForTenant "t1").isScheduled Selection.toISOString delayedMail = true :=
    (isScheduled delayedMail).trans (by simp)
  have noTimer (id : Nat) : (scheduled.clearForTenant "t1").timers.get? id = none := by
    have own : scheduled.timeoutsOf "t1" = [0] := timeouts "t1"
    rw [get?_clearForTenant,own,timers,Timers.get?_set]
    by_cases first : id = 0
    · rw [if_pos (List.mem_singleton.mpr first)]
    · rw [if_neg (fun listed => first (List.mem_singleton.mp listed))]
      exact if_neg first
  refine ⟨_,rfl,noTimer,if_pos registered,fun inStep => ?_⟩
  obtain ⟨id,task,found,_⟩ := (inStep.registered delayedMail).mp registered
  cases (noTimer id).symm.trans found

/-- A date beyond the reach of `setTimeout`: the broadcast comes after one millisecond. -/
example : (Transition.run (step Selection.toISOString) State.initial
    [.scheduleEvent {delayedMail with startAfter := 1893456000000} 0,.fire 0 1]).map State.broadcasts =
      some [({delayedMail with startAfter := 1893456000000},1)] := by
  decide +kernel

end EventQueue.EventScheduler

import EventQueue.EventScheduler
import EventQueue.Lib.Parties

/-! The end of a tenant's subscription: `handleUnsubscribe` of `shared/redis/index.js` tells all instances, and
`executeUnsubscribeHandlers` of the configuration blocks the tenant for a while and has the scheduler clear its
timers. -/
namespace EventQueue.Unsubscribe
open EventScheduler (Event)

def DELETE_TENANT_BLOCK_AFTER_MS : Nat := 5 * 60 * 1000

/-- The timer that ends the block of a tenant, and the time it is set for. -/
structure Release where
  tenantId : String
  due : Nat

structure Instance where
  unsubscribedTenants : Dict Bool
  releases : Timers Release
  scheduler : EventScheduler.State
  /-- Messages of the channel that are on their way. -/
  inbox : List String
  /-- The unsubscriptions that were handled, with their times. No function reads them back. -/
  handled : List (String × Nat)

structure State where
  now : Nat
  instances : List Instance

inductive Action
  | wait (time : Nat)
  /-- The handler after `unsubscribe` of the deployment service. -/
  | unsubscribe (index : Nat) (tenantId : String)
  | deliver (index position : Nat)
  /-- A message does not arrive. -/
  | lose (index position : Nat)
  | release (index id : Nat)
  | schedule (index : Nat) (event : Event)
  | fire (index id : Nat)

def Instance.created : Instance := ⟨Dict.empty,Timers.empty,EventScheduler.State.initial,[],[]⟩

def State.initial (count : Nat) : State := ⟨0,List.replicate count Instance.created⟩

namespace Instance

def isTenantUnsubscribed (own : Instance) (tenantId : String) : Bool :=
  (own.unsubscribedTenants.get? tenantId).getD false

/-- The only handler attached is that of the scheduler. -/
def executeUnsubscribeHandlers (own : Instance) (tenantId : String) (now : Nat) : Instance where
  unsubscribedTenants := own.unsubscribedTenants.set tenantId true
  releases := own.releases.set ⟨tenantId,now + DELETE_TENANT_BLOCK_AFTER_MS⟩
  scheduler := own.scheduler.clearForTenant tenantId
  inbox := own.inbox
  handled := own.handled ++ [(tenantId,now)]

def release (own : Instance) (id : Nat) (tenantId : String) : Instance :=
  {own with
    unsubscribedTenants := own.unsubscribedTenants.filter (fun tenant _ => tenant ≠ tenantId)
    releases := own.releases.clear id}

def setScheduler (own : Instance) (scheduler : EventScheduler.State) : Instance := {own with scheduler := scheduler}

end Instance

section
variable (redisEnabled : Bool) (toISOString : Int → String)

def State.setInstance (state : State) (index : Nat) (own : Instance) : State :=
  {state with instances := state.instances.set index own}

def step (state : State) : Action → Option State
  | .wait time => some {state with now := state.now + time}
  | .unsubscribe index tenantId =>
    if redisEnabled then
      some {state with instances := state.instances.map (fun own => {own with inbox := own.inbox ++ [tenantId]})}
    else state.instances[index]?.map (fun own =>
      state.setInstance index (own.executeUnsubscribeHandlers tenantId state.now))
  | .deliver index position => state.instances[index]?.bind (fun own =>
    own.inbox[position]?.map (fun tenantId =>
      state.setInstance index (Instance.executeUnsubscribeHandlers {own with inbox := own.inbox.eraseIdx position}
        tenantId state.now)))
  | .lose index position => state.instances[index]?.map (fun own =>
    state.setInstance index {own with inbox := own.inbox.eraseIdx position})
  | .release index id => state.instances[index]?.bind (fun own => (own.releases.get? id).bind (fun timer =>
    if timer.due ≤ state.now then some (state.setInstance index (own.release id timer.tenantId)) else none))
  | .schedule index event => state.instances[index]?.map (fun own =>
    state.setInstance index (own.setScheduler (own.scheduler.scheduleEvent toISOString event state.now)))
  | .fire index id => state.instances[index]?.bind (fun own =>
    (EventScheduler.step toISOString own.scheduler (.fire id state.now)).map (fun scheduler =>
      state.setInstance index (own.setScheduler scheduler)))

/-- The tenants of an instance whose unsubscription it handles in the step. -/
def handles (state : State) (index : Nat) : Action → Option String
  | .unsubscribe caller tenantId => if !redisEnabled && caller == index then some tenantId else none
  | .deliver caller position =>
    if caller = index then state.instances[index]?.bind (fun own => own.inbox[position]?) else none
  | _ => none

/-- What a step does to one instance. -/
inductive Changed (state : State) (index : Nat) (own : Instance) (action : Action) : Instance → Prop
  | inbox (messages : List String) : Changed state index own action {own with inbox := messages}
  | handled (tenantId : String) (messages : List String)
      (known : handles redisEnabled state index action = some tenantId) :
      Changed state index own action
        (Instance.executeUnsubscribeHandlers {own with inbox := messages} tenantId state.now)
  | released (id : Nat) (timer : Release) (known : action = .release index id)
      (found : own.releases.get? id = some timer) (due : timer.due ≤ state.now) :
      Changed state index own action (own.release id timer.tenantId)
  | scheduled (event : Event) (known : action = .schedule index event) :
      Changed state index own action (own.setScheduler (own.scheduler.scheduleEvent toISOString event state.now))
  | fired (id : Nat) (task : EventScheduler.Task) (found : own.scheduler.timers.get? id = some task)
      (due : task.due ≤ state.now) :
      Changed state index own action (own.setScheduler (own.scheduler.fire toISOString id state.now task.event))

/-- A step keeps the instances, and changes each in one of these ways; time does not go back. -/
theorem step_changed {state next : State} {action : Action} (taken : step redisEnabled toISOString state action = some next) :
    state.now ≤ next.now ∧ ∀ index later, next.instances[index]? = some later →
      ∃ own, state.instances[index]? = some own ∧ Changed redisEnabled toISOString state index own action later := by
  have moved {caller : Nat} {own changed : Instance} (found : state.instances[caller]? = some own)
      (change : Changed redisEnabled toISOString state caller own action changed) :
      ∀ index later, (state.setInstance caller changed).instances[index]? = some later →
        ∃ own, state.instances[index]? = some own ∧ Changed redisEnabled toISOString state index own action later := by
    intro index later at_
    obtain ⟨rfl,rfl⟩ | ⟨_,old⟩ := Parties.getElem?_moved found at_
    · exact ⟨own,found,change⟩
    · exact ⟨later,old,.inbox later.inbox⟩
  cases action with
  | wait time =>
    cases taken
    exact ⟨Nat.le_add_right _ _,fun index later at_ => ⟨later,at_,.inbox later.inbox⟩⟩
  | unsubscribe caller tenantId =>
    simp only [step] at taken
    split at taken
    · cases taken
      refine ⟨Nat.le_refl _,fun index later at_ => ?_⟩
      rw [List.getElem?_map] at at_
      obtain ⟨own,found,rfl⟩ := Option.map_eq_some_iff.mp at_
      exact ⟨own,found,.inbox _⟩
    · rename_i local_
      obtain ⟨own,found,rfl⟩ := Option.map_eq_some_iff.mp taken
      exact ⟨Nat.le_refl _,moved found (.handled tenantId own.inbox (by simp [handles,local_]))⟩
  | deliver caller position =>
    obtain ⟨own,found,taken⟩ := Option.bind_eq_some_iff.mp taken
    obtain ⟨tenantId,message,rfl⟩ := Option.map_eq_some_iff.mp taken
    exact ⟨Nat.le_refl _,moved found (.handled tenantId _ (by simp [handles,found,message]))⟩
  | lose caller position =>
    obtain ⟨own,found,rfl⟩ := Option.map_eq_some_iff.mp taken
    exact ⟨Nat.le_refl _,moved found (.inbox _)⟩
  | release caller id =>
    obtain ⟨own,found,taken⟩ := Option.bind_eq_some_iff.mp taken
    obtain ⟨timer,pending,taken⟩ := Option.bind_eq_some_iff.mp taken
    split at taken
    · rename_i due
      cases taken
      exact ⟨Nat.le_refl _,moved found (.released id timer rfl pending due)⟩
    · cases taken
  | schedule caller event =>
    obtain ⟨own,found,rfl⟩ := Option.map_eq_some_iff.mp taken
    exact ⟨Nat.le_refl _,moved found (.scheduled event rfl)⟩
  | fire caller id =>
    obtain ⟨own,found,taken⟩ := Option.bind_eq_some_iff.mp taken
    obtain ⟨scheduler,fired,rfl⟩ := Option.map_eq_some_iff.mp taken
    obtain ⟨task,pending,fired⟩ := Option.bind_eq_some_iff.mp fired
    split at fired
    · rename_i due
      cases fired
      exact ⟨Nat.le_refl _,moved found (.fired id task pending due)⟩
    · cases fired

/-- A tenant is blocked only as long as a timer is pending that ends this; the timers of a tenant in the scheduler are
listed for it. -/
structure Sound (now : Nat) (own : Instance) : Prop where
  ends : ∀ tenantId, own.isTenantUnsubscribed tenantId = true → ∃ id timer, own.releases.get? id = some timer ∧
    timer.tenantId = tenantId
  due : ∀ id timer, own.releases.get? id = some timer → timer.due ≤ now + DELETE_TENANT_BLOCK_AFTER_MS
  listed : ∀ id task, own.scheduler.timers.get? id = some task → id ∈ own.scheduler.timeoutsOf task.event.tenantId

theorem Sound.later {now time : Nat} {own : Instance} (sound : Sound now own) (later : now ≤ time) : Sound time own :=
  ⟨sound.ends,fun id timer found => (sound.due id timer found).trans (Nat.add_le_add_right later _),sound.listed⟩

theorem unsubscribed_handled (own : Instance) (tenantId other : String) (now : Nat) :
    (own.executeUnsubscribeHandlers tenantId now).isTenantUnsubscribed other = true ↔
      other = tenantId ∨ own.isTenantUnsubscribed other = true := by
  simp only [Instance.isTenantUnsubscribed,Instance.executeUnsubscribeHandlers,Dict.get?_set]
  split
  · rename_i same
    simp [same]
  · rename_i differs
    simp [differs]

theorem unsubscribed_released (own : Instance) (id : Nat) (tenantId other : String) :
    (own.release id tenantId).isTenantUnsubscribed other = true ↔
      other ≠ tenantId ∧ own.isTenantUnsubscribed other = true := by
  simp only [Instance.isTenantUnsubscribed,Instance.release,Dict.get?_filter]
  cases own.unsubscribedTenants.get? other with
  | none => simp
  | some value => by_cases same : other = tenantId <;> simp [same,Option.filter]

theorem listed_scheduleEvent {scheduler : EventScheduler.State}
    (listed : ∀ id task, scheduler.timers.get? id = some task → id ∈ scheduler.timeoutsOf task.event.tenantId)
    (event : Event) (now : Int) : ∀ id task,
      (scheduler.scheduleEvent toISOString event now).timers.get? id = some task →
        id ∈ (scheduler.scheduleEvent toISOString event now).timeoutsOf task.event.tenantId := by
  intro id task found
  cases new : scheduler.isScheduled toISOString event with
  | true =>
    rw [EventScheduler.State.scheduleEvent,new] at found ⊢
    exact listed id task found
  | false =>
    obtain ⟨_,timers,timeouts,_⟩ := EventScheduler.scheduleEvent_new now new
    rw [timers] at found
    rw [timeouts]
    obtain ⟨rfl,rfl⟩ | old := Timers.set_cases found
    · simp
    · have before := listed id task old
      split
      · rename_i same
        rw [same] at before
        exact List.mem_append_left _ before
      · exact before

theorem listed_fire {scheduler : EventScheduler.State}
    (listed : ∀ id task, scheduler.timers.get? id = some task → id ∈ scheduler.timeoutsOf task.event.tenantId)
    (fired : Nat) (event : Event) (now : Int) : ∀ id task,
      (scheduler.fire toISOString fired now event).timers.get? id = some task →
        id ∈ (scheduler.fire toISOString fired now event).timeoutsOf task.event.tenantId := by
  intro id task found
  have timeouts (tenantId : String) : (scheduler.fire toISOString fired now event).timeoutsOf tenantId =
      if tenantId = event.tenantId then (scheduler.timeoutsOf event.tenantId).filter (· ≠ fired)
      else scheduler.timeoutsOf tenantId := EventScheduler.timeoutsOf_set _ _ _ tenantId
  obtain ⟨differs,before⟩ := Timers.clear_cases found
  have own := listed id task before
  rw [timeouts]
  split
  · rename_i same
    rw [same] at own
    exact List.mem_filter.mpr ⟨own,by simpa using differs⟩
  · exact own

theorem Sound.changed {state : State} {index : Nat} {own later : Instance} {action : Action}
    (sound : Sound state.now own) (change : Changed redisEnabled toISOString state index own action later) :
    Sound state.now later := by
  cases change with
  | inbox messages => exact ⟨sound.ends,sound.due,sound.listed⟩
  | handled tenantId messages known =>
    refine ⟨fun other blocked => ?_,fun id timer found => ?_,fun id task found => ?_⟩
    · obtain same | before := (unsubscribed_handled _ _ _ _).mp blocked
      · exact ⟨own.releases.created,_,by
          rw [Instance.executeUnsubscribeHandlers,Timers.get?_set,if_pos rfl],same.symm⟩
      · obtain ⟨id,timer,found,tenant⟩ := sound.ends other before
        refine ⟨id,timer,?_,tenant⟩
        rw [Instance.executeUnsubscribeHandlers,Timers.get?_set,if_neg (ne_of_lt (Timers.get?_lt found)),found]
    · obtain ⟨_,rfl⟩ | old := Timers.set_cases found
      · exact Nat.le_refl _
      · exact sound.due id timer old
    · have cleared : (own.scheduler.clearForTenant tenantId).timers.get? id = some task := found
      rw [EventScheduler.get?_clearForTenant] at cleared
      split at cleared
      · cases cleared
      · exact sound.listed id task cleared
  | released id timer known found due =>
    refine ⟨fun other blocked => ?_,fun id timer pending => ?_,sound.listed⟩
    · obtain ⟨differs,before⟩ := (unsubscribed_released _ _ _ _).mp blocked
      obtain ⟨pending,current,at_,tenant⟩ := sound.ends other before
      refine ⟨pending,current,?_,tenant⟩
      rw [Instance.release,Timers.get?_clear,if_neg,at_]
      rintro rfl
      rw [found] at at_
      cases at_
      exact differs tenant.symm
    · exact sound.due id timer (Timers.clear_cases pending).2
  | scheduled event known =>
    exact ⟨sound.ends,sound.due,listed_scheduleEvent toISOString sound.listed event _⟩
  | fired id task found due => exact ⟨sound.ends,sound.due,listed_fire toISOString sound.listed id task.event _⟩

/-- For five minutes after every unsubscription that was handled, the tenant is blocked. -/
def InTime (now : Nat) (own : Instance) : Prop :=
  ∀ entry ∈ own.handled, now < entry.2 + DELETE_TENANT_BLOCK_AFTER_MS → own.isTenantUnsubscribed entry.1 = true

/-- No timer fires while a later unsubscription of its tenant is younger than five minutes. -/
def KeepsBlock (state : State) : Action → Prop
  | .release index id => ∀ own, state.instances[index]? = some own → ∀ timer, own.releases.get? id = some timer →
      timer.due ≤ state.now → ∀ entry ∈ own.handled, entry.1 = timer.tenantId →
        entry.2 + DELETE_TENANT_BLOCK_AFTER_MS ≤ state.now
  | _ => True

theorem InTime.changed {state : State} {index : Nat} {own later : Instance} {action : Action}
    (inTime : InTime state.now own) (found : state.instances[index]? = some own) (keeps : KeepsBlock state action)
    (change : Changed redisEnabled toISOString state index own action later) : InTime state.now later := by
  intro entry member young
  cases change with
  | inbox messages => exact inTime entry member young
  | handled tenantId messages known =>
    refine (unsubscribed_handled _ _ _ _).mpr ?_
    obtain before | last := List.mem_append.mp member
    · exact Or.inr (inTime entry before young)
    · rw [List.mem_singleton.mp last]
      exact Or.inl rfl
  | released id timer known pending due =>
    subst known
    refine (unsubscribed_released _ _ _ _).mpr ⟨fun same => ?_,inTime entry member young⟩
    have old := keeps own found timer pending due entry member same
    omega
  | scheduled event known => exact inTime entry member young
  | fired id task pending due => exact inTime entry member young

theorem InTime.later {now time : Nat} {own : Instance} (inTime : InTime now own) (later : now ≤ time) : InTime time own :=
  fun entry member young => inTime entry member (by omega)

theorem keepsBlock_needed {state next : State} {action : Action}
    (taken : step redisEnabled toISOString state action = some next)
    (good : ∀ own ∈ next.instances, InTime next.now own) : KeepsBlock state action := by
  cases action with
  | release index id =>
    intro own found timer pending due entry member same
    obtain ⟨caller,at_,taken⟩ := Option.bind_eq_some_iff.mp taken
    rw [found] at at_
    cases at_
    rw [pending,Option.bind_some,if_pos due] at taken
    cases taken
    by_contra young
    have small := (List.getElem?_eq_some_iff.mp found).1
    have still := good (own.release id timer.tenantId) (List.mem_set small _) entry member (by
      have clock : (state.setInstance index (own.release id timer.tenantId)).now = state.now := rfl
      omega)
    exact ((unsubscribed_released _ _ _ _).mp still).1 same
  | wait _ | unsubscribe _ _ | deliver _ _ | lose _ _ | schedule _ _ | fire _ _ => trivial

theorem keepsBlock_refused {state : State} {action : Action}
    (refused : step redisEnabled toISOString state action = none) : KeepsBlock state action := by
  cases action with
  | release index id =>
    intro own found timer pending due
    rw [step,found,Option.bind_some,pending,Option.bind_some,if_pos due] at refused
    cases refused
  | wait _ | unsubscribe _ _ | deliver _ _ | lose _ _ | schedule _ _ | fire _ _ => trivial

theorem sound_initial (count : Nat) : ∀ own ∈ (State.initial count).instances, Sound 0 own ∧ InTime 0 own := by
  intro own member
  rw [(List.mem_replicate.mp member).2]
  refine ⟨⟨?_,?_,?_⟩,?_⟩
  all_goals simp [Instance.created,Instance.isTenantUnsubscribed,EventScheduler.State.initial,InTime]

theorem sound_step {state next : State} {action : Action} (sound : ∀ own ∈ state.instances, Sound state.now own)
    (taken : step redisEnabled toISOString state action = some next) : ∀ own ∈ next.instances, Sound next.now own := by
  intro later member
  obtain ⟨index,at_⟩ := List.mem_iff_getElem?.mp member
  obtain ⟨clock,changes⟩ := step_changed redisEnabled toISOString taken
  obtain ⟨own,found,change⟩ := changes index later at_
  exact ((sound own (List.mem_of_getElem? found)).changed redisEnabled toISOString change).later clock

theorem inTime_step {state next : State} {action : Action} (inTime : ∀ own ∈ state.instances, InTime state.now own)
    (keeps : KeepsBlock state action) (taken : step redisEnabled toISOString state action = some next) :
    ∀ own ∈ next.instances, InTime next.now own := by
  intro later member
  obtain ⟨index,at_⟩ := List.mem_iff_getElem?.mp member
  obtain ⟨clock,changes⟩ := step_changed redisEnabled toISOString taken
  obtain ⟨own,found,change⟩ := changes index later at_
  exact (InTime.changed redisEnabled toISOString (inTime own (List.mem_of_getElem? found)) found keeps change).later clock

theorem sound_reached {count : Nat} {actions : List Action} {final : State}
    (reached : Transition.run (step redisEnabled toISOString) (State.initial count) actions = some final) :
    ∀ own ∈ final.instances, Sound final.now own :=
  Transition.invariant (step redisEnabled toISOString) (fun _ _ => True)
    (fun state => ∀ own ∈ state.instances, Sound state.now own)
    (fun _ _ _ sound _ taken => sound_step redisEnabled toISOString sound taken) _ _ _
    (fun own member => (sound_initial count own member).1) (Transition.along_true _ _ _) reached

end

/-- A blocked tenant always has a timer that is to end this within five minutes; every unsubscription blocks its tenant
for five minutes in every instance that handles it, exactly if no timer of an earlier one fires in between. -/
theorem unsubscription_blocks_iff (redisEnabled : Bool) (toISOString : Int → String) (count : Nat)
    (actions : List Action) :
    (∀ first final, first <+: actions →
      Transition.run (step redisEnabled toISOString) (State.initial count) first = some final →
        ∀ own ∈ final.instances, ∀ tenantId, own.isTenantUnsubscribed tenantId = true →
          ∃ id timer, own.releases.get? id = some timer ∧ timer.tenantId = tenantId ∧
            timer.due ≤ final.now + DELETE_TENANT_BLOCK_AFTER_MS) ∧
    ((∀ first final, first <+: actions →
      Transition.run (step redisEnabled toISOString) (State.initial count) first = some final →
        ∀ own ∈ final.instances, InTime final.now own) ↔
      Transition.Along (step redisEnabled toISOString) KeepsBlock (State.initial count) actions) := by
  constructor
  · intro first final _ reached own member tenantId blocked
    have sound := sound_reached redisEnabled toISOString reached own member
    obtain ⟨id,timer,found,tenant⟩ := sound.ends tenantId blocked
    exact ⟨id,timer,found,tenant,sound.due id timer found⟩
  · exact Transition.always_iff_along (step redisEnabled toISOString) KeepsBlock
      (fun state => ∀ own ∈ state.instances, InTime state.now own) (fun state => ∀ own ∈ state.instances,
        InTime state.now own) (fun _ good => good)
      (fun _ _ refused => keepsBlock_refused redisEnabled toISOString refused)
      (fun _ _ _ _ taken good => keepsBlock_needed redisEnabled toISOString taken good)
      (fun _ _ _ good keeps taken => inTime_step redisEnabled toISOString good keeps taken) _ _
      (fun own member => (sound_initial count own member).2)

/-- A second unsubscription after 100 seconds: the timer of the first one ends the block of the second one, which is
200 seconds old. -/
example : (Transition.run (step false Selection.toISOString) (State.initial 1) [.unsubscribe 0 "t1",.wait 100000,
    .unsubscribe 0 "t1",.wait 200000,.release 0 0]).map (fun final => final.instances.map (fun own =>
      (own.isTenantUnsubscribed "t1",own.handled))) = some [(false,[("t1",0),("t1",100000)])] := by
  decide +kernel

section
variable {redisEnabled : Bool} {toISOString : Int → String}

/-- The scheduler has no timer for the tenant. -/
def Quiet (tenantId : String) (own : Instance) : Prop :=
  ∀ id task, own.scheduler.timers.get? id = some task → task.event.tenantId ≠ tenantId

def broadcastsOf (tenantId : String) (own : Instance) : List (Event × Int) :=
  own.scheduler.broadcasts.filter (fun broadcast => broadcast.1.tenantId = tenantId)

theorem handles_taken {state next : State} {index : Nat} {action : Action} {tenantId : String} {own : Instance}
    (handled : handles redisEnabled state index action = some tenantId) (found : state.instances[index]? = some own)
    (taken : step redisEnabled toISOString state action = some next) : ∃ messages,
      next.instances[index]? =
        some (Instance.executeUnsubscribeHandlers {own with inbox := messages} tenantId state.now) := by
  have small := (List.getElem?_eq_some_iff.mp found).1
  cases action with
  | unsubscribe caller tenant =>
    simp only [handles,Bool.and_eq_true,Bool.not_eq_true',beq_iff_eq] at handled
    split at handled
    · rename_i here
      obtain ⟨off,rfl⟩ := here
      cases handled
      simp only [step,off,Bool.false_eq_true,if_false,found,Option.map_some,Option.some.injEq] at taken
      subst taken
      exact ⟨own.inbox,by simp [State.setInstance,small]⟩
    · cases handled
  | deliver caller position =>
    simp only [handles] at handled
    split at handled
    · rename_i same
      subst same
      rw [found,Option.bind_some] at handled
      simp only [step,found,handled,Option.bind_some,Option.map_some,Option.some.injEq] at taken
      subst taken
      exact ⟨own.inbox.eraseIdx position,by simp [State.setInstance,small]⟩
    · cases handled
  | wait _ | lose _ _ | release _ _ | schedule _ _ | fire _ _ => cases handled

theorem quiet_handled {now : Nat} {own : Instance} (sound : Sound now own) (messages : List String) (tenantId : String) :
    Quiet tenantId (Instance.executeUnsubscribeHandlers {own with inbox := messages} tenantId now) := by
  intro id task found same
  have cleared : (own.scheduler.clearForTenant tenantId).timers.get? id = some task := found
  rw [EventScheduler.get?_clearForTenant] at cleared
  split at cleared
  · cases cleared
  · rename_i unlisted
    exact unlisted (same ▸ sound.listed id task cleared)

theorem Quiet.changed {state : State} {index : Nat} {own later : Instance} {action : Action} {tenantId : String}
    (quiet : Quiet tenantId own) (change : Changed redisEnabled toISOString state index own action later)
    (unscheduled : ∀ event : Event, event.tenantId = tenantId → action ≠ .schedule index event) :
    Quiet tenantId later ∧ broadcastsOf tenantId later = broadcastsOf tenantId own := by
  cases change with
  | inbox messages => exact ⟨quiet,rfl⟩
  | handled other messages known =>
    refine ⟨fun id task found => ?_,rfl⟩
    have cleared : (own.scheduler.clearForTenant other).timers.get? id = some task := found
    rw [EventScheduler.get?_clearForTenant] at cleared
    split at cleared
    · cases cleared
    · exact quiet id task cleared
  | released id timer known found due => exact ⟨quiet,rfl⟩
  | scheduled event known =>
    have other : event.tenantId ≠ tenantId := fun same => unscheduled event same known
    cases new : own.scheduler.isScheduled toISOString event with
    | true =>
      rw [EventScheduler.State.scheduleEvent,new]
      exact ⟨quiet,rfl⟩
    | false =>
      obtain ⟨_,timers,_,broadcasts⟩ := EventScheduler.scheduleEvent_new (state.now : Int) new
      refine ⟨fun id task found => ?_,by rw [broadcastsOf,Instance.setScheduler,broadcasts]; rfl⟩
      simp only [Instance.setScheduler,timers] at found
      obtain ⟨_,rfl⟩ | old := Timers.set_cases found
      · exact other
      · exact quiet id task old
  | fired id task found due =>
    refine ⟨fun pending current at_ => quiet pending current (Timers.clear_cases at_).2,?_⟩
    simp [broadcastsOf,Instance.setScheduler,EventScheduler.State.fire,quiet id task found]

end

/-- Once an instance has handled the unsubscription of a tenant, its scheduler broadcasts nothing for the tenant that
was scheduled before. -/
theorem quiet_after_unsubscription (redisEnabled : Bool) (toISOString : Int → String) (count : Nat)
    (actions rest : List Action) (middle next final : State) (action : Action) (index : Nat) (tenantId : String)
    (reached : Transition.run (step redisEnabled toISOString) (State.initial count) actions = some middle)
    (handled : handles redisEnabled middle index action = some tenantId)
    (taken : step redisEnabled toISOString middle action = some next)
    (later : Transition.run (step redisEnabled toISOString) next rest = some final)
    (unscheduled : ∀ event : Event, event.tenantId = tenantId → Action.schedule index event ∉ rest) (own last : Instance)
    (before : middle.instances[index]? = some own) (after : final.instances[index]? = some last) :
    broadcastsOf tenantId last = broadcastsOf tenantId own := by
  have sound := sound_reached redisEnabled toISOString reached own (List.mem_of_getElem? before)
  obtain ⟨messages,there⟩ := handles_taken handled before taken
  have kept := Transition.invariant (step redisEnabled toISOString)
    (fun _ action => ∀ event : Event, event.tenantId = tenantId → action ≠ .schedule index event)
    (fun state => ∀ current, state.instances[index]? = some current →
      Quiet tenantId current ∧ broadcastsOf tenantId current = broadcastsOf tenantId own)
    (by
      intro state action following current guard moved changed at_
      obtain ⟨old,found,change⟩ := (step_changed redisEnabled toISOString moved).2 index changed at_
      obtain ⟨quiet,same⟩ := current old found
      obtain ⟨still,equal⟩ := Quiet.changed quiet change guard
      exact ⟨still,equal.trans same⟩)
    next final rest
    (by
      intro current at_
      rw [there] at at_
      cases at_
      exact ⟨quiet_handled sound messages tenantId,rfl⟩)
    (Transition.along_of_forall _ _ _ _ (fun action member event same equal => unscheduled event same (equal ▸ member)))
    later
  exact (kept last after).2

/-- The tenant has an event scheduled in two instances, one of which has not handled the unsubscription yet. -/
def offboarding : List Action :=
  [.schedule 0 EventScheduler.delayedMail,.schedule 1 EventScheduler.delayedMail,.unsubscribe 0 "t1"]

theorem quiet_after_unsubscription_two_instances :
    ∃ middle next final own last, Transition.run (step true Selection.toISOString) (State.initial 2) offboarding =
        some middle ∧
      step true Selection.toISOString middle (.deliver 0 0) = some next ∧
      Transition.run (step true Selection.toISOString) next [.wait 600000,.fire 1 0] = some final ∧
      middle.instances[0]? = some own ∧ final.instances[0]? = some last ∧
      final.instances.map (fun current => (broadcastsOf "t1" current).length) = [0,1] ∧
      broadcastsOf "t1" last = broadcastsOf "t1" own := by
  have computed : (Transition.run (step true Selection.toISOString) (State.initial 2) offboarding).any (fun middle =>
      handles true middle 0 (.deliver 0 0) == some "t1" && middle.instances[0]?.isSome &&
        (step true Selection.toISOString middle (.deliver 0 0)).any (fun next =>
          (Transition.run (step true Selection.toISOString) next [.wait 600000,.fire 1 0]).any (fun final =>
            final.instances[0]?.isSome &&
              final.instances.map (fun current => (broadcastsOf "t1" current).length) == [0,1]))) = true := by
    decide +kernel
  obtain ⟨middle,reached,computed⟩ := (Option.any_eq_true _ _).mp computed
  simp only [Bool.and_eq_true,beq_iff_eq] at computed
  obtain ⟨⟨handled,present⟩,computed⟩ := computed
  obtain ⟨next,taken,computed⟩ := (Option.any_eq_true _ _).mp computed
  obtain ⟨final,later,computed⟩ := (Option.any_eq_true _ _).mp computed
  simp only [Bool.and_eq_true,beq_iff_eq] at computed
  obtain ⟨own,before⟩ := Option.isSome_iff_exists.mp present
  obtain ⟨last,after⟩ := Option.isSome_iff_exists.mp computed.1
  exact ⟨middle,next,final,own,last,reached,taken,later,before,after,computed.2,
    quiet_after_unsubscription true Selection.toISOString 2 offboarding [.wait 600000,.fire 1 0] middle next final
      (.deliver 0 0) 0 "t1" reached handled taken later (by simp) own last before after⟩

end EventQueue.Unsubscribe

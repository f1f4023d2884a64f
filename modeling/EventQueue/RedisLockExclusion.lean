import EventQueue.DistributedLock
import EventQueue.Lib.Transition
import Mathlib.Tactic

/-! One lock key under the single Redis commands of `acquireLock`, `renewLock` and
`releaseLock`, issued by any number of processors in any order. The stored value
names no owner, so exclusion depends on who writes when. -/
namespace EventQueue.RedisLockExclusion
open ExpiringStore DistributedLock

/-- A renewal between two of its commands: after the failed `SET XX`, or after a
`GET` that found nothing. -/
inductive RenewPhase
  | beforeGet
  | beforeSet
  deriving DecidableEq

structure Renewal where
  processor : Nat
  expiryTime : Nat
  phase : RenewPhase
  deriving DecidableEq

structure State where
  now : Nat
  store : Redis
  renewals : List Renewal
  /-- Until when a processor's last successful acquire or renew reaches; reset by its release. -/
  held : Nat → Option Nat

def initial : State := ⟨0,fun _ => none,[],fun _ => none⟩

inductive Action
  | acquireSetNX (processor expiryTime : Nat)
  | renewSetXX (processor expiryTime : Nat)
  | renewGet (index : Nat)
  | renewSet (index : Nat)
  | releaseDel (processor : Nat)
  | expire
  | pass (duration : Nat)

def State.grant (state : State) (store : Redis) (processor expiryTime : Nat) : State :=
  {state with
    store := store
    held := Function.update state.held processor (some (state.now + expiryTime))}

def step (fullKey : String) (state : State) : Action → Option State
  | .acquireSetNX processor expiryTime =>
    let (result,store) := acquireLockRedis state.store state.now fullKey expiryTime (toString state.now) false
    some (if result then state.grant store processor expiryTime else state)
  | .renewSetXX processor expiryTime =>
    let (result,store) := setXX state.store fullKey ⟨"true",state.now + expiryTime⟩
    some (if result then state.grant store processor expiryTime
      else {state with renewals := state.renewals ++ [⟨processor,expiryTime,.beforeGet⟩]})
  | .renewGet index =>
    match state.renewals[index]? with
    | some ⟨processor,expiryTime,.beforeGet⟩ =>
      some {state with renewals :=
        if (state.store fullKey).isSome then state.renewals.eraseIdx index
        else state.renewals.set index ⟨processor,expiryTime,.beforeSet⟩}
    | _ => none
  | .renewSet index =>
    match state.renewals[index]? with
    | some ⟨processor,expiryTime,.beforeSet⟩ =>
      some ({state with renewals := state.renewals.eraseIdx index}.grant
        (set state.store fullKey ⟨"true",state.now + expiryTime⟩) processor expiryTime)
    | _ => none
  | .releaseDel processor =>
    some {state with
      store := (releaseLockRedis state.store fullKey).2
      held := Function.update state.held processor none}
  | .expire => some {state with store := expire state.store state.now fullKey}
  | .pass duration => some {state with now := state.now + duration}

def Holds (state : State) (processor : Nat) : Prop :=
  ∃ deadline, state.held processor = some deadline ∧ state.now < deadline

def MutualExclusion (state : State) : Prop :=
  ∀ first second, Holds state first → Holds state second → first = second

/-- The writer still holds the lock, or nobody does. -/
def Entitled (state : State) (processor : Nat) : Prop :=
  Holds state processor ∨ ∀ other, ¬ Holds state other

/-- A renewal's writes and a release that find the key are issued by an entitled processor. -/
def Timely (fullKey : String) (state : State) : Action → Prop
  | .renewSetXX processor _ => (state.store fullKey).isSome → Entitled state processor
  | .renewSet index => ∀ renewal, state.renewals[index]? = some renewal → Entitled state renewal.processor
  | .releaseDel processor => (state.store fullKey).isSome → Entitled state processor
  | _ => True

/-- Holders exclude each other and are covered by the stored key. -/
structure Safe (fullKey : String) (state : State) : Prop where
  exclusive : MutualExclusion state
  covered : ∀ processor deadline, state.held processor = some deadline → state.now < deadline →
    ∃ item, state.store fullKey = some item ∧ deadline ≤ item.deadline

theorem Entitled.alone {state : State} {processor : Nat} (entitled : Entitled state processor)
    (exclusive : MutualExclusion state) (other : Nat) (holds : Holds state other) : other = processor := by
  rcases entitled with own | nobody
  · exact exclusive other processor holds own
  · exact absurd holds (nobody other)

theorem grant_safe (fullKey value : String) (state : State) (processor expiryTime : Nat)
    (alone : ∀ other, Holds state other → other = processor) :
    Safe fullKey (state.grant (set state.store fullKey ⟨value,state.now + expiryTime⟩) processor expiryTime) := by
  have others (other deadline : Nat) (distinct : other ≠ processor)
      (held : (state.grant (set state.store fullKey ⟨value,state.now + expiryTime⟩) processor expiryTime).held other =
        some deadline) (future : state.now < deadline) : False := by
    apply distinct
    apply alone other
    refine ⟨deadline,?_,future⟩
    simpa [State.grant,distinct] using held
  constructor
  · intro first second firstHolds secondHolds
    obtain ⟨firstDeadline,firstHeld,firstFuture⟩ := firstHolds
    obtain ⟨secondDeadline,secondHeld,secondFuture⟩ := secondHolds
    have left : first = processor := by
      by_contra distinct
      exact others first firstDeadline distinct firstHeld firstFuture
    have right : second = processor := by
      by_contra distinct
      exact others second secondDeadline distinct secondHeld secondFuture
    rw [left,right]
  · intro other deadline held future
    by_cases same : other = processor
    · subst same
      have reach : state.now + expiryTime = deadline := by simpa [State.grant] using held
      exact ⟨⟨value,state.now + expiryTime⟩,by simp [State.grant],by simp [reach]⟩
    · exact (others other deadline same held future).elim

theorem renewals_safe (fullKey : String) (state : State) (renewals : List Renewal)
    (safe : Safe fullKey state) : Safe fullKey {state with renewals := renewals} :=
  ⟨safe.exclusive,safe.covered⟩

theorem absent_free (fullKey : String) (state : State) (safe : Safe fullKey state)
    (absent : state.store fullKey = none) (processor : Nat) : ¬ Holds state processor := by
  intro holds
  obtain ⟨deadline,held,future⟩ := holds
  obtain ⟨item,present,_⟩ := safe.covered processor deadline held future
  simp [absent] at present

theorem step_safe (fullKey : String) (state next : State) (action : Action) (safe : Safe fullKey state)
    (timely : Timely fullKey state action) (taken : step fullKey state action = some next) :
    Safe fullKey next := by
  cases action with
  | acquireSetNX processor expiryTime =>
    cases present : state.store fullKey with
    | some item =>
      simp only [step,acquireLockRedis,setNX,present,Bool.false_eq_true,if_false,Option.some.injEq] at taken
      exact taken ▸ safe
    | none =>
      simp only [step,acquireLockRedis,setNX,present,Bool.false_eq_true,if_false,if_true,Option.some.injEq] at taken
      subst taken
      exact grant_safe fullKey _ state processor expiryTime
        (fun other holds => absurd holds (absent_free fullKey state safe present other))
  | renewSetXX processor expiryTime =>
    cases present : state.store fullKey with
    | some item =>
      simp only [step,setXX,present,if_true,Option.some.injEq] at taken
      subst taken
      have entitled : Entitled state processor := timely (by simp [present])
      exact grant_safe fullKey _ state processor expiryTime (entitled.alone safe.exclusive)
    | none =>
      simp only [step,setXX,present,Bool.false_eq_true,if_false,Option.some.injEq] at taken
      exact taken ▸ renewals_safe fullKey state _ safe
  | renewGet index =>
    simp only [step] at taken
    split at taken
    · cases taken
      exact renewals_safe fullKey state _ safe
    · cases taken
  | renewSet index =>
    simp only [step] at taken
    split at taken
    · rename_i processor expiryTime found
      cases taken
      have entitled : Entitled state processor := timely _ found
      exact grant_safe fullKey _ _ processor expiryTime (entitled.alone safe.exclusive)
    · cases taken
  | releaseDel processor =>
    simp only [step,Option.some.injEq] at taken
    subst taken
    have free (other : Nat) : ¬ Holds ⟨state.now,(releaseLockRedis state.store fullKey).2,state.renewals,
        Function.update state.held processor none⟩ other := by
      intro holds
      obtain ⟨deadline,held,future⟩ := holds
      by_cases same : other = processor
      · simp [same] at held
      · have before : Holds state other := ⟨deadline,by simpa [same] using held,future⟩
        cases present : state.store fullKey with
        | none => exact absent_free fullKey state safe present other before
        | some item =>
          have entitled : Entitled state processor := timely (by simp [present])
          exact same (entitled.alone safe.exclusive other before)
    exact ⟨fun first _ holds => absurd holds (free first),
      fun other deadline held future => absurd ⟨deadline,held,future⟩ (free other)⟩
  | expire =>
    simp only [step,Option.some.injEq] at taken
    subst taken
    refine ⟨safe.exclusive,?_⟩
    intro processor deadline held future
    obtain ⟨item,present,reach⟩ := safe.covered processor deadline held future
    have kept : state.now < item.deadline := Nat.lt_of_lt_of_le future reach
    exact ⟨item,expire_keeps present kept,reach⟩
  | pass duration =>
    simp only [step,Option.some.injEq] at taken
    subst taken
    have before (processor : Nat) (holds : Holds {state with now := state.now + duration} processor) :
        Holds state processor := by
      obtain ⟨deadline,held,future⟩ := holds
      exact ⟨deadline,held,by simp only at future; omega⟩
    refine ⟨fun first second left right => safe.exclusive first second (before first left) (before second right),?_⟩
    intro processor deadline held future
    simp only at future
    exact safe.covered processor deadline held (by omega)

theorem initial_safe (fullKey : String) : Safe fullKey initial where
  exclusive := by
    intro first second holds
    obtain ⟨deadline,held,_⟩ := holds
    simp [initial] at held
  covered := by intro processor deadline held; simp [initial] at held

theorem redis_lock_exclusive (fullKey : String) (actions : List Action) (state : State)
    (timely : Transition.Along (step fullKey) (Timely fullKey) initial actions)
    (reached : Transition.run (step fullKey) initial actions = some state) : MutualExclusion state :=
  (Transition.invariant (step fullKey) (Timely fullKey) (Safe fullKey)
    (fun state action next safe guard taken => step_safe fullKey state next action safe guard taken)
    initial state actions (initial_safe fullKey) timely reached).exclusive

/-- The first processor renews in time, lets the lock lapse and releases it before
the next one acquires it. -/
def handover : List Action :=
  [.acquireSetNX 0 10,.pass 9,.renewSetXX 0 10,.pass 10,.expire,.renewSetXX 0 10,.releaseDel 0,
    .acquireSetNX 1 10,.renewGet 0]

theorem redis_lock_exclusive_handover :
    ∃ state, Transition.run (step "lock") initial handover = some state ∧ Holds state 1 ∧
      MutualExclusion state := by
  have entitled : Entitled ⟨9,ExpiringStore.set (fun _ => none) "lock" ⟨"0",10⟩,[],
      Function.update (fun _ => none) 0 (some 10)⟩ 0 := .inl ⟨10,by simp,by decide⟩
  have timely : Transition.Along (step "lock") (Timely "lock") initial handover := by
    refine ⟨trivial,?_⟩
    rintro _ ⟨⟩
    refine ⟨trivial,?_⟩
    rintro _ ⟨⟩
    refine ⟨fun _ => entitled,?_⟩
    rintro _ ⟨⟩
    refine ⟨trivial,?_⟩
    rintro _ ⟨⟩
    refine ⟨trivial,?_⟩
    rintro _ ⟨⟩
    refine ⟨fun present => absurd present (by decide),?_⟩
    rintro _ ⟨⟩
    refine ⟨fun present => absurd present (by decide),?_⟩
    rintro _ ⟨⟩
    refine ⟨trivial,?_⟩
    rintro _ ⟨⟩
    refine ⟨trivial,?_⟩
    rintro _ ⟨⟩
    trivial
  exact ⟨_,rfl,⟨29,rfl,by decide⟩,redis_lock_exclusive "lock" handover _ timely rfl⟩

/-- A processor that lost the lock by expiry deletes the key of its new holder. -/
def lateRelease : List Action :=
  [.acquireSetNX 0 10,.pass 10,.expire,.acquireSetNX 1 10,.releaseDel 0,.acquireSetNX 2 10]

theorem redis_lock_late_release :
    ¬ ∀ actions state, Transition.run (step "lock") initial actions = some state → MutualExclusion state := by
  intro exclusive
  have same := exclusive lateRelease _ rfl 1 2 ⟨20,rfl,by decide⟩ ⟨20,rfl,by decide⟩
  cases same

end EventQueue.RedisLockExclusion

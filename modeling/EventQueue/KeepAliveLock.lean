import EventQueue.DistributedLock
import EventQueue.Lib.Transition
import Mathlib.Tactic

/-! The processing lock of one event under `acquireDistributedLock`,
`#renewDistributedLock` and `handleReleaseLock` of any number of processors, on
either backend. Acquire and release build one key, renew builds another. -/
namespace EventQueue.KeepAliveLock
open ExpiringStore DistributedLock

inductive Kind
  | redis
  | db
  deriving DecidableEq

def kind : Backend → Kind
  | .redis _ => .redis
  | .db _ => .db

/-- The event all processors work on; only the instance's own namespace differs between them. -/
structure Setting where
  tenant : Option String
  namespaceOfEvent : String
  type : String
  subType : String
  namespaceOfInstance : Nat → String
  expiryTime : Nat

def Setting.naming (setting : Setting) (processor : Nat) : Naming :=
  ⟨setting.tenant,setting.namespaceOfEvent,setting.type,setting.subType,setting.namespaceOfInstance processor⟩

structure State where
  now : Nat
  backend : Backend
  /-- `__lockAcquired` of each processor. -/
  lockAcquired : Nat → Bool
  /-- Time of the processor's last successful acquire or renew. -/
  refreshed : Nat → Nat

inductive Call
  | acquireDistributedLock
  | renewDistributedLock
  | handleReleaseLock
  deriving DecidableEq

structure Action where
  time : Nat
  processor : Nat
  call : Call

def acquireDistributedLock (setting : Setting) (state : State) (processor time : Nat) : Bool × State :=
  let (acquired,backend) := acquireLock state.backend time (setting.naming processor).lockKey setting.expiryTime
  (acquired,⟨time,backend,
    if acquired then Function.update state.lockAcquired processor true else state.lockAcquired,
    if acquired then Function.update state.refreshed processor time else state.refreshed⟩)

def renewDistributedLock (setting : Setting) (state : State) (processor time : Nat) : Bool × State :=
  let (renewed,backend) := renewLock state.backend time (setting.naming processor).renewKey setting.expiryTime
  (renewed,⟨time,backend,state.lockAcquired,
    if renewed then Function.update state.refreshed processor time else state.refreshed⟩)

def handleReleaseLock (setting : Setting) (state : State) (processor time : Nat) : State :=
  if state.lockAcquired processor then
    {state with now := time,backend := (releaseLock state.backend time (setting.naming processor).lockKey).2}
  else {state with now := time}

def step (setting : Setting) (state : State) (action : Action) : Option State :=
  if action.time < state.now then none
  else some (match action.call with
    | .acquireDistributedLock => (acquireDistributedLock setting state action.processor action.time).2
    | .renewDistributedLock => (renewDistributedLock setting state action.processor action.time).2
    | .handleReleaseLock => handleReleaseLock setting state action.processor action.time)

/-- The holder renews once in every window and nobody deletes the key: the holder does not
release, and no other processor releases a lock it once acquired. -/
def Kept (setting : Setting) (holder : Nat) (state : State) (action : Action) : Prop :=
  action.time < state.refreshed holder + setting.expiryTime ∧
    ¬ (action.call = .handleReleaseLock ∧ (action.processor = holder ∨ state.lockAcquired action.processor = true))

/-- However long the holder keeps renewing, nobody else acquires the lock. -/
def Protected (setting : Setting) (backendKind : Kind) (holder : Nat) : Prop :=
  ∀ before acquired, kind before.backend = backendKind →
    ∀ time, before.now ≤ time → acquireDistributedLock setting before holder time = (true,acquired) →
    ∀ actions state, Transition.Along (step setting) (Kept setting holder) acquired actions →
      Transition.run (step setting) acquired actions = some state →
    ∀ other, other ≠ holder → ∀ later, state.now ≤ later →
      later < state.refreshed holder + setting.expiryTime →
      (acquireDistributedLock setting state other later).1 = false

/-- Renew hits the key of acquire: the instance has a namespace, and tenant and event
namespace read like the instance's namespace and the tenant. -/
def KeysAgree (naming : Naming) : Prop :=
  naming.namespaceOfInstance ≠ "" ∧
    naming.tenant.getD "" ++ "##" ++ naming.namespaceOfEvent =
      naming.namespaceOfInstance ++ "##" ++ naming.tenant.getD ""

theorem lockKey_eq (naming : Naming) :
    naming.lockKey = "EVENT_QUEUE##" ++ (naming.tenant.getD "" ++ "##" ++ naming.namespaceOfEvent) ++
      ("##" ++ naming.type ++ "##" ++ naming.subType) := by
  have prefixed : "EVENT_QUEUE##" = "EVENT_QUEUE" ++ "##" := rfl
  simp [Naming.lockKey,generateKey,redisNamespace,REDIS_PREFIX,String.append_assoc,prefixed]

theorem renewKey_eq (naming : Naming) :
    naming.renewKey = "EVENT_QUEUE##" ++ (if naming.namespaceOfInstance = "" then naming.tenant.getD ""
        else naming.namespaceOfInstance ++ "##" ++ naming.tenant.getD "") ++
      ("##" ++ naming.type ++ "##" ++ naming.subType) := by
  have prefixed : "EVENT_QUEUE##" = "EVENT_QUEUE" ++ "##" := rfl
  by_cases unset : naming.namespaceOfInstance = ""
  · simp [Naming.renewKey,generateKey,redisNamespace,REDIS_PREFIX,String.append_assoc,prefixed,unset]
  · simp [Naming.renewKey,generateKey,redisNamespace,REDIS_PREFIX,String.append_assoc,prefixed,unset]

theorem keys_agree_iff (naming : Naming) : naming.renewKey = naming.lockKey ↔ KeysAgree naming := by
  rw [lockKey_eq,renewKey_eq,String.append_left_inj,String.append_right_inj]
  unfold KeysAgree
  split
  · rename_i unset
    have longer : naming.tenant.getD "" ≠ naming.tenant.getD "" ++ "##" ++ naming.namespaceOfEvent := by
      intro same
      have sizes := congrArg String.length same
      simp only [String.length_append] at sizes
      have two : "##".length = 2 := rfl
      omega
    constructor
    · intro same
      exact absurd same longer
    · intro agree
      exact absurd unset agree.1
  · rename_i given
    exact ⟨fun same => ⟨given,same.symm⟩,fun agree => agree.2.symm⟩

theorem lockKey_shared (setting : Setting) (first second : Nat) :
    (setting.naming first).lockKey = (setting.naming second).lockKey := by
  simp only [lockKey_eq,Setting.naming]

def Taken (expiryTime : Nat) (key : String) (deadline : Nat) : Backend → Prop
  | .redis store => ∃ item, store key = some item ∧ deadline ≤ item.deadline
  | .db table => ∃ row, table key = some row ∧ deadline ≤ row.createdAt + expiryTime

theorem acquire_takes (backend next : Backend) (time expiryTime : Nat) (key : String)
    (acquired : acquireLock backend time key expiryTime = (true,next)) :
    Taken expiryTime key (time + expiryTime) next := by
  cases backend with
  | redis store =>
    simp only [acquireLock,acquireLockRedis,setNX,Bool.false_eq_true,if_false] at acquired
    split at acquired <;> simp only [Prod.mk.injEq,Bool.false_eq_true,false_and,true_and] at acquired
    subst acquired
    exact ⟨⟨toString time,time + expiryTime⟩,by simp,le_rfl⟩
  | db table =>
    simp only [acquireLock,acquireLockDB,Bool.false_eq_true,false_or] at acquired
    split at acquired
    · cases acquired
      exact ⟨⟨"true",time⟩,by simp,le_rfl⟩
    · split at acquired <;> simp only [Prod.mk.injEq,Bool.false_eq_true,false_and,true_and] at acquired
      subst acquired
      exact ⟨⟨"true",time⟩,by simp,le_rfl⟩

theorem acquire_refused (backend : Backend) (time expiryTime deadline : Nat) (key : String)
    (taken : Taken expiryTime key deadline backend) (early : time < deadline) :
    (acquireLock backend time key expiryTime).1 = false ∧
      Taken expiryTime key deadline (acquireLock backend time key expiryTime).2 := by
  cases backend with
  | redis store =>
    obtain ⟨item,present,reach⟩ := taken
    have visible : purge store time key = some item := purge_some.mpr ⟨present,by omega⟩
    simp only [acquireLock,acquireLockRedis,setNX,visible,Bool.false_eq_true,if_false]
    exact ⟨trivial,item,visible,reach⟩
  | db table =>
    obtain ⟨row,present,reach⟩ := taken
    have fresh : ¬ row.createdAt + expiryTime ≤ time := by omega
    simp only [acquireLock,acquireLockDB,present,Bool.false_eq_true,false_or,fresh,if_false]
    exact ⟨trivial,row,present,reach⟩

theorem renew_keeps (backend : Backend) (time expiryTime deadline : Nat) (key renewed : String)
    (taken : Taken expiryTime key deadline backend) (early : time < deadline)
    (later : deadline ≤ time + expiryTime) :
    Taken expiryTime key deadline (renewLock backend time renewed expiryTime).2 := by
  cases backend with
  | redis store =>
    obtain ⟨item,present,reach⟩ := taken
    have visible : purge store time key = some item := purge_some.mpr ⟨present,by omega⟩
    simp only [renewLock,renewLockRedis_eq]
    by_cases same : key = renewed
    · subst same
      exact ⟨_,set_same _ _ _,later⟩
    · exact ⟨item,(set_other _ _ _ _ same).trans visible,reach⟩
  | db table =>
    obtain ⟨row,present,reach⟩ := taken
    simp only [renewLock,acquireLockDB_override]
    by_cases same : key = renewed
    · subst same
      exact ⟨_,Function.update_self ..,later⟩
    · exact ⟨row,(Function.update_of_ne same _ _).trans present,reach⟩

theorem renew_takes (backend : Backend) (time expiryTime : Nat) (key : String) :
    Taken expiryTime key (time + expiryTime) (renewLock backend time key expiryTime).2 := by
  cases backend with
  | redis store =>
    simp only [renewLock,renewLockRedis_eq]
    exact ⟨_,set_same _ _ _,le_rfl⟩
  | db table =>
    simp only [renewLock,acquireLockDB_override]
    exact ⟨_,Function.update_self ..,le_rfl⟩

def Lapsed (expiryTime : Nat) (key : String) (time : Nat) : Backend → Prop
  | .redis store => ∀ item, store key = some item → item.deadline ≤ time
  | .db table => ∀ row, table key = some row → row.createdAt + expiryTime ≤ time

theorem acquire_granted (backend : Backend) (time expiryTime : Nat) (key : String)
    (lapsed : Lapsed expiryTime key time backend) :
    (acquireLock backend time key expiryTime).1 = true := by
  cases backend with
  | redis store =>
    have absent : purge store time key = none := purge_none.mpr lapsed
    simp [acquireLock,acquireLockRedis,setNX,absent]
  | db table =>
    cases present : table key with
    | none => simp [acquireLock,acquireLockDB,present]
    | some row =>
      have old := lapsed row present
      simp [acquireLock,acquireLockDB,present,old]

theorem renew_lapsed (backend : Backend) (time later expiryTime : Nat) (key renewed : String)
    (distinct : key ≠ renewed) (lapsed : Lapsed expiryTime key later backend) :
    Lapsed expiryTime key later (renewLock backend time renewed expiryTime).2 := by
  cases backend with
  | redis store =>
    simp only [renewLock,renewLockRedis_eq]
    intro item present
    rw [set_other _ _ _ _ distinct] at present
    exact lapsed item (purge_some.mp present).1
  | db table =>
    simp only [renewLock,acquireLockDB_override]
    intro row present
    rw [Function.update_of_ne distinct] at present
    exact lapsed row present

theorem renew_succeeds (backend : Backend) (time expiryTime : Nat) (key : String) :
    (renewLock backend time key expiryTime).1 = true := by
  cases backend with
  | redis store => simp only [renewLock,renewLockRedis_eq]
  | db table => simp only [renewLock,acquireLockDB_override]

/-- The holder's key is taken for a whole window after its last refresh. -/
structure Guarded (setting : Setting) (holder : Nat) (state : State) : Prop where
  taken : Taken setting.expiryTime (setting.naming holder).lockKey
    (state.refreshed holder + setting.expiryTime) state.backend
  past : state.refreshed holder ≤ state.now

theorem acquire_guarded (setting : Setting) (holder other time : Nat) (state : State)
    (guarded : Guarded setting holder state) (now : state.now ≤ time)
    (early : time < state.refreshed holder + setting.expiryTime) :
    (acquireDistributedLock setting state other time).1 = false ∧
      Guarded setting holder (acquireDistributedLock setting state other time).2 := by
  have key := lockKey_shared setting other holder
  obtain ⟨refused,kept⟩ := acquire_refused state.backend time setting.expiryTime _ _ guarded.taken early
  have past := guarded.past
  unfold acquireDistributedLock
  rw [key]
  refine ⟨refused,⟨?_,?_⟩⟩
  · simpa [refused] using kept
  · simp only [refused,Bool.false_eq_true,if_false]
    omega

theorem renew_guarded (setting : Setting) (holder other time : Nat) (state : State)
    (guarded : Guarded setting holder state) (now : state.now ≤ time)
    (early : time < state.refreshed holder + setting.expiryTime)
    (hits : KeysAgree (setting.naming holder) ∨ setting.expiryTime ≤ 1) :
    Guarded setting holder (renewDistributedLock setting state other time).2 := by
  have past := guarded.past
  have kept := renew_keeps state.backend time setting.expiryTime _ _ (setting.naming other).renewKey
    guarded.taken early (by omega)
  unfold renewDistributedLock
  by_cases own : other = holder ∧ (renewLock state.backend time (setting.naming other).renewKey
      setting.expiryTime).1 = true
  · obtain ⟨rfl,renewed⟩ := own
    simp only [renewed,if_true]
    refine ⟨?_,by simp⟩
    simp only [Function.update_self]
    rcases hits with agree | tiny
    · rw [← (keys_agree_iff _).mpr agree]
      exact renew_takes state.backend time setting.expiryTime _
    · have same : time = state.refreshed other := by omega
      rw [same] at kept ⊢
      exact kept
  · have unchanged : (if (renewLock state.backend time (setting.naming other).renewKey
        setting.expiryTime).1 = true then Function.update state.refreshed other time else state.refreshed) holder =
        state.refreshed holder := by
      split
      · rename_i renewed
        have distinct : holder ≠ other := fun same => own ⟨same.symm,renewed⟩
        exact Function.update_of_ne distinct _ _
      · rfl
    exact ⟨by simpa only [unchanged] using kept,by simp only [unchanged]; omega⟩

theorem step_guarded (setting : Setting) (holder : Nat)
    (hits : KeysAgree (setting.naming holder) ∨ setting.expiryTime ≤ 1)
    (state next : State) (action : Action) (guarded : Guarded setting holder state)
    (kept : Kept setting holder state action) (taken : step setting state action = some next) :
    Guarded setting holder next := by
  obtain ⟨early,noRelease⟩ := kept
  obtain ⟨time,processor,call⟩ := action
  unfold step at taken
  split at taken
  · cases taken
  · rename_i forward
    have now : state.now ≤ time := by simpa using forward
    cases taken
    cases call with
    | acquireDistributedLock => exact (acquire_guarded setting holder processor time state guarded now early).2
    | renewDistributedLock => exact renew_guarded setting holder processor time state guarded now early hits
    | handleReleaseLock =>
      have idle : state.lockAcquired processor = false := by
        by_contra acquired
        exact noRelease ⟨rfl,.inr (by simpa using acquired)⟩
      have past := guarded.past
      simp only [handleReleaseLock,idle,Bool.false_eq_true,if_false]
      exact ⟨guarded.taken,by simp only; omega⟩

theorem protected_of_keys (setting : Setting) (backendKind : Kind) (holder : Nat)
    (hits : KeysAgree (setting.naming holder) ∨ setting.expiryTime ≤ 1) :
    Protected setting backendKind holder := by
  intro before acquired _ time forward success actions state guard reached other _ later now early
  have start : Guarded setting holder acquired := by
    unfold acquireDistributedLock at success
    simp only [Prod.mk.injEq] at success
    obtain ⟨granted,rfl⟩ := success
    have takes := acquire_takes before.backend _ time setting.expiryTime _ (Prod.ext granted rfl)
    simp only [granted,if_true]
    exact ⟨by simpa using takes,by simp⟩
  have final := Transition.invariant (step setting) (Kept setting holder) (Guarded setting holder)
    (fun state action next => step_guarded setting holder hits state next action)
    acquired state actions start guard reached
  exact (acquire_guarded setting holder other later state final now early).1

def empty : Kind → Backend
  | .redis => .redis (fun _ => none)
  | .db => .db (fun _ => none)

def fresh (backendKind : Kind) : State := ⟨0,empty backendKind,fun _ => false,fun _ => 0⟩

theorem lost_without_keys (setting : Setting) (backendKind : Kind) (holder other : Nat)
    (distinct : other ≠ holder) (differ : ¬ KeysAgree (setting.naming holder))
    (window : 1 < setting.expiryTime) : ¬ Protected setting backendKind holder := by
  intro safe
  have keys : (setting.naming holder).lockKey ≠ (setting.naming holder).renewKey :=
    fun same => differ ((keys_agree_iff _).mp same.symm)
  have shared := lockKey_shared setting other holder
  have acquired : (acquireDistributedLock setting (fresh backendKind) holder 0).1 = true := by
    cases backendKind <;> rfl
  let start := (acquireDistributedLock setting (fresh backendKind) holder 0).2
  let renewal : Action := ⟨setting.expiryTime - 1,holder,.renewDistributedLock⟩
  let renewed := (renewDistributedLock setting start holder (setting.expiryTime - 1)).2
  have origin : start.now = 0 ∧ start.refreshed holder = 0 := by
    cases backendKind <;> simp [start,acquireDistributedLock,fresh,empty,acquireLock,acquireLockRedis,
      setNX,purge,acquireLockDB]
  have taken : step setting start renewal = some renewed := by
    simp [step,renewal,renewed,origin.1]
  have guard : Transition.Along (step setting) (Kept setting holder) start [renewal] := by
    refine ⟨⟨?_,?_⟩,fun _ _ => trivial⟩
    · simp only [renewal,origin.2]
      omega
    · simp [renewal]
  have reached : Transition.run (step setting) start [renewal] = some renewed := by
    simp [Transition.run,taken]
  have refreshed : renewed.now = setting.expiryTime - 1 ∧
      renewed.refreshed holder = setting.expiryTime - 1 := by
    simp [renewed,renewDistributedLock,renew_succeeds]
  have refused := safe (fresh backendKind) start (by cases backendKind <;> rfl) 0 le_rfl
    (Prod.ext acquired rfl) [renewal] renewed guard reached other distinct setting.expiryTime
    (by omega) (by omega)
  have first : Lapsed setting.expiryTime (setting.naming holder).lockKey setting.expiryTime start.backend := by
    cases backendKind <;>
      simp [start,Lapsed,acquireDistributedLock,fresh,empty,acquireLock,acquireLockRedis,setNX,purge,acquireLockDB]
  have granted : (acquireDistributedLock setting renewed other setting.expiryTime).1 = true := by
    simp only [acquireDistributedLock,shared]
    exact acquire_granted _ _ _ _
      (renew_lapsed start.backend (setting.expiryTime - 1) _ _ _ _ keys first)
  rw [granted] at refused
  cases refused

theorem keep_alive_protects_iff (setting : Setting) (backendKind : Kind) (holder : Nat) :
    Protected setting backendKind holder ↔
      KeysAgree (setting.naming holder) ∨ setting.expiryTime ≤ 1 := by
  constructor
  · intro safe
    by_contra neither
    rw [not_or] at neither
    exact lost_without_keys setting backendKind holder (holder + 1) (by omega) neither.1 (by omega) safe
  · exact protected_of_keys setting backendKind holder

/-- The default configuration: one tenant, the namespace `default` everywhere. -/
def defaultSetting : Setting := ⟨some "t1","default","Notifications","Task",fun _ => "default",210000⟩

theorem keep_alive_default_lost :
    ¬ Protected defaultSetting .redis 0 ∧ ¬ Protected defaultSetting .db 0 := by
  have differ : ¬ KeysAgree (defaultSetting.naming 0) := by
    rintro ⟨_,same⟩
    exact absurd same (by decide)
  exact ⟨lost_without_keys _ .redis 0 1 (by decide) differ (by decide),
    lost_without_keys _ .db 0 1 (by decide) differ (by decide)⟩

end EventQueue.KeepAliveLock

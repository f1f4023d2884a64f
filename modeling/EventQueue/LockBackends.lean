import EventQueue.DistributedLock

/-! The Redis and the database implementation of the distributed lock seen side by side: Redis drops
an expired key, the database keeps the row and compares its `createdAt` with the clock. -/
namespace EventQueue.DistributedLock
open ExpiringStore

inductive LockCall
  | acquireLock
  | renewLock
  | releaseLock
  deriving DecidableEq

variable (expiryTime : Nat) (fullKey : String)

/-- One call on the key; the answer of a release is left out. -/
def answer (backend : Backend) (call : Nat × LockCall) : Option Bool × Backend :=
  match call.2 with
  | .acquireLock =>
    let (result,next) := acquireLock backend call.1 fullKey expiryTime
    (some result,next)
  | .renewLock =>
    let (result,next) := renewLock backend call.1 fullKey expiryTime
    (some result,next)
  | .releaseLock => (none,(releaseLock backend call.1 fullKey).2)

/-- The answers of all calls of a history, in their order. -/
def answers : Backend → List (Nat × LockCall) → List (Option Bool)
  | _,[] => []
  | backend,call::rest =>
    (answer expiryTime fullKey backend call).1::answers (answer expiryTime fullKey backend call).2 rest

/-- The lock is held at the given time: the key has not expired, the row is young enough. -/
def heldAt (time : Nat) : Backend → Bool
  | .redis store => (purge store time fullKey).isSome
  | .db table => (table fullKey).any (fun row => decide (time < row.createdAt + expiryTime))

/-- From some time on nobody can tell the two backends apart. -/
def AgreeFrom (now : Nat) (first second : Backend) : Prop :=
  ∀ time, now ≤ time → heldAt expiryTime fullKey time first = heldAt expiryTime fullKey time second

theorem heldAt_set (store : Redis) (value : String) (now time : Nat) :
    heldAt expiryTime fullKey time (.redis (set store fullKey ⟨value,now + expiryTime⟩)) =
      decide (time < now + expiryTime) := by
  by_cases early : time < now + expiryTime
  · simp [heldAt,purge,early]
  · simp [heldAt,purge,early]

theorem heldAt_insert (table : Table) (value : String) (now time : Nat) :
    heldAt expiryTime fullKey time (.db (Function.update table fullKey (some ⟨value,now⟩))) =
      decide (time < now + expiryTime) := by
  simp [heldAt]

theorem heldAt_purge (store : Redis) {now time : Nat} (later : now ≤ time) :
    heldAt expiryTime fullKey time (.redis (purge store now)) = heldAt expiryTime fullKey time (.redis store) := by
  simp only [heldAt,purge]
  cases store fullKey with
  | none => rfl
  | some item =>
    by_cases early : time < item.deadline
    · have now : now < item.deadline := by omega
      simp [Option.filter,early,now]
    · by_cases now : now < item.deadline
      · simp [Option.filter,early,now]
      · simp [Option.filter,early,now]

/-- `acquireLock` succeeds exactly if the lock is not held, and takes it then. -/
theorem acquireLock_spec (backend : Backend) (now : Nat) :
    (acquireLock backend now fullKey expiryTime).1 = !heldAt expiryTime fullKey now backend ∧
      ∀ time, now ≤ time → heldAt expiryTime fullKey time (acquireLock backend now fullKey expiryTime).2 =
        if heldAt expiryTime fullKey now backend then heldAt expiryTime fullKey time backend
        else decide (time < now + expiryTime) := by
  cases backend with
  | redis store =>
    simp only [acquireLock,acquireLockRedis,setNX,Bool.false_eq_true,if_false]
    cases present : purge store now fullKey with
    | none =>
      have free : heldAt expiryTime fullKey now (.redis store) = false := by simp [heldAt,present]
      simp only [free]
      exact ⟨rfl,fun time _ => heldAt_set _ _ _ _ _ _⟩
    | some item =>
      have taken : heldAt expiryTime fullKey now (.redis store) = true := by simp [heldAt,present]
      simp only [taken]
      exact ⟨rfl,fun time later => heldAt_purge _ _ store later⟩
  | db table =>
    simp only [acquireLock,acquireLockDB,Bool.false_eq_true,false_or]
    cases present : table fullKey with
    | none =>
      have free : heldAt expiryTime fullKey now (.db table) = false := by simp [heldAt,present]
      simp only [free]
      exact ⟨rfl,fun time _ => heldAt_insert _ _ _ _ _ _⟩
    | some row =>
      by_cases expired : row.createdAt + expiryTime ≤ now
      · have free : heldAt expiryTime fullKey now (.db table) = false := by simp [heldAt,present,expired]
        simp only [expired,if_true,free]
        exact ⟨rfl,fun time _ => heldAt_insert _ _ _ _ _ _⟩
      · have taken : heldAt expiryTime fullKey now (.db table) = true := by
          simpa [heldAt,present] using expired
        simp only [expired,if_false,taken]
        exact ⟨rfl,fun _ _ => rfl⟩

/-- `renewLock` always succeeds and holds the lock from now on. -/
theorem renewLock_spec (backend : Backend) (now : Nat) :
    (renewLock backend now fullKey expiryTime).1 = true ∧
      ∀ time, heldAt expiryTime fullKey time (renewLock backend now fullKey expiryTime).2 =
        decide (time < now + expiryTime) := by
  cases backend with
  | redis store =>
    simp only [renewLock,renewLockRedis_eq]
    exact ⟨trivial,fun time => heldAt_set _ _ _ _ _ _⟩
  | db table =>
    simp only [renewLock,acquireLockDB_override]
    exact ⟨trivial,fun time => heldAt_insert _ _ _ _ _ _⟩

theorem releaseLock_spec (backend : Backend) (now time : Nat) :
    heldAt expiryTime fullKey time (releaseLock backend now fullKey).2 = false := by
  cases backend with
  | redis store => simp [releaseLock,releaseLockRedis,heldAt,purge]
  | db table => simp [releaseLock,releaseLockDb,heldAt]

variable {expiryTime fullKey}

theorem AgreeFrom.answer {first second : Backend} {call : Nat × LockCall}
    (agree : AgreeFrom expiryTime fullKey call.1 first second) :
    (answer expiryTime fullKey first call).1 = (answer expiryTime fullKey second call).1 ∧
      AgreeFrom expiryTime fullKey call.1 (answer expiryTime fullKey first call).2
        (answer expiryTime fullKey second call).2 := by
  obtain ⟨now,call⟩ := call
  cases call with
  | acquireLock =>
    have one := acquireLock_spec expiryTime fullKey first now
    have two := acquireLock_spec expiryTime fullKey second now
    have same := agree now (Nat.le_refl _)
    refine ⟨?_,?_⟩
    · simp only [DistributedLock.answer]
      rw [one.1,two.1,same]
    · intro time later
      simp only [DistributedLock.answer]
      rw [one.2 time later,two.2 time later,same,agree time later]
  | renewLock =>
    have one := renewLock_spec expiryTime fullKey first now
    have two := renewLock_spec expiryTime fullKey second now
    refine ⟨?_,?_⟩
    · simp only [DistributedLock.answer]
      rw [one.1,two.1]
    · intro time _
      simp only [DistributedLock.answer]
      rw [one.2 time,two.2 time]
  | releaseLock =>
    refine ⟨rfl,?_⟩
    intro time _
    simp only [DistributedLock.answer]
    rw [releaseLock_spec,releaseLock_spec]

theorem AgreeFrom.answers {first second : Backend} {now : Nat} (agree : AgreeFrom expiryTime fullKey now first second)
    (history : List (Nat × LockCall)) (later : ∀ call ∈ history, now ≤ call.1)
    (ordered : (history.map Prod.fst).Pairwise (· ≤ ·)) :
    answers expiryTime fullKey first history = answers expiryTime fullKey second history := by
  induction history generalizing first second now with
  | nil => rfl
  | cons call rest ih =>
    obtain ⟨before,remaining⟩ := List.pairwise_cons.mp ordered
    have current : AgreeFrom expiryTime fullKey call.1 first second :=
      fun time reached => agree time ((later call (by simp)).trans reached)
    obtain ⟨same,next⟩ := current.answer
    have tail := ih next (fun other member => before other.1 (List.mem_map_of_mem member)) remaining
    simp only [DistributedLock.answers]
    rw [same,tail]

theorem lock_backends_interchangeable (expiryTime : Nat) (fullKey : String) (history : List (Nat × LockCall))
    (ordered : (history.map Prod.fst).Pairwise (· ≤ ·)) :
    answers expiryTime fullKey (.redis (fun _ => none)) history =
      answers expiryTime fullKey (.db (fun _ => none)) history := by
  have agree : AgreeFrom expiryTime fullKey 0 (.redis (fun _ => none)) (.db (fun _ => none)) := fun _ _ => rfl
  exact agree.answers history (fun _ _ => Nat.zero_le _) ordered

/-- One caller gets the lock, a second one does not, the lock expires at 110 and is taken and renewed. -/
def takenOver : List (Nat × LockCall) :=
  [(10,.acquireLock),(109,.acquireLock),(110,.acquireLock),(150,.renewLock),(249,.acquireLock),(250,.releaseLock),
    (250,.acquireLock)]

theorem lock_backends_interchangeable_taken_over :
    answers 100 "key" (.redis (fun _ => none)) takenOver =
        [some true,some false,some true,some true,some false,none,some true] ∧
      answers 100 "key" (.redis (fun _ => none)) takenOver = answers 100 "key" (.db (fun _ => none)) takenOver :=
  ⟨by decide,lock_backends_interchangeable 100 "key" takenOver (by decide)⟩

end EventQueue.DistributedLock

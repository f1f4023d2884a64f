import EventQueue.Lib.ExpiringStore
import Mathlib.Data.String.Basic

/-! The distributed lock of `shared/distributedLock.js` on both backends, the keys
it is stored under, and the three calls of `EventQueueProcessorBase.js` that
acquire, renew and release the lock of an event. -/
namespace EventQueue.DistributedLock
open ExpiringStore

def REDIS_PREFIX : String := "EVENT_QUEUE"

/-- `config.redisNamespace`; an unset namespace is the empty string. -/
def redisNamespace (namespaceOfInstance : String) (addPublishNamespace : Bool) : String :=
  if addPublishNamespace then
    "##".intercalate ([REDIS_PREFIX,namespaceOfInstance].filter (fun part => part ≠ ""))
  else REDIS_PREFIX

theorem redisNamespace_inj {nameSpace other : String}
    (same : redisNamespace nameSpace true = redisNamespace other true) :
    nameSpace = other := by
  have lengths := congrArg String.length same
  by_cases unset : nameSpace = ""
  · by_cases empty : other = ""
    · rw [unset,empty]
    · simp [redisNamespace,REDIS_PREFIX,unset,empty] at lengths
      have alone : "EVENT_QUEUE".length = 11 := rfl
      have marked : "EVENT_QUEUE##".length = 13 := rfl
      omega
  · by_cases empty : other = ""
    · simp [redisNamespace,REDIS_PREFIX,unset,empty] at lengths
      have alone : "EVENT_QUEUE".length = 11 := rfl
      have marked : "EVENT_QUEUE##".length = 13 := rfl
      omega
    · simpa [redisNamespace,REDIS_PREFIX,unset,empty] using same

/-- An undefined tenant joins as the empty string. -/
def generateKey (namespaceOfInstance : String) (tenant : Option String) (tenantScoped : Bool)
    (key : String) (skipNamespace : Bool) : String :=
  "##".intercalate ([redisNamespace namespaceOfInstance (!skipNamespace)] ++
    (if tenantScoped then [tenant.getD ""] else []) ++ [key])

abbrev Redis := Store String String

def acquireLockRedis (store : Redis) (now : Nat) (fullKey : String) (expiryTime : Nat)
    (value : String) (overrideValue : Bool) : Bool × Redis :=
  if overrideValue then (true,set store fullKey ⟨value,now + expiryTime⟩)
  else setNX store fullKey ⟨value,now + expiryTime⟩

/-- The three commands of a renewal without anything in between. -/
def renewLockRedis (store : Redis) (now : Nat) (fullKey : String) (expiryTime : Nat) : Bool × Redis :=
  let item : Item String := ⟨"true",now + expiryTime⟩
  let (result,written) := setXX store fullKey item
  if result then (true,written)
  else if (store fullKey).all (fun item => item.value == "") then (true,set store fullKey item)
  else (false,store)

theorem renewLockRedis_eq (store : Redis) (now : Nat) (fullKey : String) (expiryTime : Nat) :
    renewLockRedis store now fullKey expiryTime = (true,set store fullKey ⟨"true",now + expiryTime⟩) := by
  cases present : store fullKey <;> simp [renewLockRedis,setXX,present]

def releaseLockRedis (store : Redis) (fullKey : String) : Bool × Redis := del store fullKey

/-- A row of the lock table: its value and `createdAt`. -/
structure Row where
  value : String
  createdAt : Nat
  deriving DecidableEq

abbrev Table := String → Option Row

/-- The INSERT fails exactly when a row with that code exists. -/
def acquireLockDB (table : Table) (now : Nat) (fullKey : String) (expiryTime : Nat)
    (overrideValue : Bool) : Bool × Table :=
  match table fullKey with
  | none => (true,Function.update table fullKey (some ⟨"true",now⟩))
  | some currentEntry =>
    if overrideValue ∨ currentEntry.createdAt + expiryTime ≤ now then
      (true,Function.update table fullKey (some ⟨"true",now⟩))
    else (false,table)

theorem acquireLockDB_override (table : Table) (now : Nat) (fullKey : String) (expiryTime : Nat) :
    acquireLockDB table now fullKey expiryTime true =
      (true,Function.update table fullKey (some ⟨"true",now⟩)) := by
  cases present : table fullKey <;> simp [acquireLockDB,present]

def releaseLockDb (table : Table) (fullKey : String) : Bool × Table :=
  (true,Function.update table fullKey none)

inductive Backend
  | redis (store : Redis)
  | db (table : Table)

/-- A Redis command sees the keys whose time has not run out. -/
def acquireLock (backend : Backend) (now : Nat) (fullKey : String) (expiryTime : Nat) : Bool × Backend :=
  match backend with
  | .redis store =>
    let (result,written) := acquireLockRedis (purge store now) now fullKey expiryTime (toString now) false
    (result,.redis written)
  | .db table =>
    let (result,written) := acquireLockDB table now fullKey expiryTime false
    (result,.db written)

def renewLock (backend : Backend) (now : Nat) (fullKey : String) (expiryTime : Nat) : Bool × Backend :=
  match backend with
  | .redis store =>
    let (result,written) := renewLockRedis (purge store now) now fullKey expiryTime
    (result,.redis written)
  | .db table =>
    let (result,written) := acquireLockDB table now fullKey expiryTime true
    (result,.db written)

def releaseLock (backend : Backend) (now : Nat) (fullKey : String) : Bool × Backend :=
  match backend with
  | .redis store =>
    let (result,written) := releaseLockRedis (purge store now) fullKey
    (result,.redis written)
  | .db table =>
    let (result,written) := releaseLockDb table fullKey
    (result,.db written)

/-- What an event processor knows when it builds its lock keys. -/
structure Naming where
  tenant : Option String
  namespaceOfEvent : String
  type : String
  subType : String
  /-- `config.namespace` of the instance the processor runs in. -/
  namespaceOfInstance : String
  deriving DecidableEq

/-- The key of `acquireDistributedLock` and of `handleReleaseLock`. -/
def Naming.lockKey (naming : Naming) : String :=
  generateKey naming.namespaceOfInstance naming.tenant true
    ("##".intercalate [naming.namespaceOfEvent,naming.type,naming.subType]) true

def Naming.renewKey (naming : Naming) : String :=
  generateKey naming.namespaceOfInstance naming.tenant true
    ("##".intercalate [naming.type,naming.subType]) false

end EventQueue.DistributedLock

import Mathlib.Data.Option.Basic
import Mathlib.Logic.Function.Basic

/-! A key-value store whose items carry a deadline, with the conditional and
unconditional writes of a Redis-like server. An item stays until it is deleted
or purged, and it can be purged only once its deadline has passed. -/
namespace ExpiringStore

structure Item (Value : Type) where
  value : Value
  deadline : Nat
  deriving DecidableEq

variable {Key Value : Type} [DecidableEq Key]

abbrev Store (Key Value : Type) := Key → Option (Item Value)

def set (store : Store Key Value) (key : Key) (item : Item Value) : Store Key Value :=
  Function.update store key (some item)

/-- `SET key value PX ttl NX`. -/
def setNX (store : Store Key Value) (key : Key) (item : Item Value) : Bool × Store Key Value :=
  match store key with
  | none => (true,set store key item)
  | some _ => (false,store)

/-- `SET key value PX ttl XX`. -/
def setXX (store : Store Key Value) (key : Key) (item : Item Value) : Bool × Store Key Value :=
  match store key with
  | none => (false,store)
  | some _ => (true,set store key item)

/-- `DEL key`, with the number of removed keys as a truth value. -/
def del (store : Store Key Value) (key : Key) : Bool × Store Key Value :=
  ((store key).isSome,Function.update store key none)

/-- The items whose deadline lies in the future. -/
def purge (store : Store Key Value) (now : Nat) : Store Key Value :=
  fun key => (store key).filter (fun item => decide (now < item.deadline))

/-- One key is dropped if it has expired. -/
def expire (store : Store Key Value) (now : Nat) (key : Key) : Store Key Value :=
  Function.update store key ((store key).filter (fun item => decide (now < item.deadline)))

@[simp] theorem set_same (store : Store Key Value) (key : Key) (item : Item Value) :
    set store key item key = some item := by
  simp [set]

theorem set_other (store : Store Key Value) (key other : Key) (item : Item Value)
    (distinct : other ≠ key) : set store key item other = store other := by
  simp [set,distinct]

@[simp] theorem del_same (store : Store Key Value) (key : Key) : (del store key).2 key = none := by
  simp [del]

omit [DecidableEq Key] in
theorem purge_some {store : Store Key Value} {now : Nat} {key : Key} {item : Item Value} :
    purge store now key = some item ↔ store key = some item ∧ now < item.deadline := by
  simp [purge,Option.filter_eq_some_iff]

omit [DecidableEq Key] in
theorem purge_none {store : Store Key Value} {now : Nat} {key : Key} :
    purge store now key = none ↔ ∀ item, store key = some item → item.deadline ≤ now := by
  simp [purge,Option.filter_eq_none_iff]

theorem expire_keeps {store : Store Key Value} {now : Nat} {key : Key} {item : Item Value}
    (present : store key = some item) (future : now < item.deadline) :
    expire store now key key = some item := by
  simp [expire,present,future]

end ExpiringStore

import EventQueue.Lib.ExpiringStore
import Mathlib.Data.List.Basic

/-! Leases: keys that are set only while they are free and that nobody deletes, so that they go away when their time
has run out. What was granted decides which keys are free, and no two grants of one key overlap. -/
namespace Lease
open ExpiringStore

structure Grant (Key : Type) where
  key : Key
  start : Nat
  stop : Nat

variable {Key Value : Type}

/-- Whoever was granted the key has had it for its time. -/
def Free (grants : List (Grant Key)) (now : Nat) (key : Key) : Prop :=
  ∀ grant ∈ grants, grant.key = key → grant.stop ≤ now

def Apart (grants : List (Grant Key)) : Prop :=
  grants.Pairwise (fun earlier later => earlier.key = later.key → earlier.stop ≤ later.start)

/-- A store that holds what was granted and nothing else. -/
structure Kept (store : Store Key Value) (grants : List (Grant Key)) (now : Nat) : Prop where
  covered : ∀ grant ∈ grants, now < grant.stop → ∃ item, store grant.key = some item ∧ grant.stop ≤ item.deadline
  granted : ∀ key item, store key = some item → ∃ grant ∈ grants, grant.key = key ∧ grant.stop = item.deadline
  apart : Apart grants

theorem kept_empty (now : Nat) : Kept (fun _ => none : Store Key Value) [] now :=
  ⟨by simp,by simp,List.Pairwise.nil⟩

theorem Kept.later {store : Store Key Value} {grants : List (Grant Key)} {now later : Nat} (kept : Kept store grants now)
    (passed : now ≤ later) : Kept store grants later :=
  ⟨fun grant member valid => kept.covered grant member (Nat.lt_of_le_of_lt passed valid),kept.granted,kept.apart⟩

variable [DecidableEq Key]

/-- `SET key value PX time NX`. -/
def acquire (store : Store Key Value) (now : Nat) (key : Key) (value : Value) (time : Nat) : Bool × Store Key Value :=
  setNX (expire store now key) key ⟨value,now + time⟩

theorem acquire_eq (store : Store Key Value) (now : Nat) (key : Key) (value : Value) (time : Nat) :
    acquire store now key value time =
      if purge store now key = none then (true,set store key ⟨value,now + time⟩) else (false,store) := by
  have own : expire store now key key = purge store now key := by simp [expire,purge]
  unfold acquire setNX
  cases valid : purge store now key with
  | none =>
    rw [own,valid]
    simp [ExpiringStore.set,expire]
  | some item =>
    have same : expire store now key = store := by
      rw [expire,show (store key).filter _ = purge store now key from rfl,valid,← (purge_some.mp valid).1]
      exact Function.update_eq_self key store
    rw [own,valid]
    simp [same]

section
variable {store : Store Key Value} {grants : List (Grant Key)} {now : Nat} {key : Key} (kept : Kept store grants now)
  (value : Value) (time : Nat)

include kept

omit [DecidableEq Key] in
theorem Kept.absent_iff : purge store now key = none ↔ Free grants now key := by
  rw [purge_none]
  constructor
  · intro absent grant member own
    by_contra valid
    obtain ⟨item,present,reaches⟩ := kept.covered grant member (Nat.lt_of_not_le valid)
    rw [own] at present
    exact valid (Nat.le_trans reaches (absent item present))
  · intro free item present
    obtain ⟨grant,member,own,stop⟩ := kept.granted key item present
    rw [← stop]
    exact free grant member own

/-- A key is granted iff it is free. -/
theorem Kept.acquire_iff : (acquire store now key value time).1 = true ↔ Free grants now key := by
  rw [acquire_eq,← kept.absent_iff]
  split
  · rename_i absent
    simp [absent]
  · rename_i present
    simp [present]

theorem Kept.acquire_granted (given : (acquire store now key value time).1 = true) :
    Kept (acquire store now key value time).2 (grants ++ [⟨key,now,now + time⟩]) now := by
  have free := (kept.acquire_iff value time).mp given
  have written : (acquire store now key value time).2 = ExpiringStore.set store key ⟨value,now + time⟩ := by
    rw [acquire_eq,if_pos (kept.absent_iff.mpr free)]
  rw [written]
  constructor
  · intro grant member valid
    rcases List.mem_append.mp member with before | last
    · have other : grant.key ≠ key := fun same => absurd (free grant before same) (Nat.not_le_of_lt valid)
      rw [set_other _ _ _ _ other]
      exact kept.covered grant before valid
    · rw [List.mem_singleton] at last
      subst last
      exact ⟨_,set_same _ _ _,Nat.le_refl _⟩
  · intro other item present
    by_cases same : other = key
    · subst same
      rw [set_same] at present
      cases present
      exact ⟨⟨other,now,now + time⟩,by simp,rfl,rfl⟩
    · rw [set_other _ _ _ _ same] at present
      obtain ⟨grant,member,own⟩ := kept.granted other item present
      exact ⟨grant,List.mem_append_left _ member,own⟩
  · refine List.pairwise_append.mpr ⟨kept.apart,List.pairwise_singleton _ _,?_⟩
    intro grant member last also same
    rw [List.mem_singleton] at also
    subst also
    exact free grant member same

omit kept in
theorem acquire_refused (refused : (acquire store now key value time).1 = false) :
    (acquire store now key value time).2 = store := by
  rw [acquire_eq] at refused ⊢
  split
  · rename_i absent
    rw [if_pos absent] at refused
    cases refused
  · rfl

end

end Lease

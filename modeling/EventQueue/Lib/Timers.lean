import Mathlib.Data.List.Basic

/-! One-shot timers: each gets an id that no earlier one had, and is pending until it fires or is cleared. -/

structure Timer (Task : Type) where
  id : Nat
  task : Task

structure Timers (Task : Type) where
  pending : List (Timer Task)
  created : Nat
  older : ∀ timer ∈ pending, timer.id < created

namespace Timers

variable {Task : Type}

def empty : Timers Task := ⟨[],0,by simp⟩

def get? (timers : Timers Task) (id : Nat) : Option Task :=
  (timers.pending.find? (fun timer => timer.id == id)).map Timer.task

/-- The new timer has the number of timers created before as its id. -/
def set (timers : Timers Task) (task : Task) : Timers Task where
  pending := timers.pending ++ [⟨timers.created,task⟩]
  created := timers.created + 1
  older := by
    intro timer member
    rcases List.mem_append.mp member with before | last
    · exact Nat.lt_succ_of_lt (timers.older timer before)
    · rw [List.mem_singleton.mp last]
      exact Nat.lt_succ_self _

/-- An id that is not pending is ignored. -/
def clear (timers : Timers Task) (id : Nat) : Timers Task where
  pending := timers.pending.filter (fun timer => timer.id != id)
  created := timers.created
  older := fun timer member => timers.older timer (List.mem_filter.mp member).1

@[simp] theorem get?_empty (id : Nat) : (empty : Timers Task).get? id = none := rfl

theorem get?_lt {timers : Timers Task} {id : Nat} {task : Task} (found : timers.get? id = some task) :
    id < timers.created := by
  obtain ⟨timer,at_,_⟩ := Option.map_eq_some_iff.mp found
  have same : timer.id = id := by simpa using List.find?_some at_
  rw [← same]
  exact timers.older timer (List.mem_of_find?_eq_some at_)

theorem get?_created (timers : Timers Task) : timers.get? timers.created = none := by
  rw [Option.eq_none_iff_forall_ne_some]
  intro task found
  exact Nat.lt_irrefl _ (get?_lt found)

theorem get?_set (timers : Timers Task) (task : Task) (id : Nat) :
    (timers.set task).get? id = if id = timers.created then some task else timers.get? id := by
  by_cases last : id = timers.created
  · have absent := timers.get?_created
    rw [get?,Option.map_eq_none_iff] at absent
    simp [get?,set,List.find?_append,last,absent]
  · have other : timers.created ≠ id := fun same => last same.symm
    simp [get?,set,List.find?_append,last,other]

/-- A timer that is pending after another was set is the new one or was pending before. -/
theorem set_cases {timers : Timers Task} {task other : Task} {id : Nat} (found : (timers.set task).get? id = some other) :
    id = timers.created ∧ other = task ∨ timers.get? id = some other := by
  rw [get?_set] at found
  split at found
  · rename_i last
    exact Or.inl ⟨last,(Option.some.inj found).symm⟩
  · exact Or.inr found

theorem get?_clear (timers : Timers Task) (cleared id : Nat) :
    (timers.clear cleared).get? id = if id = cleared then none else timers.get? id := by
  simp only [get?,clear,List.find?_filter]
  split
  · rename_i same
    subst same
    rw [Option.map_eq_none_iff,List.find?_eq_none]
    simp
  · rename_i other
    congr 2
    funext timer
    by_cases own : timer.id = id
    · simp [own,other]
    · simp [own]

theorem clear_cases {timers : Timers Task} {cleared id : Nat} {task : Task}
    (found : (timers.clear cleared).get? id = some task) : id ≠ cleared ∧ timers.get? id = some task := by
  rw [get?_clear] at found
  split at found
  · cases found
  · rename_i differs
    exact ⟨differs,found⟩

theorem get?_clearAll (timers : Timers Task) (ids : List Nat) (id : Nat) :
    (ids.foldl clear timers).get? id = if id ∈ ids then none else timers.get? id := by
  induction ids generalizing timers with
  | nil => simp
  | cons first rest ih =>
    rw [List.foldl_cons,ih,get?_clear]
    by_cases later : id ∈ rest
    · simp [later]
    · by_cases same : id = first
      · simp [same]
      · simp [later,same]

theorem created_clearAll (timers : Timers Task) (ids : List Nat) : (ids.foldl clear timers).created = timers.created := by
  induction ids generalizing timers with
  | nil => rfl
  | cons id rest ih => exact ih (timers.clear id)

end Timers

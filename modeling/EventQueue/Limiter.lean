import EventQueue.Lib.Parties
import EventQueue.Lib.Transition
import Mathlib.Data.List.Nodup

/-! `limiter` with `promiseAllDone`. The loop stops at a race over the promises that are still running; reactions take
a promise out of them once it has settled. Promises settle and reactions run in any order, as steps of their own. -/
namespace EventQueue.Limiter

variable {Payload Result Error : Type}

structure Setting (Payload Error : Type) where
  limit : Int
  payloads : List Payload
  /-- An `AsyncFunction` is called in the loop, any other function in a microtask. -/
  asyncFunction : Bool
  /-- `new VError.MultiError(errors)`, or what its constructor throws. -/
  multiError : List Error → Error

/-- One of the `returnPromises`. -/
structure Task (Payload Result Error : Type) where
  payload : Payload
  outcome : Option (Except Error Result)
  /-- Its reaction has taken it out of `runningPromises`. -/
  spliced : Bool
  /-- The promise of that reaction, which the race waits for, has settled. -/
  released : Bool

inductive Phase (Result Error : Type)
  | looping
  | racing (awaited : List Nat)
  | settling
  | returned (result : Except Error (List Result))

structure State (Payload Result Error : Type) where
  tasks : List (Task Payload Result Error)
  /-- The payloads the iterator has been called with. -/
  calls : List Payload
  runningPromises : List Nat
  phase : Phase Result Error

inductive Action (Result Error : Type)
  | iterate
  | invoke
  | settle (index : Nat) (outcome : Except Error Result)
  | splice (index : Nat)
  | release (index : Nat)
  | resume
  | finish
  | deliver

def State.initial : State Payload Result Error := ⟨[],[],[],.looping⟩

def Task.unsettled (task : Task Payload Result Error) : Bool := task.outcome.isNone

def Task.waiting (task : Task Payload Result Error) : Bool := !task.spliced

/-- `promiseAllDone` once all promises have settled. -/
def promiseAllDone (multiError : List Error → Error) (results : List (Except Error Result)) :
    Except Error (List Result) :=
  match results.filterMap (fun result => match result with | .error reason => some reason | .ok _ => none) with
  | [] => .ok (results.filterMap Except.toOption)
  | [reason] => .error reason
  | reasons => .error (multiError reasons)

/-- `runningPromises.splice(runningPromises.indexOf(e), 1)`; an index of -1 would remove the last one. -/
def spliced (runningPromises : List Nat) (index : Nat) : List Nat :=
  if index ∈ runningPromises then runningPromises.erase index else runningPromises.dropLast

section
variable (setting : Setting Payload Error)

def Setting.tracked : Bool := decide (setting.limit ≤ setting.payloads.length)

/-- The body of the loop up to the race. -/
def State.iterate (state : State Payload Result Error) (payload : Payload) : State Payload Result Error :=
  let runningPromises :=
    if setting.tracked then state.runningPromises ++ [state.tasks.length] else state.runningPromises
  { tasks := state.tasks ++ [⟨payload,none,false,false⟩]
    calls := if setting.asyncFunction then state.calls ++ [payload] else state.calls
    runningPromises := runningPromises
    phase := if setting.tracked && decide (setting.limit ≤ runningPromises.length) then .racing runningPromises
      else .looping }

def State.change (state : State Payload Result Error) (index : Nat) (task : Task Payload Result Error) :
    State Payload Result Error := {state with tasks := state.tasks.set index task}

def step (state : State Payload Result Error) : Action Result Error → Option (State Payload Result Error)
  | .iterate =>
    match state.phase with
    | .looping => setting.payloads[state.tasks.length]?.map (state.iterate setting)
    | _ => none
  -- The microtasks of the calls run in the order of the loop.
  | .invoke => state.tasks[state.calls.length]?.map (fun task => {state with calls := state.calls ++ [task.payload]})
  | .settle index outcome => state.tasks[index]?.bind (fun task =>
      if index < state.calls.length ∧ task.outcome = none then some (state.change index {task with outcome := some outcome})
      else none)
  | .splice index => state.tasks[index]?.bind (fun task =>
      if setting.tracked ∧ task.outcome.isSome ∧ task.spliced = false then
        some {state.change index {task with spliced := true} with
          runningPromises := spliced state.runningPromises index}
      else none)
  | .release index => state.tasks[index]?.bind (fun task =>
      if task.spliced = true ∧ task.released = false then some (state.change index {task with released := true}) else none)
  | .resume =>
    match state.phase with
    | .racing awaited =>
      if awaited.any (fun index => state.tasks[index]?.any Task.released) then some {state with phase := .looping} else none
    | _ => none
  | .finish =>
    match state.phase with
    | .looping => if state.tasks.length = setting.payloads.length then some {state with phase := .settling} else none
    | _ => none
  | .deliver =>
    match state.phase with
    | .settling => (state.tasks.mapM Task.outcome).map (fun results =>
        {state with phase := .returned (promiseAllDone setting.multiError results)})
    | _ => none

/-- Called in list order and once for each payload, never more in flight than the limit, and returned after all. -/
structure Limited (state : State Payload Result Error) : Prop where
  order : state.calls <+: setting.payloads
  bound : (state.tasks.countP Task.unsettled : Int) ≤ max 1 setting.limit
  returned : ∀ result, state.phase = .returned result → state.calls = setting.payloads ∧
    ∃ outcomes, state.tasks.map Task.outcome = outcomes.map some ∧ outcomes.length = setting.payloads.length ∧
      (∀ results, outcomes = results.map Except.ok → result = .ok results) ∧
      ((∃ reason, .error reason ∈ outcomes) → ∃ error, result = .error error)

/-- How much room the phase leaves for further promises. -/
def Room (state : State Payload Result Error) : Phase Result Error → Prop
  | .looping => setting.tracked → (state.runningPromises.length : Int) < max 1 setting.limit
  | .racing awaited => setting.tracked ∧ (awaited.length : Int) = max 1 setting.limit ∧
      state.runningPromises.Sublist awaited ∧ ∀ index ∈ awaited, index < state.tasks.length
  | .settling => state.tasks.length = setting.payloads.length ∧
      (setting.tracked → (state.runningPromises.length : Int) ≤ max 1 setting.limit)
  | .returned result => state.tasks.length = setting.payloads.length ∧
      (setting.tracked → (state.runningPromises.length : Int) ≤ max 1 setting.limit) ∧
      ∃ outcomes, state.tasks.map Task.outcome = outcomes.map some ∧
        result = promiseAllDone setting.multiError outcomes

structure Sound (state : State Payload Result Error) : Prop where
  payloads : state.tasks.map Task.payload = setting.payloads.take state.tasks.length
  calls : state.calls = setting.payloads.take state.calls.length
  called : state.calls.length ≤ state.tasks.length
  direct : setting.asyncFunction = true → state.calls.length = state.tasks.length
  settled : ∀ (index : Nat) task, state.tasks[index]? = some task → task.outcome ≠ none → index < state.calls.length
  reactions : ∀ task ∈ state.tasks, (task.spliced = true → task.outcome ≠ none) ∧
    (task.released = true → task.spliced = true)
  distinct : state.runningPromises.Nodup
  running : setting.tracked = true → state.runningPromises.length = state.tasks.countP Task.waiting ∧
    ∀ index, index ∈ state.runningPromises ↔ ∃ task, state.tasks[index]? = some task ∧ task.spliced = false
  room : Room setting state state.phase

end

section
variable {setting : Setting Payload Error} {state next : State Payload Result Error}

theorem initial_sound : Sound setting (State.initial : State Payload Result Error) where
  payloads := rfl
  calls := rfl
  called := Nat.le_refl _
  direct _ := rfl
  settled _ _ found := by cases found
  reactions _ member := by cases member
  distinct := List.nodup_nil
  running _ := ⟨rfl,fun index => by simp [State.initial]⟩
  room _ := by
    simp only [State.initial,List.length_nil]
    omega

theorem Sound.small (sound : Sound setting state) : state.tasks.length ≤ setting.payloads.length := by
  have lengths := congrArg List.length sound.payloads
  rw [List.length_map,List.length_take] at lengths
  omega

/-- What a race waits for is what was running when it began. -/
theorem Sound.runningBound (sound : Sound setting state) (tracked : setting.tracked = true) :
    (state.runningPromises.length : Int) ≤ max 1 setting.limit := by
  have room := sound.room
  cases phase : state.phase with
  | looping =>
    rw [phase] at room
    have smaller := room tracked
    omega
  | racing awaited =>
    rw [phase] at room
    have shorter := room.2.2.1.length_le
    have exact_ := room.2.1
    omega
  | settling =>
    rw [phase] at room
    exact room.2 tracked
  | returned result =>
    rw [phase] at room
    exact room.2.1 tracked

theorem take_succ_of_getElem? {payloads : List Payload} {index : Nat} {payload : Payload}
    (found : payloads[index]? = some payload) : payloads.take (index + 1) = payloads.take index ++ [payload] := by
  rw [List.take_add_one,found]
  rfl

theorem Sound.iterate (sound : Sound setting state) (looping : state.phase = .looping) {payload : Payload}
    (found : setting.payloads[state.tasks.length]? = some payload) : Sound setting (state.iterate setting payload) := by
  have room := sound.room
  rw [looping] at room
  have taken := take_succ_of_getElem? found
  have absent : setting.tracked = true → state.tasks.length ∉ state.runningPromises := by
    intro tracked listed
    obtain ⟨task,at_,_⟩ := ((sound.running tracked).2 _).mp listed
    have bound := (List.getElem?_eq_some_iff.mp at_).1
    omega
  have cases_ : ∀ (index : Nat) task, (state.iterate setting payload).tasks[index]? = some task →
      state.tasks[index]? = some task ∨ index = state.tasks.length ∧ task = ⟨payload,none,false,false⟩ :=
    fun _ _ at_ => Parties.getElem?_joined at_
  refine ⟨?_,?_,?_,?_,?_,?_,?_,?_,?_⟩
  · simp [State.iterate,sound.payloads,taken]
  · simp only [State.iterate]
    split
    · rename_i direct
      rw [List.length_append,List.length_singleton,sound.direct direct,taken,← sound.direct direct,← sound.calls]
    · exact sound.calls
  · have before := sound.called
    simp only [State.iterate,List.length_append,List.length_singleton]
    split
    · rw [List.length_append,List.length_singleton]
      omega
    · omega
  · intro direct
    simp [State.iterate,direct,sound.direct direct]
  · intro index task at_ given
    have longer : state.calls.length ≤ (state.iterate setting payload).calls.length := by
      simp only [State.iterate]
      split <;> simp
    rcases cases_ index task at_ with old | ⟨_,rfl⟩
    · have before := sound.settled index task old given
      omega
    · exact absurd rfl given
  · intro task member
    rcases List.mem_append.mp member with old | last
    · exact sound.reactions task old
    · rw [List.mem_singleton.mp last]
      exact ⟨fun never => Bool.noConfusion never,fun never => Bool.noConfusion never⟩
  · simp only [State.iterate]
    split
    · rename_i tracked
      exact List.nodup_append.mpr ⟨sound.distinct,List.nodup_singleton _,fun index inside other last same =>
        absent tracked (by rwa [← List.mem_singleton.mp last,← same])⟩
    · exact sound.distinct
  · intro tracked
    obtain ⟨count,listed⟩ := sound.running tracked
    refine ⟨?_,fun index => ?_⟩
    · simp [State.iterate,tracked,count,Task.waiting]
    · simp only [State.iterate,tracked,if_true,List.mem_append,List.mem_singleton,listed]
      constructor
      · rintro (⟨task,at_,waiting⟩ | rfl)
        · refine ⟨task,?_,waiting⟩
          rw [List.getElem?_append_left (List.getElem?_eq_some_iff.mp at_).1]
          exact at_
        · exact ⟨⟨payload,none,false,false⟩,by simp,rfl⟩
      · rintro ⟨task,at_,waiting⟩
        rcases cases_ index task at_ with old | ⟨last,_⟩
        · exact Or.inl ⟨task,old,waiting⟩
        · exact Or.inr last
  · cases tracked : setting.tracked with
    | false => simp [State.iterate,tracked,Room]
    | true =>
      have before := room tracked
      obtain ⟨_,listed⟩ := sound.running tracked
      by_cases full : setting.limit ≤ ((state.runningPromises ++ [state.tasks.length]).length : Int)
      · simp only [State.iterate,tracked,if_true,Bool.true_and,full,decide_true,Room]
        rw [List.length_append,List.length_singleton] at full
        refine ⟨trivial,?_,List.Sublist.refl _,fun index member => ?_⟩
        · rw [List.length_append,List.length_singleton]
          omega
        · rw [List.length_append,List.length_singleton]
          rcases List.mem_append.mp member with old | last
          · obtain ⟨task,at_,_⟩ := (listed index).mp old
            have bound := (List.getElem?_eq_some_iff.mp at_).1
            omega
          · rw [List.mem_singleton.mp last]
            omega
      · simp only [State.iterate,tracked,if_true,Bool.true_and,full,decide_false,Bool.false_eq_true,if_false,Room]
        intro _
        omega

/-- What a phase leaves room for does not depend on more than the running promises and the outcomes. -/
theorem room_of_same {changed : State Payload Result Error} {phase : Phase Result Error}
    (room : Room setting state phase) (tasks : changed.tasks.length = state.tasks.length)
    (fewer : changed.runningPromises.Sublist state.runningPromises)
    (outcomes : ∀ result, phase = .returned result →
      changed.tasks.map Task.outcome = state.tasks.map Task.outcome) : Room setting changed phase := by
  have shorter := fewer.length_le
  cases phase with
  | looping =>
    intro tracked
    have before := room tracked
    omega
  | racing awaited =>
    obtain ⟨tracked,exact_,running,small⟩ := room
    exact ⟨tracked,exact_,fewer.trans running,fun index member => tasks ▸ small index member⟩
  | settling =>
    obtain ⟨all,bound⟩ := room
    refine ⟨tasks.trans all,fun tracked => ?_⟩
    have before := bound tracked
    omega
  | returned result =>
    obtain ⟨all,bound,results,same,returned⟩ := room
    refine ⟨tasks.trans all,fun tracked => ?_,results,(outcomes result rfl).trans same,returned⟩
    have before := bound tracked
    omega

theorem Sound.invoke (sound : Sound setting state) {task : Task Payload Result Error}
    (found : state.tasks[state.calls.length]? = some task) :
    Sound setting {state with calls := state.calls ++ [task.payload]} := by
  have bound := (List.getElem?_eq_some_iff.mp found).1
  have payload : setting.payloads[state.calls.length]? = some task.payload := by
    have at_ := congrArg (fun payloads => payloads[state.calls.length]?) sound.payloads
    simp only [List.getElem?_map,found,List.getElem?_take,bound,if_true,Option.map_some] at at_
    exact at_.symm
  refine ⟨sound.payloads,?_,?_,?_,?_,sound.reactions,sound.distinct,sound.running,
    room_of_same sound.room rfl (List.Sublist.refl _) (fun _ _ => rfl)⟩
  · rw [List.length_append,List.length_singleton,take_succ_of_getElem? payload,← sound.calls]
  · rw [List.length_append,List.length_singleton]
    exact bound
  · intro direct
    have all := sound.direct direct
    omega
  · intro index other at_ given
    have before := sound.settled index other at_ given
    rw [List.length_append,List.length_singleton]
    omega

/-- What a change of one task keeps, whether or not it is still waited for. -/
theorem Sound.tasks_kept (sound : Sound setting state) {index : Nat} {task changed : Task Payload Result Error}
    (found : state.tasks[index]? = some task) (payload : changed.payload = task.payload)
    (called : changed.outcome ≠ none → index < state.calls.length)
    (reacted : (changed.spliced = true → changed.outcome ≠ none) ∧ (changed.released = true → changed.spliced = true)) :
    (state.tasks.set index changed).map Task.payload =
        setting.payloads.take (state.tasks.set index changed).length ∧
      (∀ (position : Nat) other, (state.tasks.set index changed)[position]? = some other → other.outcome ≠ none →
        position < state.calls.length) ∧
      ∀ other ∈ state.tasks.set index changed, (other.spliced = true → other.outcome ≠ none) ∧
        (other.released = true → other.spliced = true) := by
  refine ⟨?_,?_,Parties.forall_mem_moved sound.reactions reacted⟩
  · rw [Parties.map_moved Task.payload found payload,List.length_set]
    exact sound.payloads
  · intro position other at_ given
    rcases Parties.getElem?_moved found at_ with ⟨rfl,rfl⟩ | ⟨_,old⟩
    · exact called given
    · exact sound.settled position other old given

/-- A promise settles, or its reaction's promise does: the task waits as long as before. -/
theorem Sound.change (sound : Sound setting state) {index : Nat} {task changed : Task Payload Result Error}
    (found : state.tasks[index]? = some task) (payload : changed.payload = task.payload)
    (waiting : changed.spliced = task.spliced) (called : changed.outcome ≠ none → index < state.calls.length)
    (reacted : (changed.spliced = true → changed.outcome ≠ none) ∧ (changed.released = true → changed.spliced = true))
    (outcome : ∀ result, state.phase = .returned result → changed.outcome = task.outcome) :
    Sound setting (state.change index changed) := by
  have length : (state.tasks.set index changed).length = state.tasks.length := List.length_set
  obtain ⟨payloads,settled,reactions⟩ := sound.tasks_kept found payload called reacted
  refine ⟨payloads,sound.calls,?_,?_,settled,reactions,sound.distinct,?_,?_⟩
  · simp only [State.change,length]
    exact sound.called
  · simp only [State.change,length]
    exact sound.direct
  · intro tracked
    obtain ⟨count,listed⟩ := sound.running tracked
    refine ⟨?_,fun position => ?_⟩
    · have moved := Parties.countP_moved Task.waiting changed found
      rw [show changed.waiting = task.waiting by rw [Task.waiting,Task.waiting,waiting]] at moved
      exact count.trans (Nat.add_right_cancel moved).symm
    · rw [State.change,listed]
      constructor
      · rintro ⟨other,at_,still⟩
        by_cases own : position = index
        · subst own
          rw [found] at at_
          cases at_
          exact ⟨changed,List.getElem?_set_self (List.getElem?_eq_some_iff.mp found).1,waiting.trans still⟩
        · exact ⟨other,Parties.getElem?_kept changed at_ own,still⟩
      · rintro ⟨other,at_,still⟩
        rcases Parties.getElem?_moved found at_ with ⟨rfl,rfl⟩ | ⟨_,old⟩
        · exact ⟨task,found,waiting.symm.trans still⟩
        · exact ⟨other,old,still⟩
  · refine room_of_same sound.room length (List.Sublist.refl _) (fun result returned => ?_)
    exact Parties.map_moved Task.outcome found (outcome result returned)

/-- The reaction finds its promise among the running ones, so it takes out that one. -/
theorem Sound.splice (sound : Sound setting state) {index : Nat} {task : Task Payload Result Error}
    (found : state.tasks[index]? = some task) (tracked : setting.tracked = true) (settled : task.outcome ≠ none)
    (waiting : task.spliced = false) :
    Sound setting {state.change index {task with spliced := true} with
      runningPromises := spliced state.runningPromises index} := by
  obtain ⟨count,listed⟩ := sound.running tracked
  have member : index ∈ state.runningPromises := (listed index).mpr ⟨task,found,waiting⟩
  have erased : spliced state.runningPromises index = state.runningPromises.erase index := if_pos member
  have length : (state.tasks.set index {task with spliced := true}).length = state.tasks.length := List.length_set
  rw [erased]
  obtain ⟨payloads,earlier,reactions⟩ := @Sound.tasks_kept _ _ _ setting state sound index task
    {task with spliced := true} found rfl (sound.settled index task found) ⟨fun _ => settled,fun _ => rfl⟩
  refine ⟨payloads,sound.calls,?_,?_,earlier,reactions,sound.distinct.erase index,
    fun _ => ⟨?_,fun position => ?_⟩,?_⟩
  · simp only [State.change,length]
    exact sound.called
  · simp only [State.change,length]
    exact sound.direct
  · have moved := Parties.countP_moved Task.waiting {task with spliced := true} found
    simp only [Task.waiting,waiting,Bool.not_false,Bool.not_true,if_true,Bool.false_eq_true,if_false] at moved
    simp only [State.change,List.length_erase_of_mem member]
    omega
  · rw [sound.distinct.mem_erase_iff,listed,State.change]
    constructor
    · rintro ⟨apart,other,at_,still⟩
      exact ⟨other,Parties.getElem?_kept _ at_ apart,still⟩
    · rintro ⟨other,at_,still⟩
      rcases Parties.getElem?_moved found at_ with ⟨rfl,rfl⟩ | ⟨apart,old⟩
      · cases still
      · exact ⟨apart,other,old,still⟩
  · exact room_of_same sound.room length List.erase_sublist (fun _ _ => Parties.map_moved Task.outcome found rfl)

/-- A promise of the race has settled, so its own place among the running ones is free. -/
theorem Sound.resume (sound : Sound setting state) {awaited : List Nat} (racing : state.phase = .racing awaited)
    (won : awaited.any (fun index => state.tasks[index]?.any Task.released) = true) :
    Sound setting {state with phase := .looping} := by
  obtain ⟨tracked,exact_,running,_⟩ := racing ▸ sound.room
  obtain ⟨index,member,released⟩ := List.any_eq_true.mp won
  obtain ⟨task,found,done⟩ := (Option.any_eq_true _ _).mp released
  have gone : index ∉ state.runningPromises := by
    intro still
    obtain ⟨other,at_,waiting⟩ := ((sound.running tracked).2 index).mp still
    rw [found] at at_
    cases at_
    rw [(sound.reactions task (List.mem_of_getElem? found)).2 done] at waiting
    cases waiting
  have shorter : state.runningPromises.length < awaited.length := by
    refine lt_of_le_of_ne running.length_le (fun same => gone ?_)
    rw [running.eq_of_length same]
    exact member
  refine ⟨sound.payloads,sound.calls,sound.called,sound.direct,sound.settled,sound.reactions,sound.distinct,
    sound.running,fun _ => ?_⟩
  simp only
  omega

theorem mapM_outcome {tasks : List (Task Payload Result Error)} {results : List (Except Error Result)} :
    tasks.mapM Task.outcome = some results ↔ tasks.map Task.outcome = results.map some := by
  induction tasks generalizing results with
  | nil => cases results <;> simp
  | cons task rest ih =>
    rw [List.mapM_cons]
    cases outcome : task.outcome with
    | none => cases results <;> simp [outcome]
    | some result =>
      simp only [Option.bind_eq_bind,Option.bind_some,Option.bind_eq_some_iff,Option.pure_def,Option.some.injEq,ih,
        List.map_cons,outcome]
      constructor
      · rintro ⟨others,same,rfl⟩
        rw [List.map_cons,same]
      · intro same
        cases results with
        | nil => cases same
        | cons first others =>
          obtain ⟨own,tail⟩ := List.cons.inj same
          exact ⟨others,tail,by rw [Option.some.inj own]⟩

theorem settled_outcomes {tasks : List (Task Payload Result Error)} (settled : ∀ task ∈ tasks, task.outcome ≠ none) :
    ∃ results : List (Except Error Result), tasks.map Task.outcome = results.map some := by
  induction tasks with
  | nil => exact ⟨[],rfl⟩
  | cons task rest ih =>
    obtain ⟨results,same⟩ := ih (fun other member => settled other (List.mem_cons_of_mem _ member))
    obtain ⟨result,outcome⟩ := Option.ne_none_iff_exists'.mp (settled task (List.mem_cons_self ..))
    exact ⟨result::results,by rw [List.map_cons,List.map_cons,outcome,same]⟩

theorem Sound.step {action : Action Result Error} (sound : Sound setting state)
    (taken : step setting state action = some next) : Sound setting next := by
  cases action with
  | iterate =>
    simp only [Limiter.step] at taken
    split at taken
    · rename_i looping
      obtain ⟨payload,found,rfl⟩ := Option.map_eq_some_iff.mp taken
      exact sound.iterate looping found
    · cases taken
  | invoke =>
    obtain ⟨task,found,rfl⟩ := Option.map_eq_some_iff.mp taken
    exact sound.invoke found
  | settle index outcome =>
    obtain ⟨task,found,moved⟩ := Option.bind_eq_some_iff.mp taken
    split at moved
    · rename_i pending
      cases moved
      refine sound.change found rfl rfl (fun _ => pending.1) ⟨fun _ given => (Option.some_ne_none _ given).elim,?_⟩ ?_
      · exact (sound.reactions task (List.mem_of_getElem? found)).2
      · intro result returned
        obtain ⟨_,_,outcomes,same,_⟩ := returned ▸ sound.room
        have at_ := congrArg (fun outcomes => outcomes[index]?) same
        simp only [List.getElem?_map,found,Option.map_some,pending.2] at at_
        cases other : outcomes[index]? with
        | none => simp [other] at at_
        | some outcome => simp [other] at at_
    · cases moved
  | splice index =>
    obtain ⟨task,found,moved⟩ := Option.bind_eq_some_iff.mp taken
    split at moved
    · rename_i ready
      cases moved
      exact sound.splice found ready.1 (Option.isSome_iff_ne_none.mp ready.2.1) ready.2.2
    · cases moved
  | release index =>
    obtain ⟨task,found,moved⟩ := Option.bind_eq_some_iff.mp taken
    split at moved
    · rename_i ready
      cases moved
      have reacted := sound.reactions task (List.mem_of_getElem? found)
      exact sound.change found rfl rfl (fun given => sound.settled index task found given)
        ⟨reacted.1,fun _ => ready.1⟩ (fun _ _ => rfl)
    · cases moved
  | resume =>
    simp only [Limiter.step] at taken
    split at taken
    · rename_i awaited racing
      split at taken
      · rename_i won
        cases taken
        exact sound.resume racing won
      · cases taken
    · cases taken
  | finish =>
    simp only [Limiter.step] at taken
    split at taken
    · rename_i looping
      split at taken
      · rename_i all
        cases taken
        exact ⟨sound.payloads,sound.calls,sound.called,sound.direct,sound.settled,sound.reactions,sound.distinct,
          sound.running,all,sound.runningBound⟩
      · cases taken
    · cases taken
  | deliver =>
    simp only [Limiter.step] at taken
    split at taken
    · rename_i settling
      obtain ⟨results,outcomes,rfl⟩ := Option.map_eq_some_iff.mp taken
      obtain ⟨all,bound⟩ := settling ▸ sound.room
      exact ⟨sound.payloads,sound.calls,sound.called,sound.direct,sound.settled,sound.reactions,sound.distinct,
        sound.running,all,bound,results,mapM_outcome.mp outcomes,rfl⟩
    · cases taken

theorem promiseAllDone_fulfilled (multiError : List Error → Error) (results : List Result) :
    promiseAllDone multiError (results.map Except.ok) = .ok results := by
  have none : (results.map (Except.ok (ε := Error))).filterMap
      (fun result => match result with | .error reason => some reason | .ok _ => none) = [] := by
    simp [List.filterMap_map]
  have all : (results.map (Except.ok (ε := Error))).filterMap Except.toOption = results := by
    simp [List.filterMap_map,Function.comp_def,Except.toOption]
  rw [promiseAllDone,none]
  simp only [all]

theorem promiseAllDone_rejected (multiError : List Error → Error) {results : List (Except Error Result)} {reason : Error}
    (member : .error reason ∈ results) : ∃ error, promiseAllDone multiError results = .error error := by
  unfold promiseAllDone
  split
  · rename_i none
    have listed := List.filterMap_eq_nil_iff.mp none _ member
    cases listed
  · exact ⟨_,rfl⟩
  · exact ⟨_,rfl⟩

theorem Sound.limited (sound : Sound setting state) : Limited setting state := by
  refine ⟨?_,?_,fun result returned => ?_⟩
  · rw [sound.calls]
    exact List.take_prefix _ _
  · have small := sound.small
    cases tracked : setting.tracked with
    | false =>
      -- Without a race there are fewer payloads than the limit.
      have all := List.countP_le_length (p := Task.unsettled) (l := state.tasks)
      have fewer : ¬setting.limit ≤ setting.payloads.length := of_decide_eq_false tracked
      omega
    | true =>
      have bound := sound.runningBound tracked
      obtain ⟨count,_⟩ := sound.running tracked
      have waiting : state.tasks.countP Task.unsettled ≤ state.tasks.countP Task.waiting := by
        refine List.countP_mono_left (fun task member unsettled => ?_)
        have reacted := (sound.reactions task member).1
        cases spliced : task.spliced with
        | false => simp [Task.waiting,spliced]
        | true => exact absurd (Option.isNone_iff_eq_none.mp unsettled) (reacted spliced)
      omega
  · obtain ⟨all,_,outcomes,same,rfl⟩ := returned ▸ sound.room
    have length : outcomes.length = setting.payloads.length := by
      have lengths := congrArg List.length same
      rw [List.length_map,List.length_map] at lengths
      exact lengths.symm.trans all
    refine ⟨?_,outcomes,same,length,?_,?_⟩
    · have called : setting.payloads.length ≤ state.calls.length := by
        by_contra more
        have inside : state.calls.length < state.tasks.length := by omega
        have at_ := congrArg (fun outcomes => outcomes[state.calls.length]?) same
        simp only [List.getElem?_map,List.getElem?_eq_getElem inside,Option.map_some] at at_
        have settled := sound.settled _ _ (List.getElem?_eq_getElem inside) (by
          intro none
          rw [none] at at_
          cases other : outcomes[state.calls.length]? with
          | none => simp [other] at at_
          | some outcome => simp [other] at at_)
        omega
      rw [sound.calls,List.take_of_length_le called]
    · rintro results rfl
      exact promiseAllDone_fulfilled setting.multiError results
    · rintro ⟨reason,member⟩
      exact promiseAllDone_rejected setting.multiError member

/-- Where a promise has not settled, its iterator can be called or it can settle. -/
theorem unsettled_goes_on (setting : Setting Payload Error) {index : Nat} {task : Task Payload Result Error}
    (found : state.tasks[index]? = some task) (unsettled : task.outcome = none) (outcome : Except Error Result) :
    ∃ action, (Limiter.step setting state action).isSome := by
  have bound := (List.getElem?_eq_some_iff.mp found).1
  by_cases called : index < state.calls.length
  · exact ⟨.settle index outcome,by simp [Limiter.step,found,called,unsettled]⟩
  · have inside : state.calls.length < state.tasks.length := by omega
    exact ⟨.invoke,by simp [Limiter.step,inside]⟩

theorem Sound.goes_on (sound : Sound setting state) (outcome : Except Error Result)
    (unfinished : ∀ result, state.phase ≠ .returned result) : ∃ action, (Limiter.step setting state action).isSome := by
  have room := sound.room
  cases phase : state.phase with
  | looping =>
    by_cases all : state.tasks.length = setting.payloads.length
    · exact ⟨.finish,by simp [Limiter.step,phase,all]⟩
    · have small := sound.small
      have more : state.tasks.length < setting.payloads.length := by omega
      exact ⟨.iterate,by simp [Limiter.step,phase,more]⟩
  | racing awaited =>
    rw [phase] at room
    obtain ⟨tracked,exact_,_,small⟩ := room
    have given : 0 < awaited.length := by omega
    obtain ⟨index,member⟩ := List.exists_mem_of_length_pos given
    obtain ⟨task,found⟩ : ∃ task, state.tasks[index]? = some task := ⟨_,List.getElem?_eq_getElem (small index member)⟩
    -- The first of the race goes through all its stages until the race is won.
    by_cases unsettled : task.outcome = none
    · exact unsettled_goes_on setting found unsettled outcome
    · cases spliced : task.spliced with
      | false =>
        have settled : task.outcome.isSome = true := Option.isSome_iff_ne_none.mpr unsettled
        exact ⟨.splice index,by simp [Limiter.step,found,tracked,spliced,settled]⟩
      | true =>
        cases released : task.released with
        | false => exact ⟨.release index,by simp [Limiter.step,found,spliced,released]⟩
        | true =>
          have won : awaited.any (fun index => state.tasks[index]?.any Task.released) = true :=
            List.any_eq_true.mpr ⟨index,member,by simp [found,released]⟩
          exact ⟨.resume,by simp only [Limiter.step,phase,won]; rfl⟩
  | settling =>
    cases outcomes : state.tasks.mapM Task.outcome with
    | some results => exact ⟨.deliver,by simp [Limiter.step,phase,outcomes]⟩
    | none =>
      obtain ⟨task,member,unsettled⟩ : ∃ task ∈ state.tasks, task.outcome = none := by
        by_contra none
        have settled : ∀ task ∈ state.tasks, task.outcome ≠ .none := fun task member same => none ⟨task,member,same⟩
        obtain ⟨results,same⟩ := settled_outcomes settled
        cases outcomes.symm.trans (mapM_outcome.mpr same)
      obtain ⟨index,found⟩ := List.mem_iff_getElem?.mp member
      exact unsettled_goes_on setting found unsettled outcome
  | returned result => exact absurd phase (unfinished result)

/-- The settling, the reaction and its release that are still to come for a task. -/
def Task.left (task : Task Payload Result Error) : Nat :=
  (if task.outcome.isNone then 1 else 0) + (if task.spliced then 0 else 1) + if task.released then 0 else 1

def Phase.left : Phase Result Error → Nat
  | .racing _ => 3
  | .looping => 2
  | .settling => 1
  | .returned _ => 0

theorem Phase.left_le (phase : Phase Result Error) : phase.left ≤ 3 := by
  cases phase <;> simp [Phase.left]

/-- A bound for the steps still to come. -/
def rank (setting : Setting Payload Error) (state : State Payload Result Error) : Nat :=
  5 * (setting.payloads.length - state.tasks.length) + (setting.payloads.length - state.calls.length) +
    (state.tasks.map Task.left).sum + state.phase.left

theorem rank_change {index : Nat} {task changed : Task Payload Result Error} (found : state.tasks[index]? = some task)
    (less : changed.left < task.left) (runningPromises : List Nat) :
    rank setting {state.change index changed with runningPromises := runningPromises} < rank setting state := by
  have moved := Parties.sum_moved Task.left changed found
  simp only [rank,State.change,List.length_set]
  omega

theorem Sound.lowers {action : Action Result Error} (sound : Sound setting state)
    (taken : Limiter.step setting state action = some next) : rank setting next < rank setting state := by
  have small := sound.small
  have called := sound.called
  cases action with
  | iterate =>
    simp only [Limiter.step] at taken
    split at taken
    · rename_i looping
      obtain ⟨payload,found,rfl⟩ := Option.map_eq_some_iff.mp taken
      have more := (List.getElem?_eq_some_iff.mp found).1
      have new : Task.left (⟨payload,none,false,false⟩ : Task Payload Result Error) = 3 := rfl
      have before : state.phase.left = 2 := congrArg Phase.left looping
      have phase := (state.iterate setting payload).phase.left_le
      have calls : state.calls.length ≤ (state.iterate setting payload).calls.length := by
        simp only [State.iterate]
        split <;> simp
      have tasks : (state.iterate setting payload).tasks = state.tasks ++ [⟨payload,none,false,false⟩] := rfl
      simp only [rank,tasks,List.length_append,List.length_singleton,Parties.sum_joined,new]
      omega
    · cases taken
  | invoke =>
    obtain ⟨task,found,rfl⟩ := Option.map_eq_some_iff.mp taken
    have more := (List.getElem?_eq_some_iff.mp found).1
    simp only [rank,List.length_append,List.length_singleton]
    omega
  | settle index outcome =>
    obtain ⟨task,found,moved⟩ := Option.bind_eq_some_iff.mp taken
    split at moved
    · rename_i pending
      cases moved
      exact rank_change found (by simp [Task.left,pending.2]) _
    · cases moved
  | splice index =>
    obtain ⟨task,found,moved⟩ := Option.bind_eq_some_iff.mp taken
    split at moved
    · rename_i ready
      cases moved
      exact rank_change found (by simp [Task.left,ready.2.2]) _
    · cases moved
  | release index =>
    obtain ⟨task,found,moved⟩ := Option.bind_eq_some_iff.mp taken
    split at moved
    · rename_i ready
      cases moved
      exact rank_change found (by simp [Task.left,ready.2]) _
    · cases moved
  | resume =>
    simp only [Limiter.step] at taken
    split at taken
    · rename_i awaited racing
      split at taken
      · cases taken
        simp [rank,racing,Phase.left]
      · cases taken
    · cases taken
  | finish =>
    simp only [Limiter.step] at taken
    split at taken
    · rename_i looping
      split at taken
      · cases taken
        simp [rank,looping,Phase.left]
      · cases taken
    · cases taken
  | deliver =>
    simp only [Limiter.step] at taken
    split at taken
    · rename_i settling
      obtain ⟨results,_,rfl⟩ := Option.map_eq_some_iff.mp taken
      simp [rank,settling,Phase.left]
    · cases taken

end

/-- In every order of steps the limit is kept and the promise returned after all others; no run is endless, and one
that cannot go on has returned. -/
theorem limiter_limits [Inhabited Error] (setting : Setting Payload Error) (actions : List (Action Result Error))
    (state : State Payload Result Error)
    (reached : Transition.run (step setting) State.initial actions = some state) :
    Limited setting state ∧ actions.length ≤ 6 * setting.payloads.length + 2 ∧
      ((∀ action, step setting state action = none) → ∃ result, state.phase = .returned result) := by
  have sound := Transition.invariant (step setting) (fun _ _ => True) (Sound setting)
    (fun _ _ _ sound _ taken => sound.step taken) State.initial state actions initial_sound
    (Transition.along_true (step setting) State.initial actions) reached
  have short := Transition.run_length_le_rank (step setting) (Sound setting) (rank setting)
    (fun _ _ _ sound taken => sound.step taken) (fun _ _ _ sound taken => sound.lowers taken) State.initial state actions
    initial_sound reached
  have start : rank setting (State.initial : State Payload Result Error) = 6 * setting.payloads.length + 2 := by
    simp only [rank,State.initial,List.length_nil,List.map_nil,List.sum_nil,Phase.left]
    omega
  refine ⟨sound.limited,by omega,fun stuck => ?_⟩
  by_contra unfinished
  obtain ⟨action,enabled⟩ := sound.goes_on (.error default) (fun result returned => unfinished ⟨result,returned⟩)
  rw [stuck action] at enabled
  cases enabled

def oneAtATime : Setting String String := ⟨1,["k1","k2"],true,fun _ => "several errors"⟩

/-- The second promise rejects, and its reaction comes after the one of the first. -/
def secondRejects : List (Action Nat String) :=
  [.iterate,.settle 0 (.ok 1),.splice 0,.release 0,.resume,.iterate,.settle 1 (.error "failed"),.splice 1,.release 1,
    .resume,.finish,.deliver]

theorem limiter_limits_one_at_a_time : ∃ state, Transition.run (step oneAtATime) State.initial secondRejects = some state ∧
    Limited oneAtATime state ∧ secondRejects.length ≤ 6 * oneAtATime.payloads.length + 2 ∧
      ((∀ action, step oneAtATime state action = none) → ∃ result, state.phase = .returned result) := by
  obtain ⟨state,reached⟩ := Option.isSome_iff_exists.mp
    (show (Transition.run (step oneAtATime) State.initial secondRejects).isSome = true by decide)
  exact ⟨state,reached,limiter_limits oneAtATime secondRejects state reached⟩

end EventQueue.Limiter

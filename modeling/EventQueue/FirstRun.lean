import EventQueue.Lib.ExpiringStore
import EventQueue.Lib.Transition
import Mathlib.Data.Int.ModEq
import Mathlib.Tactic

/-! `_calculateOffsetForFirstRun` of instances that share one Redis: the first to find no run timestamp stores the
time of its call, the others take over what they read. The key expires after one interval and nothing renews it.
Every step is a command on Redis; the instances interleave in any order. -/
namespace EventQueue.FirstRun
open ExpiringStore

def EVENT_QUEUE_RUN_TS : String := "RUN_TS"

inductive Stage
  | reading
  /-- No timestamp was found. -/
  | missed
  /-- The timestamp was stored by another instance in between. -/
  | refused
  | scheduled (lastRunTs : Nat)
  deriving DecidableEq

structure Instance where
  now : Nat
  stage : Stage
  deriving DecidableEq

structure State where
  clock : Nat
  redis : Store String Nat
  instances : List Instance

inductive Action
  | wait (time : Nat)
  | call
  | get (index : Nat)
  | setNX (index : Nat)
  | getAgain (index : Nat)

def State.initial : State := ⟨0,fun _ => none,[]⟩

def State.setStage (state : State) (index : Nat) (caller : Instance) (stage : Stage) : State :=
  {state with instances := state.instances.set index {caller with stage := stage}}

def State.read (state : State) : Option Nat := (purge state.redis state.clock EVENT_QUEUE_RUN_TS).map Item.value

variable (runInterval : Nat)

/-- `setValueWithExpire` of the run timestamp. -/
def State.store (state : State) (caller : Instance) : Bool × Store String Nat :=
  setNX (expire state.redis state.clock EVENT_QUEUE_RUN_TS) EVENT_QUEUE_RUN_TS
    ⟨caller.now,state.clock + runInterval⟩

def step (state : State) : Action → Option State
  | .wait time => some {state with clock := state.clock + time}
  | .call => some {state with instances := state.instances ++ [⟨state.clock,.reading⟩]}
  | .get index => state.instances[index]?.bind (fun caller =>
    match caller.stage with
    | .reading => some (state.setStage index caller
        (match state.read with
        | some lastRunTs => .scheduled lastRunTs
        | none => .missed))
    | _ => none)
  | .setNX index => state.instances[index]?.bind (fun caller =>
    match caller.stage with
    | .missed =>
      let written := state.store runInterval caller
      some {state.setStage index caller (if written.1 then .scheduled caller.now else .refused) with
        redis := written.2}
    | _ => none)
  -- `new Date(null)` is the start of the epoch.
  | .getAgain index => state.instances[index]?.bind (fun caller =>
    match caller.stage with
    | .refused => some (state.setStage index caller (.scheduled (state.read.getD 0)))
    | _ => none)

def Instance.offset (caller : Instance) : Option Int :=
  match caller.stage with
  | .scheduled lastRunTs => some (lastRunTs + runInterval - caller.now)
  | _ => none

/-- The first runs are congruent modulo the interval, and none is later than one interval after its call. -/
def InPhase (state : State) : Prop :=
  (∀ first ∈ state.instances, ∀ second ∈ state.instances, ∀ offset other, first.offset runInterval = some offset →
    second.offset runInterval = some other → first.now + offset ≡ second.now + other [ZMOD runInterval]) ∧
  ∀ caller ∈ state.instances, ∀ offset, caller.offset runInterval = some offset →
    caller.now + offset ≤ caller.now + runInterval

/-- What a command has to meet: the timestamp it reads is not younger than the call; a timestamp that replaces an
expired one is in phase with it; and it has not expired between the refused SET and the following GET, unless it is
in phase with the epoch. -/
def KeepsPhase (state : State) : Action → Prop
  | .get index => ∀ caller, state.instances[index]? = some caller → caller.stage = .reading →
    ∀ lastRunTs, state.read = some lastRunTs → lastRunTs ≤ caller.now
  | .setNX index => ∀ caller, state.instances[index]? = some caller → caller.stage = .missed →
    ∀ item, state.redis EVENT_QUEUE_RUN_TS = some item → item.deadline ≤ state.clock →
      item.value ≡ caller.now [MOD runInterval]
  | .getAgain index => ∀ caller, state.instances[index]? = some caller → caller.stage = .refused →
    ∀ item, state.redis EVENT_QUEUE_RUN_TS = some item →
      if item.deadline ≤ state.clock then item.value ≡ 0 [MOD runInterval] else item.value ≤ caller.now
  | _ => True

/-- The timestamp stored last, whether or not it has expired. -/
def State.stored (state : State) : Option Nat := (state.redis EVENT_QUEUE_RUN_TS).map Item.value

/-- All timestamps handed out are in phase with the one stored last, which some instance has stored. -/
structure Phased (state : State) : Prop where
  creator : ∀ lastRunTs, state.stored = some lastRunTs →
    ∃ caller ∈ state.instances, caller.stage = .scheduled lastRunTs
  present : ∀ caller ∈ state.instances, (caller.stage = .refused ∨ ∃ lastRunTs, caller.stage = .scheduled lastRunTs) →
    ∃ stored, state.stored = some stored
  congruent : ∀ caller ∈ state.instances, ∀ lastRunTs, caller.stage = .scheduled lastRunTs →
    lastRunTs ≤ caller.now ∧ ∀ stored, state.stored = some stored → lastRunTs ≡ stored [MOD runInterval]

variable {runInterval}

theorem Instance.offset_some {caller : Instance} {offset : Int} (given : caller.offset runInterval = some offset) :
    ∃ lastRunTs, caller.stage = .scheduled lastRunTs ∧ caller.now + offset = lastRunTs + runInterval := by
  unfold Instance.offset at given
  split at given
  · rename_i lastRunTs stage
    cases given
    exact ⟨lastRunTs,stage,by ring⟩
  · cases given

theorem Instance.offset_scheduled {caller : Instance} {lastRunTs : Nat} (stage : caller.stage = .scheduled lastRunTs) :
    caller.offset runInterval = some ((lastRunTs : Int) + runInterval - caller.now) := by
  simp [Instance.offset,stage]

theorem Phased.inPhase {state : State} (phased : Phased runInterval state) : InPhase runInterval state := by
  constructor
  · intro first member second other offset another given also
    obtain ⟨lastRunTs,stage,instant⟩ := Instance.offset_some given
    obtain ⟨anotherTs,anotherStage,anotherInstant⟩ := Instance.offset_some also
    obtain ⟨stored,known⟩ := phased.present first member (Or.inr ⟨_,stage⟩)
    have one := (phased.congruent first member _ stage).2 stored known
    have two := (phased.congruent second other _ anotherStage).2 stored known
    rw [instant,anotherInstant]
    exact (Int.natCast_modEq_iff.mpr (one.trans two.symm)).add_right _
  · intro caller member offset given
    obtain ⟨lastRunTs,stage,instant⟩ := Instance.offset_some given
    have early := (phased.congruent caller member _ stage).1
    omega

theorem InPhase.timestamps {state : State} (inPhase : InPhase runInterval state) {first second : Instance}
    (member : first ∈ state.instances) (other : second ∈ state.instances) {lastRunTs another : Nat}
    (stage : first.stage = .scheduled lastRunTs) (also : second.stage = .scheduled another) :
    lastRunTs ≡ another [MOD runInterval] := by
  have instants := inPhase.1 first member second other _ _ (Instance.offset_scheduled stage)
    (Instance.offset_scheduled also)
  have moved : (lastRunTs : Int) + runInterval ≡ another + runInterval [ZMOD runInterval] := by
    convert instants using 1 <;> ring
  exact Int.natCast_modEq_iff.mp (Int.ModEq.add_right_cancel' _ moved)

theorem InPhase.early {state : State} (inPhase : InPhase runInterval state) {caller : Instance}
    (member : caller ∈ state.instances) {lastRunTs : Nat} (stage : caller.stage = .scheduled lastRunTs) :
    lastRunTs ≤ caller.now := by
  have bound := inPhase.2 caller member _ (Instance.offset_scheduled stage)
  omega

section
variable {state : State} {index : Nat} {caller : Instance}

theorem read_eq_none : state.read = none ↔
    ∀ item, state.redis EVENT_QUEUE_RUN_TS = some item → item.deadline ≤ state.clock := by
  rw [State.read,Option.map_eq_none_iff,purge_none]

theorem read_eq_some {lastRunTs : Nat} : state.read = some lastRunTs ↔
    ∃ item, state.redis EVENT_QUEUE_RUN_TS = some item ∧ state.clock < item.deadline ∧ item.value = lastRunTs := by
  simp only [State.read,Option.map_eq_some_iff,purge_some,and_assoc]

theorem read_present {item : Item Nat} (present : state.redis EVENT_QUEUE_RUN_TS = some item) :
    state.read = if item.deadline ≤ state.clock then none else some item.value := by
  split
  · rename_i expired
    refine read_eq_none.mpr (fun other same => ?_)
    cases present.symm.trans same
    exact expired
  · rename_i valid
    exact read_eq_some.mpr ⟨item,present,by omega,rfl⟩

theorem read_stored {lastRunTs : Nat} (found : state.read = some lastRunTs) : state.stored = some lastRunTs := by
  obtain ⟨item,present,_,same⟩ := read_eq_some.mp found
  simp [State.stored,present,same]

theorem store_created (runInterval : Nat) (caller : Instance) (absent : state.read = none) :
    (state.store runInterval caller).1 = true ∧
      (state.store runInterval caller).2 EVENT_QUEUE_RUN_TS = some ⟨caller.now,state.clock + runInterval⟩ := by
  have dropped : expire state.redis state.clock EVENT_QUEUE_RUN_TS EVENT_QUEUE_RUN_TS = none := by
    simpa [expire,Option.filter_eq_none_iff] using read_eq_none.mp absent
  simp [State.store,setNX,dropped]

theorem store_refused (runInterval : Nat) (caller : Instance) {lastRunTs : Nat} (found : state.read = some lastRunTs) :
    (state.store runInterval caller).1 = false ∧
      (state.store runInterval caller).2 EVENT_QUEUE_RUN_TS = state.redis EVENT_QUEUE_RUN_TS := by
  obtain ⟨item,present,future,_⟩ := read_eq_some.mp found
  have kept := expire_keeps present future
  simp [State.store,setNX,kept,present]

theorem setStage_mem {state : State} {index : Nat} {caller : Instance} (stage : Stage)
    (found : state.instances[index]? = some caller) :
    {caller with stage := stage} ∈ (state.setStage index caller stage).instances :=
  List.mem_set (List.getElem?_eq_some_iff.mp found).1 _

theorem setStage_scheduled {state : State} {index : Nat} {caller other : Instance} (stage : Stage)
    (found : state.instances[index]? = some caller) (pending : ∀ lastRunTs, caller.stage ≠ .scheduled lastRunTs)
    (member : other ∈ state.instances) {lastRunTs : Nat} (own : other.stage = .scheduled lastRunTs) :
    other ∈ (state.setStage index caller stage).instances := by
  obtain ⟨position,at_⟩ := List.mem_iff_getElem?.mp member
  have apart : position ≠ index := by
    intro same
    rw [same,found] at at_
    cases at_
    exact pending lastRunTs own
  exact List.mem_of_getElem? (by rw [State.setStage,List.getElem?_set_ne apart.symm]; exact at_)

theorem Phased.moved (phased : Phased runInterval state) (found : state.instances[index]? = some caller)
    (pending : ∀ lastRunTs, caller.stage ≠ .scheduled lastRunTs) {stage : Stage} {next : State}
    (instances : next.instances = state.instances.set index {caller with stage := stage})
    (stored : next.stored = state.stored) (refused : stage = .refused → ∃ stored, state.stored = some stored)
    (scheduled : ∀ lastRunTs, stage = .scheduled lastRunTs → lastRunTs ≤ caller.now ∧
      ∃ stored, state.stored = some stored ∧ lastRunTs ≡ stored [MOD runInterval]) : Phased runInterval next := by
  constructor
  · intro lastRunTs known
    rw [stored] at known
    obtain ⟨other,member,own⟩ := phased.creator lastRunTs known
    refine ⟨other,?_,own⟩
    rw [instances]
    exact setStage_scheduled stage found pending member own
  · intro other member settled
    rw [instances] at member
    rw [stored]
    obtain before | rfl := List.mem_or_eq_of_mem_set member
    · exact phased.present other before settled
    · obtain isRefused | ⟨lastRunTs,isScheduled⟩ := settled
      · exact refused isRefused
      · obtain ⟨_,known,present,_⟩ := scheduled lastRunTs isScheduled
        exact ⟨known,present⟩
  · intro other member lastRunTs own
    rw [instances] at member
    rw [stored]
    obtain before | rfl := List.mem_or_eq_of_mem_set member
    · exact phased.congruent other before lastRunTs own
    · obtain ⟨early,known,present,same⟩ := scheduled lastRunTs own
      refine ⟨early,fun another also => ?_⟩
      cases present.symm.trans also
      exact same

/-- An instance stores the time of its call, in phase with an expired timestamp. -/
theorem Phased.created (phased : Phased runInterval state) (found : state.instances[index]? = some caller)
    (inPhase : ∀ stored, state.stored = some stored → stored ≡ caller.now [MOD runInterval]) {next : State}
    (instances : next.instances = state.instances.set index {caller with stage := .scheduled caller.now})
    (stored : next.stored = some caller.now) : Phased runInterval next := by
  have small := (List.getElem?_eq_some_iff.mp found).1
  constructor
  · intro lastRunTs known
    rw [stored] at known
    cases known
    refine ⟨{caller with stage := .scheduled caller.now},?_,rfl⟩
    rw [instances]
    exact List.mem_set small _
  · exact fun _ _ _ => ⟨_,stored⟩
  · intro other member lastRunTs own
    rw [instances] at member
    rw [stored]
    obtain before | rfl := List.mem_or_eq_of_mem_set member
    · obtain ⟨known,present⟩ := phased.present other before (Or.inr ⟨lastRunTs,own⟩)
      obtain ⟨early,same⟩ := phased.congruent other before lastRunTs own
      refine ⟨early,fun another also => ?_⟩
      cases also
      exact (same known present).trans (inPhase known present)
    · cases own
      refine ⟨le_refl _,fun another also => ?_⟩
      cases also
      rfl

theorem Phased.call (phased : Phased runInterval state) :
    Phased runInterval {state with instances := state.instances ++ [⟨state.clock,.reading⟩]} := by
  have old : ∀ caller, caller ∈ state.instances ++ [⟨state.clock,.reading⟩] → caller.stage ≠ .reading →
      caller ∈ state.instances := by
    intro caller member settled
    obtain before | new := List.mem_append.mp member
    · exact before
    · rw [List.mem_singleton] at new
      exact absurd (congrArg Instance.stage new) settled
  constructor
  · intro lastRunTs known
    obtain ⟨caller,member,own⟩ := phased.creator lastRunTs known
    exact ⟨caller,List.mem_append_left _ member,own⟩
  · intro caller member settled
    refine phased.present caller (old caller member ?_) settled
    intro reading
    simp [reading] at settled
  · intro caller member lastRunTs own
    exact phased.congruent caller (old caller member (by simp [own])) lastRunTs own

theorem Phased.get (phased : Phased runInterval state) (found : state.instances[index]? = some caller)
    (reading : caller.stage = .reading) (keeps : KeepsPhase runInterval state (.get index)) :
    Phased runInterval (state.setStage index caller
      (match state.read with
      | some lastRunTs => .scheduled lastRunTs
      | none => .missed)) := by
  refine phased.moved found (by simp [reading]) rfl rfl ?_ ?_
  · intro refused
    cases read : state.read <;> simp [read] at refused
  · intro lastRunTs own
    cases read : state.read with
    | none => simp [read] at own
    | some known =>
      simp only [read,Stage.scheduled.injEq] at own
      subst own
      exact ⟨keeps caller found reading known read,known,read_stored read,rfl⟩

theorem Phased.setNX (phased : Phased runInterval state) (found : state.instances[index]? = some caller)
    (missed : caller.stage = .missed) (keeps : KeepsPhase runInterval state (.setNX index)) :
    Phased runInterval {state.setStage index caller
      (if (state.store runInterval caller).1 then .scheduled caller.now else .refused) with
        redis := (state.store runInterval caller).2} := by
  cases read : state.read with
  | none =>
    obtain ⟨created,written⟩ := store_created runInterval caller read
    refine phased.created found ?_ ?_ ?_
    · intro stored known
      obtain ⟨item,present,rfl⟩ := Option.map_eq_some_iff.mp known
      exact keeps caller found missed item present (read_eq_none.mp read item present)
    · simp [State.setStage,created]
    · simp [State.stored,written]
  | some lastRunTs =>
    obtain ⟨kept,unchanged⟩ := store_refused runInterval caller read
    refine phased.moved found (by simp [missed]) rfl ?_ ?_ ?_
    · simp [State.stored,unchanged]
    · exact fun _ => ⟨lastRunTs,read_stored read⟩
    · intro another own
      simp [kept] at own

theorem Phased.getAgain (phased : Phased runInterval state) (found : state.instances[index]? = some caller)
    (refused : caller.stage = .refused) (keeps : KeepsPhase runInterval state (.getAgain index)) :
    Phased runInterval (state.setStage index caller (.scheduled (state.read.getD 0))) := by
  obtain ⟨stored,known⟩ := phased.present caller (List.mem_of_getElem? found) (Or.inl refused)
  obtain ⟨item,present,rfl⟩ := Option.map_eq_some_iff.mp known
  have condition := keeps caller found refused item present
  refine phased.moved found (by simp [refused]) rfl rfl (by simp) ?_
  intro lastRunTs own
  rw [Stage.scheduled.injEq,read_present present] at own
  subst own
  refine ⟨?_,_,known,?_⟩
  · split at condition
    · rename_i expired
      simp [expired]
    · rename_i valid
      simpa [valid] using condition
  · split at condition
    · rename_i expired
      simpa [expired] using condition.symm
    · rename_i valid
      simp [valid,Nat.ModEq]

end

theorem Phased.step {state next : State} {action : Action} (phased : Phased runInterval state)
    (keeps : KeepsPhase runInterval state action) (taken : step runInterval state action = some next) :
    Phased runInterval next := by
  cases action with
  | wait time =>
    cases taken
    exact ⟨phased.creator,phased.present,phased.congruent⟩
  | call =>
    cases taken
    exact phased.call
  | get index =>
    obtain ⟨caller,found,taken⟩ := Option.bind_eq_some_iff.mp taken
    split at taken
    · rename_i reading
      cases taken
      exact phased.get found reading keeps
    · cases taken
  | setNX index =>
    obtain ⟨caller,found,taken⟩ := Option.bind_eq_some_iff.mp taken
    split at taken
    · rename_i missed
      cases taken
      exact phased.setNX found missed keeps
    · cases taken
  | getAgain index =>
    obtain ⟨caller,found,taken⟩ := Option.bind_eq_some_iff.mp taken
    split at taken
    · rename_i refused
      cases taken
      exact phased.getAgain found refused keeps
    · cases taken

/-- The condition is needed: without it the next state is out of phase. -/
theorem keepsPhase_needed {state next : State} {action : Action} (phased : Phased runInterval state)
    (taken : step runInterval state action = some next) (inPhase : InPhase runInterval next) :
    KeepsPhase runInterval state action := by
  cases action with
  | wait time => trivial
  | call => trivial
  | get index =>
    intro caller found reading lastRunTs read
    simp only [step,found,Option.bind_some,reading,read,Option.some.injEq] at taken
    subst taken
    exact inPhase.early (setStage_mem (.scheduled lastRunTs) found) rfl
  | setNX index =>
    intro caller found missed item present expired
    have read : state.read = none := by rw [read_present present,if_pos expired]
    have created := (store_created runInterval caller read).1
    simp only [step,found,Option.bind_some,missed,created,if_true,Option.some.injEq] at taken
    subst taken
    obtain ⟨other,member,own⟩ := phased.creator item.value (by simp [State.stored,present])
    exact inPhase.timestamps (setStage_scheduled (.scheduled caller.now) found (by simp [missed]) member own)
      (setStage_mem (.scheduled caller.now) found) own rfl
  | getAgain index =>
    intro caller found refused item present
    simp only [step,found,Option.bind_some,refused,read_present present,Option.some.injEq] at taken
    subst taken
    split
    · rename_i expired
      simp only [expired,if_true,Option.getD_none] at inPhase
      obtain ⟨other,member,own⟩ := phased.creator item.value (by simp [State.stored,present])
      exact inPhase.timestamps (setStage_scheduled (.scheduled 0) found (by simp [refused]) member own)
        (setStage_mem (.scheduled 0) found) own rfl
    · rename_i valid
      simp only [valid,if_false,Option.getD_some] at inPhase
      exact inPhase.early (setStage_mem (.scheduled item.value) found) rfl

theorem keepsPhase_refused (state : State) (action : Action) (refused : step runInterval state action = none) :
    KeepsPhase runInterval state action := by
  cases action with
  | wait time => trivial
  | call => trivial
  | get index =>
    intro caller found stage
    simp [step,found,stage] at refused
  | setNX index =>
    intro caller found stage
    simp [step,found,stage] at refused
  | getAgain index =>
    intro caller found stage
    simp [step,found,stage] at refused

theorem initial_phased : Phased runInterval .initial := by
  constructor
  · intro lastRunTs known
    cases known
  · intro caller member
    cases member
  · intro caller member
    cases member

/-- All first runs of a run are in phase iff each of its commands keeps the phase. -/
theorem first_runs_in_phase_iff (runInterval : Nat) (actions : List Action) :
    (∀ first state, first <+: actions → Transition.run (step runInterval) .initial first = some state →
      InPhase runInterval state) ↔
      Transition.Along (step runInterval) (KeepsPhase runInterval) .initial actions :=
  Transition.always_iff_along (step runInterval) (KeepsPhase runInterval) (Phased runInterval) (InPhase runInterval)
    (fun _ phased => phased.inPhase) keepsPhase_refused (fun _ _ _ phased taken => keepsPhase_needed phased taken)
    (fun _ _ _ phased keeps taken => phased.step keeps taken) .initial actions initial_phased

/-- A second instance starts five seconds after the timestamp of the first has expired. -/
def lateStart : List Action := [.call,.get 0,.setNX 0,.wait 1505000,.call,.get 1,.setNX 1]

/-- The two instances run five seconds apart. -/
theorem first_runs_out_of_phase_late_start :
    ∃ state, Transition.run (step 1500000) .initial lateStart = some state ∧
      state.instances = [⟨0,.scheduled 0⟩,⟨1505000,.scheduled 1505000⟩] ∧ ¬ InPhase 1500000 state := by
  refine ⟨_,rfl,rfl,?_⟩
  intro inPhase
  have same : 0 ≡ 1505000 [MOD 1500000] :=
    inPhase.timestamps (List.mem_cons_self) (List.mem_cons_of_mem _ List.mem_cons_self) rfl rfl
  exact absurd same (by decide)

end EventQueue.FirstRun

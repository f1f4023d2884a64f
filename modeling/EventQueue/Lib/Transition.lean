import Mathlib.Data.List.Basic

/-! Runs of a partial step function, the induction rules for invariants, and
guards that every step of a run has to meet. A refused action has no next state;
nothing is assumed about which actions are enabled. -/
namespace Transition

variable {State Action : Type}

def run (step : State → Action → Option State) : State → List Action → Option State
  | state,[] => some state
  | state,action::rest => (step state action).bind (fun next => run step next rest)

/-- Every step of the run, as far as it goes, is taken in a state where its guard holds. -/
def Along (step : State → Action → Option State) (guard : State → Action → Prop) :
    State → List Action → Prop
  | _,[] => True
  | state,action::rest => guard state action ∧
      ∀ next, step state action = some next → Along step guard next rest

theorem run_cons (step : State → Action → Option State) (state final : State)
    (action : Action) (rest : List Action)
    (reached : run step state (action::rest) = some final) :
    ∃ next, step state action = some next ∧ run step next rest = some final :=
  Option.bind_eq_some_iff.mp reached

theorem along_cons {step : State → Action → Option State} {guard : State → Action → Prop} {state next : State}
    {action : Action} {rest : List Action} (holds : guard state action) (taken : step state action = some next)
    (later : Along step guard next rest) : Along step guard state (action::rest) := by
  refine ⟨holds,fun other moved => ?_⟩
  rw [taken] at moved
  cases moved
  exact later

theorem along_append (step : State → Action → Option State) (guard : State → Action → Prop)
    (state middle : State) (first second : List Action)
    (guarded : Along step guard state (first ++ second))
    (reached : run step state first = some middle) : Along step guard middle second := by
  induction first generalizing state with
  | nil =>
    cases reached
    exact guarded
  | cons action rest ih =>
    obtain ⟨next,taken,remaining⟩ := run_cons step state middle action rest reached
    exact ih next (guarded.2 next taken) remaining

theorem along_left (step : State → Action → Option State) (guard : State → Action → Prop)
    (state : State) (first second : List Action) (guarded : Along step guard state (first ++ second)) :
    Along step guard state first := by
  induction first generalizing state with
  | nil => trivial
  | cons action rest ih => exact ⟨guarded.1,fun next taken => ih next (guarded.2 next taken)⟩

/-- The invariant rule: what guarded steps preserve holds at the end of a guarded run. -/
theorem invariant (step : State → Action → Option State) (guard : State → Action → Prop)
    (Inv : State → Prop)
    (preserved : ∀ state action next, Inv state → guard state action →
      step state action = some next → Inv next)
    (state final : State) (actions : List Action) (initial : Inv state)
    (guarded : Along step guard state actions) (reached : run step state actions = some final) :
    Inv final := by
  induction actions generalizing state with
  | nil =>
    cases reached
    exact initial
  | cons action rest ih =>
    obtain ⟨next,taken,remaining⟩ := run_cons step state final action rest reached
    exact ih next (preserved state action next initial guarded.1 taken)
      (guarded.2 next taken) remaining

theorem along_true (step : State → Action → Option State) (state : State) (actions : List Action) :
    Along step (fun _ _ => True) state actions := by
  induction actions generalizing state with
  | nil => trivial
  | cons action rest ih => exact ⟨trivial,fun next _ => ih next⟩

theorem along_and (step : State → Action → Option State) (guard other : State → Action → Prop)
    (state : State) (actions : List Action) (first : Along step guard state actions)
    (second : Along step other state actions) :
    Along step (fun state action => guard state action ∧ other state action) state actions := by
  induction actions generalizing state with
  | nil => trivial
  | cons action rest ih =>
    exact ⟨⟨first.1,second.1⟩,fun next taken => ih next (first.2 next taken) (second.2 next taken)⟩

theorem along_of_forall (step : State → Action → Option State) (allowed : Action → Prop)
    (state : State) (actions : List Action) (all : ∀ action ∈ actions, allowed action) :
    Along step (fun _ action => allowed action) state actions := by
  induction actions generalizing state with
  | nil => trivial
  | cons action rest ih =>
    exact ⟨all action (by simp),fun next _ => ih next (fun other member => all other (by simp [member]))⟩

/-- Guards that agree on the steps of a run are met by it alike. -/
theorem along_congr_assuming {step : State → Action → Option State} {assumption guard other : State → Action → Prop}
    (same : ∀ state action, assumption state action → (guard state action ↔ other state action))
    (state : State) (actions : List Action) (assumed : Along step assumption state actions) :
    Along step guard state actions ↔ Along step other state actions := by
  induction actions generalizing state with
  | nil => exact Iff.rfl
  | cons action rest ih =>
    refine and_congr (same state action assumed.1) (forall₂_congr (fun next taken => ?_))
    exact ih next (assumed.2 next taken)

theorem along_congr {step : State → Action → Option State} {guard other : State → Action → Prop}
    (same : ∀ state action, guard state action ↔ other state action) (state : State) (actions : List Action) :
    Along step guard state actions ↔ Along step other state actions :=
  along_congr_assuming (fun state action (_ : True) => same state action) state actions (along_true step state actions)

/-- A guard may use an invariant that the guarded steps themselves preserve. -/
theorem along_strengthen (step : State → Action → Option State) (guard stronger : State → Action → Prop)
    (Inv : State → Prop)
    (preserved : ∀ state action next, Inv state → guard state action →
      step state action = some next → Inv next)
    (implies : ∀ state action, Inv state → guard state action → stronger state action)
    (state : State) (actions : List Action) (initial : Inv state)
    (guarded : Along step guard state actions) : Along step stronger state actions := by
  induction actions generalizing state with
  | nil => trivial
  | cons action rest ih =>
    refine ⟨implies state action initial guarded.1,?_⟩
    intro next taken
    exact ih next (preserved state action next initial guarded.1 taken) (guarded.2 next taken)

/-- If under an assumption a guard is exactly what keeps the next state good, then a run that meets
the assumption stays good iff it is guarded. -/
theorem always_iff_along_assuming (step : State → Action → Option State) (assumption guard : State → Action → Prop)
    (Inv Good : State → Prop) (good : ∀ state, Inv state → Good state)
    (refused : ∀ state action, step state action = none → guard state action)
    (needed : ∀ state action next, Inv state → assumption state action → step state action = some next → Good next →
      guard state action)
    (preserved : ∀ state action next, Inv state → assumption state action → guard state action →
      step state action = some next → Inv next)
    (state : State) (actions : List Action) (initial : Inv state) (assumed : Along step assumption state actions) :
    (∀ first final, first <+: actions → run step state first = some final → Good final) ↔
      Along step guard state actions := by
  induction actions generalizing state with
  | nil =>
    refine ⟨fun _ => trivial,fun _ first final start reached => ?_⟩
    rw [List.prefix_nil.mp start] at reached
    cases reached
    exact good state initial
  | cons action rest ih =>
    obtain ⟨holds,later⟩ := assumed
    constructor
    · intro always
      have guarded : guard state action := by
        cases taken : step state action with
        | none => exact refused state action taken
        | some next =>
          refine needed state action next initial holds taken (always [action] next ?_ ?_)
          · simp
          · simp [run,taken]
      refine ⟨guarded,fun next taken => ?_⟩
      refine (ih next (preserved state action next initial holds guarded taken) (later next taken)).mp ?_
      intro first final start reached
      apply always (action::first) final
      · simpa using start
      · simpa [run,taken] using reached
    · intro guarded first final start reached
      cases first with
      | nil =>
        cases reached
        exact good state initial
      | cons other first =>
        obtain ⟨rfl,shorter⟩ := List.cons_prefix_cons.mp start
        obtain ⟨next,taken,remaining⟩ := run_cons step state final other first reached
        have kept := preserved state other next initial holds guarded.1 taken
        exact (ih next kept (later next taken)).mpr (guarded.2 next taken) first final shorter remaining

/-- If a guard is exactly what keeps the next state good, a run stays good iff it is guarded. -/
theorem always_iff_along (step : State → Action → Option State) (guard : State → Action → Prop)
    (Inv Good : State → Prop) (good : ∀ state, Inv state → Good state)
    (refused : ∀ state action, step state action = none → guard state action)
    (needed : ∀ state action next, Inv state → step state action = some next → Good next → guard state action)
    (preserved : ∀ state action next, Inv state → guard state action → step state action = some next → Inv next)
    (state : State) (actions : List Action) (initial : Inv state) :
    (∀ first final, first <+: actions → run step state first = some final → Good final) ↔
      Along step guard state actions :=
  always_iff_along_assuming step (fun _ _ => True) guard Inv Good good refused
    (fun state action next inv _ => needed state action next inv)
    (fun state action next inv _ => preserved state action next inv) state actions initial
    (along_true step state actions)

/-- The state after the first actions of an unending supply. -/
def after (step : State → Action → Option State) (state : State) (actions : Nat → Action) (count : Nat) : Option State :=
  run step state ((List.range count).map actions)

theorem after_succ (step : State → Action → Option State) (state next : State) (actions : Nat → Action) (count : Nat) :
    after step state actions (count + 1) = some next ↔
      ∃ last, after step state actions count = some last ∧ step last (actions count) = some next := by
  unfold after
  rw [List.range_succ,List.map_append,List.map_singleton]
  generalize (List.range count).map actions = first
  induction first generalizing state with
  | nil => simp [run]
  | cons action rest ih =>
    simp only [List.cons_append,run,Option.bind_eq_some_iff,ih]
    constructor
    · intro reached
      obtain ⟨middle,taken,last,remaining,final⟩ := reached
      exact ⟨last,⟨middle,taken,remaining⟩,final⟩
    · intro reached
      obtain ⟨last,⟨middle,taken,remaining⟩,final⟩ := reached
      exact ⟨middle,taken,last,remaining,final⟩

/-- If no run is longer than the bound and only a final state refuses its action, the bound is enough to get to a
final state. -/
theorem ends_within (step : State → Action → Option State) (Final : State → Prop) (state : State)
    (actions : Nat → Action) (bound : Nat)
    (short : ∀ count last, after step state actions count = some last → count ≤ bound)
    (goesOn : ∀ count last, after step state actions count = some last → ¬Final last →
      (step last (actions count)).isSome) :
    ∃ count ≤ bound, ∃ last, after step state actions count = some last ∧ Final last := by
  by_contra never
  have running : ∀ count, ∃ last, after step state actions count = some last := by
    intro count
    induction count with
    | zero => exact ⟨state,rfl⟩
    | succ count ih =>
      obtain ⟨last,reached⟩ := ih
      have unfinished : ¬Final last := fun final => never ⟨count,short count last reached,last,reached,final⟩
      obtain ⟨next,taken⟩ := Option.isSome_iff_exists.mp (goesOn count last reached unfinished)
      exact ⟨next,(after_succ step state next actions count).mpr ⟨last,reached,taken⟩⟩
  obtain ⟨last,reached⟩ := running (bound + 1)
  have beyond := short (bound + 1) last reached
  omega

/-- What the steps of a run weigh together, each in the state it is taken in. -/
def total (step : State → Action → Option State) (weight : State → Action → Nat) : State → List Action → Nat
  | _,[] => 0
  | state,action::rest => weight state action + match step state action with
    | none => 0
    | some next => total step weight next rest

/-- If every step is paid for by the growth of a measure, so is the whole run. -/
theorem total_le (step : State → Action → Option State) (guard : State → Action → Prop) (Inv : State → Prop)
    (weight : State → Action → Nat) (measure : State → Int)
    (preserved : ∀ state action next, Inv state → guard state action →
      step state action = some next → Inv next)
    (paid : ∀ state action next, Inv state → guard state action → step state action = some next →
      weight state action + measure state ≤ measure next)
    (state final : State) (actions : List Action) (initial : Inv state)
    (guarded : Along step guard state actions) (reached : run step state actions = some final) :
    total step weight state actions + measure state ≤ measure final := by
  induction actions generalizing state with
  | nil =>
    cases reached
    simp [total]
  | cons action rest ih =>
    obtain ⟨next,taken,remaining⟩ := run_cons step state final action rest reached
    have first := paid state action next initial guarded.1 taken
    have later := ih next (preserved state action next initial guarded.1 taken) (guarded.2 next taken) remaining
    simp only [total,taken]
    push_cast
    omega

/-- A chain of steps that lower a rank is no longer than the rank of its start. -/
theorem chain_length_le_rank (related : State → State → Prop) (rank : State → Nat)
    (lower : ∀ state next, related state next → rank next < rank state) (start : State) (rest : List State)
    (chain : (start::rest).IsChain related) : rest.length ≤ rank start := by
  induction rest generalizing start with
  | nil => exact Nat.zero_le _
  | cons next rest ih =>
    obtain ⟨first,remaining⟩ := List.isChain_cons_cons.mp chain
    have shorter := ih next remaining
    have lowered := lower start next first
    rw [List.length_cons]
    omega

/-- A run whose steps lower a rank is no longer than the rank of its start. -/
theorem run_length_le_rank (step : State → Action → Option State) (Inv : State → Prop) (rank : State → Nat)
    (preserved : ∀ state action next, Inv state → step state action = some next → Inv next)
    (lower : ∀ state action next, Inv state → step state action = some next → rank next < rank state)
    (state final : State) (actions : List Action) (initial : Inv state)
    (reached : run step state actions = some final) : actions.length + rank final ≤ rank state := by
  induction actions generalizing state with
  | nil =>
    cases reached
    simp
  | cons action rest ih =>
    obtain ⟨next,taken,remaining⟩ := run_cons step state final action rest reached
    have later := ih next (preserved state action next initial taken) remaining
    have lowered := lower state action next initial taken
    rw [List.length_cons]
    omega

instance decidableAlong (step : State → Action → Option State) (guard : State → Action → Prop)
    [∀ state action, Decidable (guard state action)] :
    ∀ state actions, Decidable (Along step guard state actions)
  | _,[] => .isTrue trivial
  | state,action::rest =>
    match known : step state action with
    | none => decidable_of_iff (guard state action) ⟨fun holds => ⟨holds,by simp [known]⟩,And.left⟩
    | some next =>
      have : Decidable (Along step guard next rest) := decidableAlong step guard next rest
      decidable_of_iff (guard state action ∧ Along step guard next rest)
        ⟨fun holds => ⟨holds.1,fun other taken => Option.some.inj (known.symm.trans taken) ▸ holds.2⟩,
          fun holds => ⟨holds.1,holds.2 next known⟩⟩

end Transition

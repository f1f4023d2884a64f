import EventQueue.WorkerQueue

/-! The scan of `#checkForNext`: what it takes, that its recursion ends, and the
induction rule through which every property of a nested scan is derived. -/
namespace EventQueue.WorkerQueue

/-- Position in `Priorities`; a later one is served first. -/
def rank : Priorities → Nat
  | .low => 0
  | .medium => 1
  | .high => 2
  | .veryHigh => 3

theorem find_erase {entries : List Entry} {fits : Entry → Bool} {entry : Entry}
    (found : entries.find? fits = some entry) :
    ∃ ahead rest, entries = ahead ++ entry::rest ∧ entries.eraseP fits = ahead ++ rest ∧
      fits entry = true ∧ ∀ other ∈ ahead, fits other = false := by
  obtain ⟨fit,ahead,rest,split,misfit⟩ := List.find?_eq_some_iff_append.mp found
  have absent : ∀ other ∈ ahead, ¬ fits other = true := by
    intro other member
    simpa using misfit other member
  refine ⟨ahead,rest,split,?_,fit,?_⟩
  · rw [split,List.eraseP_append_right _ absent]
    simp [fit]
  · intro other member
    simpa using absent other member

theorem mem_PRIORITIES (priority : Priorities) : priority ∈ PRIORITIES := by
  cases priority <;> simp [PRIORITIES,Priorities.values]

theorem firstFit_some {state : State} {priority : Priorities} {entry : Entry}
    (found : state.firstFit = some (priority,entry)) :
    (state.queue priority).find? state.fits = some entry ∧
      ∀ higher, rank priority < rank higher → ∀ other ∈ state.queue higher, state.fits other = false := by
  obtain ⟨before,chosen,after,order,fit,misfit⟩ := List.findSome?_eq_some_iff.mp found
  obtain ⟨taken,read,same⟩ := Option.map_eq_some_iff.mp fit
  cases same
  refine ⟨read,?_⟩
  intro higher above other member
  have earlier : higher ∈ before := by
    have descending : PRIORITIES.Pairwise (fun first second => rank second < rank first) := by decide
    have listed : higher ∈ PRIORITIES := mem_PRIORITIES higher
    rw [order] at descending listed
    obtain ⟨_,tail,_⟩ := List.pairwise_append.mp descending
    rcases List.mem_append.mp listed with inside | behind
    · exact inside
    · rcases List.mem_cons.mp behind with same | later
      · subst same
        omega
      · have := (List.pairwise_cons.mp tail).1 higher later
        omega
  have none : (state.queue higher).find? state.fits = none := by
    simpa using misfit higher earlier
  simpa using List.find?_eq_none.mp none other member

theorem firstFit_none {state : State} (none : state.firstFit = none) (priority : Priorities)
    (entry : Entry) (member : entry ∈ state.queue priority) : state.fits entry = false := by
  have unread := List.findSome?_eq_none_iff.mp none priority (mem_PRIORITIES priority)
  simpa using List.find?_eq_none.mp (Option.map_eq_none_iff.mp unread) entry member

theorem waiting_eq (state : State) :
    state.waiting = (state.queue .low).length + (state.queue .medium).length +
      (state.queue .high).length + (state.queue .veryHigh).length := by
  simp [State.waiting,Priorities.values]
  omega

theorem waiting_start {state : State} {priority : Priorities} {entry : Entry}
    (found : (state.queue priority).find? state.fits = some entry) :
    (state.start priority entry).waiting + 1 = state.waiting := by
  obtain ⟨ahead,rest,split,erased,_,_⟩ := find_erase found
  have shorter : ((state.queue priority).eraseP state.fits).length + 1 = (state.queue priority).length := by
    rw [erased,split]
    simp
    omega
  simp only [waiting_eq,State.start,State.splice,State.setQueue]
  cases priority <;> simp <;> omega

theorem checkForNextFuel_eq (fuel more : Nat) (state : State)
    (enough : state.waiting ≤ fuel) (also : state.waiting ≤ more) :
    checkForNextFuel fuel state = checkForNextFuel more state := by
  induction fuel generalizing more state with
  | zero =>
    have empty : state.waiting = 0 := by omega
    cases more with
    | zero => rfl
    | succ more => simp [checkForNextFuel,empty]
  | succ fuel ih =>
    cases more with
    | zero =>
      have empty : state.waiting = 0 := by omega
      simp [checkForNextFuel,empty]
    | succ more =>
      simp only [checkForNextFuel]
      split
      · rfl
      · cases found : state.firstFit with
        | none => rfl
        | some taken =>
          obtain ⟨priority,entry⟩ := taken
          have fewer := waiting_start (firstFit_some found).1
          simp only [executeFunction]
          rw [ih more (state.start priority entry) (by omega) (by omega)]

/-- The recursion as the source has it. -/
theorem checkForNext_eq (state : State) :
    checkForNext state =
      if state.waiting = 0 ∨ state.runningLoad = state.concurrencyLimit then state
      else match state.firstFit with
        | none => state
        | some (priority,entry) => executeFunction checkForNext state priority entry := by
  have unfolded : checkForNext state = checkForNextFuel (state.waiting + 1) state :=
    checkForNextFuel_eq _ _ state (by omega) (by omega)
  rw [unfolded]
  simp only [checkForNextFuel]
  split
  · rfl
  · cases found : state.firstFit with
    | none => rfl
    | some taken =>
      obtain ⟨priority,entry⟩ := taken
      have fewer := waiting_start (firstFit_some found).1
      simp only [executeFunction,checkForNext]
      rw [checkForNextFuel_eq state.waiting (state.start priority entry).waiting
        (state.start priority entry) (by omega) (by omega)]

/-- What every single start preserves, the whole nested scan preserves. -/
theorem checkForNext_preserves (Inv : State → Prop)
    (preserved : ∀ state priority entry, Inv state → state.firstFit = some (priority,entry) →
      Inv (state.start priority entry))
    (state : State) (initial : Inv state) : Inv (checkForNext state) := by
  generalize size : state.waiting = n
  induction n using Nat.strong_induction_on generalizing state with
  | _ n ih =>
    rw [checkForNext_eq]
    split
    · exact initial
    · cases found : state.firstFit with
      | none => exact initial
      | some taken =>
        obtain ⟨priority,entry⟩ := taken
        have fewer := waiting_start (firstFit_some found).1
        have kept := preserved state priority entry initial found
        simp only [executeFunction]
        split
        · exact ih _ (by omega) _ kept rfl
        · exact kept

/-- No waiting entry fits into the capacity that is left. -/
def Saturated (state : State) : Prop :=
  ∀ priority, ∀ entry ∈ state.queue priority, state.concurrencyLimit < state.runningLoad + entry.load

/-- The early exits compare for equality with the limit; they miss no entry as long as
loads are positive. -/
theorem checkForNext_saturated (state : State)
    (positive : ∀ priority, ∀ entry ∈ state.queue priority, 0 < entry.load) :
    Saturated (checkForNext state) := by
  generalize size : state.waiting = n
  induction n using Nat.strong_induction_on generalizing state with
  | _ n ih =>
    have full : state.runningLoad = state.concurrencyLimit → Saturated state := by
      intro equal priority entry member
      have := positive priority entry member
      omega
    rw [checkForNext_eq]
    split
    · rename_i exit
      rcases exit with empty | equal
      · intro priority entry member
        rw [waiting_eq] at empty
        have nil : state.queue priority = [] := by
          apply List.eq_nil_of_length_eq_zero
          cases priority <;> omega
        simp [nil] at member
      · exact full equal
    · cases found : state.firstFit with
      | none =>
        intro priority entry member
        have misfit := firstFit_none found priority entry member
        simpa [State.fits] using misfit
      | some taken =>
        obtain ⟨chosen,taken⟩ := taken
        have fewer := waiting_start (firstFit_some found).1
        have still : ∀ priority, ∀ entry ∈ (state.start chosen taken).queue priority, 0 < entry.load := by
          intro priority entry member
          simp only [State.start,State.splice,State.setQueue] at member
          split at member
          · exact positive chosen entry (List.mem_of_mem_eraseP member)
          · exact positive priority entry member
        simp only [executeFunction]
        split
        · exact ih _ (by omega) _ still rfl
        · rename_i equal
          intro priority entry member
          have := still priority entry member
          simp only [ne_eq,not_not] at equal
          omega

end EventQueue.WorkerQueue

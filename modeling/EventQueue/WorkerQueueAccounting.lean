import EventQueue.WorkerQueueScan

/-! Accounting, work conservation and priority order of the worker queue over
arbitrary interleavings of calls, settlements and priority passes. -/
namespace EventQueue.WorkerQueue

def State.waitingCount (state : State) (id : Nat) : Nat :=
  (Priorities.values.map (fun priority => (state.queue priority).countP (fun entry => entry.id == id))).sum

def State.runningCount (state : State) (id : Nat) : Nat :=
  state.runningPromises.countP (fun entry => entry.id == id)

def State.settledCount (state : State) (id : Nat) : Nat :=
  state.settled.countP (fun job => job.1 == id)

def State.startedCount (state : State) (id : Nat) : Nat :=
  state.started.countP (fun start => start.entry.id == id)

def State.unsettled (state : State) (entry : Entry) : Bool := state.settledCount entry.id == 0

/-- The bookkeeping that every scan and every step keeps. -/
structure Accounted (state : State) : Prop where
  positive : ∀ priority, ∀ entry ∈ state.queue priority, 0 < entry.load
  load : state.runningLoad = (state.runningPromises.map Entry.load).sum
  bounded : state.runningLoad ≤ state.concurrencyLimit
  placed : ∀ id, state.waitingCount id + state.runningCount id + state.settledCount id =
    if id < state.accepted then 1 else 0
  begun : ∀ id, state.startedCount id = state.runningCount id + state.settledCount id
  live : state.runningPromises = (state.started.map Start.entry).filter state.unsettled

/-- A start was due: nothing ahead of the entry, and nothing in a higher queue, fitted. -/
structure Start.Due (limit : Nat) (start : Start) : Prop where
  fitted : start.runningLoad + start.entry.load ≤ limit
  ahead : ∃ front rest, start.queue start.priority = front ++ start.entry::rest ∧
    ∀ other ∈ front, limit < start.runningLoad + other.load
  higher : ∀ priority, rank start.priority < rank priority →
    ∀ other ∈ start.queue priority, limit < start.runningLoad + other.load

theorem waitingCount_eq (state : State) (id : Nat) :
    state.waitingCount id = (state.queue .low).countP (fun entry => entry.id == id) +
      (state.queue .medium).countP (fun entry => entry.id == id) +
      (state.queue .high).countP (fun entry => entry.id == id) +
      (state.queue .veryHigh).countP (fun entry => entry.id == id) := by
  simp [State.waitingCount,Priorities.values]
  omega

theorem waitingCount_setQueue (state : State) (priority : Priorities) (entries : List Entry) (id : Nat) :
    (state.setQueue priority entries).waitingCount id +
        (state.queue priority).countP (fun entry => entry.id == id) =
      state.waitingCount id + entries.countP (fun entry => entry.id == id) := by
  simp only [waitingCount_eq,State.setQueue]
  cases priority <;> simp <;> omega

theorem start_accounted (state : State) (priority : Priorities) (entry : Entry)
    (accounted : Accounted state) (found : state.firstFit = some (priority,entry)) :
    Accounted (state.start priority entry) := by
  obtain ⟨ahead,rest,split,erased,fit,_⟩ := find_erase (firstFit_some found).1
  have fitted : state.runningLoad + entry.load ≤ state.concurrencyLimit := by
    simpa [State.fits] using fit
  have moved (id : Nat) : (state.start priority entry).waitingCount id +
      (if entry.id = id then 1 else 0) = state.waitingCount id := by
    have spliced := waitingCount_setQueue state priority ((state.queue priority).eraseP state.fits) id
    rw [erased,split] at spliced
    simp only [List.countP_append,List.countP_cons,beq_iff_eq] at spliced
    change (state.setQueue priority ((state.queue priority).eraseP state.fits)).waitingCount id + _ = _
    rw [erased]
    omega
  have gained (id : Nat) : (state.start priority entry).runningCount id =
      state.runningCount id + if entry.id = id then 1 else 0 := by
    simp [State.start,State.runningCount,List.countP_append,List.countP_cons]
  constructor
  · intro other queued member
    simp only [State.start,State.splice,State.setQueue] at member
    split at member
    · exact accounted.positive priority queued (List.mem_of_mem_eraseP member)
    · exact accounted.positive other queued member
  · simp [State.start,accounted.load]
  · exact fitted
  · intro id
    have before := accounted.placed id
    have lost := moved id
    have more := gained id
    have same : (state.start priority entry).settledCount id = state.settledCount id := rfl
    change _ = if id < state.accepted then 1 else 0
    omega
  · intro id
    have before := accounted.begun id
    have more := gained id
    have same : (state.start priority entry).settledCount id = state.settledCount id := rfl
    have logged : (state.start priority entry).startedCount id =
        state.startedCount id + if entry.id = id then 1 else 0 := by
      simp [State.start,State.startedCount,List.countP_append,List.countP_cons]
    omega
  · have open_ : state.unsettled entry = true := by
      have before := accounted.placed entry.id
      have lost := moved entry.id
      simp only [if_true] at lost
      simp only [State.unsettled,beq_iff_eq]
      split at before <;> omega
    change state.runningPromises ++ [entry] =
      ((state.started ++ [_]).map Start.entry).filter state.unsettled
    rw [List.map_append,List.filter_append,← accounted.live]
    simp [open_]

theorem checkForNext_accounted (state : State) (accounted : Accounted state) :
    Accounted (checkForNext state) :=
  checkForNext_preserves Accounted start_accounted state accounted

theorem checkForNext_limit (state : State) :
    (checkForNext state).concurrencyLimit = state.concurrencyLimit :=
  checkForNext_preserves (fun other => other.concurrencyLimit = state.concurrencyLimit)
    (fun _ _ _ same _ => same) state rfl

theorem push_accounted (state : State) (priority : Priorities) (load : Nat) (label : String)
    (increase : Bool) (startTime : Nat) (accounted : Accounted state) (positive : 0 < load) :
    Accounted {state.setQueue priority
        (state.queue priority ++ [⟨state.accepted,load,label,increase,startTime,[]⟩]) with
      accepted := state.accepted + 1} := by
  constructor
  · intro other entry member
    simp only [State.setQueue] at member
    split at member
    · rcases List.mem_append.mp member with old | new
      · exact accounted.positive priority entry old
      · rw [List.mem_singleton.mp new]
        exact positive
    · exact accounted.positive other entry member
  · exact accounted.load
  · exact accounted.bounded
  · intro id
    have before := accounted.placed id
    have pushed := waitingCount_setQueue state priority
      (state.queue priority ++ [⟨state.accepted,load,label,increase,startTime,[]⟩]) id
    simp only [List.countP_append,List.countP_singleton,beq_iff_eq] at pushed
    change (state.setQueue priority _).waitingCount id + state.runningCount id +
      state.settledCount id = if id < state.accepted + 1 then 1 else 0
    split at before <;> split at pushed <;> split <;> omega
  · exact accounted.begun
  · exact accounted.live

theorem addToQueue_accounted (state : State) (load : Nat) (label : String) (priority : Option String)
    (increase : Bool) (startTime : Nat) (accounted : Accounted state) (positive : 0 < load) :
    Accounted (addToQueue state load label priority increase startTime).2 := by
  unfold addToQueue
  split
  · exact accounted
  · split
    · exact accounted
    · rename_i chosen _
      exact checkForNext_accounted _
        (push_accounted state chosen load label increase startTime accounted positive)

/-- The state the `finally` reaction leaves before it scans again. -/
def State.release (state : State) (entry : Entry) (id : Nat) (fulfilled : Bool) : State :=
  {state with
    runningLoad := state.runningLoad - entry.load
    runningPromises := state.runningPromises.eraseP (fun other => other.id == id)
    settled := state.settled ++ [(id,fulfilled)]}

theorem settle_eq (state next : State) (id : Nat) (fulfilled : Bool)
    (settled : settle state id fulfilled = some next) :
    ∃ entry, state.runningPromises.find? (fun other => other.id == id) = some entry ∧
      next = checkForNext (state.release entry id fulfilled) := by
  unfold settle at settled
  cases running : state.runningPromises.find? (fun other => other.id == id) with
  | none => simp [running] at settled
  | some entry =>
    rw [running] at settled
    exact ⟨entry,rfl,(Option.some.inj settled).symm⟩

theorem eraseP_eq_filter {entries : List Entry} {id : Nat}
    (once : entries.countP (fun entry => entry.id == id) ≤ 1) :
    entries.eraseP (fun entry => entry.id == id) = entries.filter (fun entry => !(entry.id == id)) := by
  induction entries with
  | nil => rfl
  | cons entry rest ih =>
    rw [List.countP_cons] at once
    by_cases same : entry.id = id
    · have absent : rest.countP (fun entry => entry.id == id) = 0 := by
        simp only [same,beq_self_eq_true,if_true] at once
        omega
      have kept : rest.filter (fun entry => !(entry.id == id)) = rest := by
        apply List.filter_eq_self.mpr
        intro other member
        simpa using List.countP_eq_zero.mp absent other member
      simp only [List.eraseP_cons,List.filter_cons,same,beq_self_eq_true,cond_true,Bool.not_true,
        Bool.false_eq_true,if_false,kept]
    · have fewer : rest.countP (fun entry => entry.id == id) ≤ 1 := by omega
      simp [same,ih fewer]

theorem release_accounted (state : State) (entry : Entry) (id : Nat) (fulfilled : Bool)
    (running : state.runningPromises.find? (fun other => other.id == id) = some entry)
    (accounted : Accounted state) : Accounted (state.release entry id fulfilled) := by
  obtain ⟨ahead,rest,split,erased,same,_⟩ := find_erase running
  have owner : entry.id = id := by simpa using same
  have released : (state.release entry id fulfilled).runningLoad =
      ((ahead ++ rest).map Entry.load).sum := by
    have total := accounted.load
    rw [split] at total
    simp only [State.release,List.map_append,List.map_cons,List.sum_append,List.sum_cons] at total ⊢
    omega
  have lost (other : Nat) : (state.release entry id fulfilled).runningCount other +
      (if id = other then 1 else 0) = state.runningCount other := by
    simp only [State.runningCount,State.release]
    rw [erased,split]
    simp only [List.countP_append,List.countP_cons,owner,beq_iff_eq]
    omega
  have logged (other : Nat) : (state.release entry id fulfilled).settledCount other =
      state.settledCount other + if id = other then 1 else 0 := by
    simp [State.release,State.settledCount,List.countP_append,List.countP_cons]
  constructor
  · exact accounted.positive
  · rw [released]
    simp only [State.release,erased]
  · have before := accounted.bounded
    simp only [State.release]
    omega
  · intro other
    have before := accounted.placed other
    have fewer := lost other
    have more := logged other
    have waiting : (state.release entry id fulfilled).waitingCount other = state.waitingCount other := rfl
    change _ = if other < state.accepted then 1 else 0
    omega
  · intro other
    have before := accounted.begun other
    have fewer := lost other
    have more := logged other
    have begun : (state.release entry id fulfilled).startedCount other = state.startedCount other := rfl
    omega
  · have once : state.runningCount id ≤ 1 := by
      have before := accounted.placed id
      split at before <;> omega
    have still : (state.release entry id fulfilled).unsettled =
        fun other => !(other.id == id) && state.unsettled other := by
      funext other
      rw [Bool.eq_iff_iff]
      simp only [State.unsettled,logged,beq_iff_eq,Bool.and_eq_true,Bool.not_eq_true',beq_eq_false_iff_ne]
      split <;> omega
    change state.runningPromises.eraseP (fun other => other.id == id) =
      (state.started.map Start.entry).filter (state.release entry id fulfilled).unsettled
    rw [still,← List.filter_filter,← accounted.live]
    exact eraseP_eq_filter once

theorem adjustEntries_count (checkTime id : Nat) (entries : List Entry) :
    (adjustEntries checkTime entries).1.countP (fun entry => entry.id == id) +
        (adjustEntries checkTime entries).2.countP (fun entry => entry.id == id) =
      entries.countP (fun entry => entry.id == id) := by
  fun_induction adjustEntries checkTime entries with
  | case1 => rfl
  | case2 entry late => simp [List.countP_cons]
  | case3 entry early => simp [List.countP_cons]
  | case4 entry next rest late kept moved split ih =>
    rw [split] at ih
    simp only [List.countP_cons] at ih ⊢
    omega
  | case5 entry next rest early kept moved split ih =>
    rw [split] at ih
    simp only [List.countP_cons] at ih ⊢
    omega

theorem adjustEntries_load (checkTime : Nat) (entries : List Entry) (entry : Entry)
    (member : entry ∈ (adjustEntries checkTime entries).1 ∨ entry ∈ (adjustEntries checkTime entries).2) :
    ∃ origin ∈ entries, origin.load = entry.load := by
  fun_induction adjustEntries checkTime entries with
  | case1 => simp at member
  | case2 head late =>
    refine ⟨head,by simp,?_⟩
    rcases member with inside | inside <;> simp_all
  | case3 head early =>
    refine ⟨head,by simp,?_⟩
    rcases member with inside | inside <;> simp_all
  | case4 head next rest late kept moved split ih =>
    rw [split] at ih
    simp only [List.mem_cons] at member ⊢
    rcases member with (rfl | inside) | (rfl | inside)
    · exact ⟨entry,by simp,rfl⟩
    · obtain ⟨origin,listed,same⟩ := ih (.inl inside)
      exact ⟨origin,by simp [listed],same⟩
    · exact ⟨head,by simp,rfl⟩
    · obtain ⟨origin,listed,same⟩ := ih (.inr inside)
      exact ⟨origin,by simp [listed],same⟩
  | case5 head next rest early kept moved split ih =>
    rw [split] at ih
    simp only [List.mem_cons] at member ⊢
    rcases member with (rfl | inside) | inside
    · exact ⟨entry,by simp,rfl⟩
    · obtain ⟨origin,listed,same⟩ := ih (.inl inside)
      exact ⟨origin,.inr (List.mem_cons.mp listed),same⟩
    · obtain ⟨origin,listed,same⟩ := ih (.inr inside)
      exact ⟨origin,.inr (List.mem_cons.mp listed),same⟩

theorem adjustLevel_origin (checkTime : Nat) (state : State) (priority nextPriority other : Priorities)
    (entry : Entry) (member : entry ∈ (adjustLevel checkTime state priority nextPriority).queue other) :
    ∃ source, ∃ origin ∈ state.queue source, origin.load = entry.load := by
  simp only [adjustLevel,State.setQueue] at member
  split at member
  · rcases List.mem_append.mp member with old | moved
    · exact ⟨nextPriority,entry,old,rfl⟩
    · exact ⟨priority,adjustEntries_load checkTime _ entry (.inr moved)⟩
  · split at member
    · exact ⟨priority,adjustEntries_load checkTime _ entry (.inl member)⟩
    · exact ⟨other,entry,member,rfl⟩

theorem adjustLevel_accounted (checkTime : Nat) (state : State) (priority nextPriority : Priorities)
    (distinct : nextPriority ≠ priority) (accounted : Accounted state) :
    Accounted (adjustLevel checkTime state priority nextPriority) := by
  constructor
  · intro other entry member
    obtain ⟨source,origin,listed,same⟩ := adjustLevel_origin checkTime state _ _ other entry member
    rw [← same]
    exact accounted.positive source origin listed
  · exact accounted.load
  · exact accounted.bounded
  · intro id
    have before := accounted.placed id
    have split := adjustEntries_count checkTime id (state.queue priority)
    have removed := waitingCount_setQueue state priority (adjustEntries checkTime (state.queue priority)).1 id
    have added := waitingCount_setQueue (state.setQueue priority (adjustEntries checkTime (state.queue priority)).1)
      nextPriority (state.queue nextPriority ++ (adjustEntries checkTime (state.queue priority)).2) id
    have untouched : (state.setQueue priority (adjustEntries checkTime (state.queue priority)).1).queue nextPriority =
        state.queue nextPriority := by
      simp [State.setQueue,distinct]
    rw [untouched,List.countP_append] at added
    change (State.setQueue _ nextPriority _).waitingCount id + state.runningCount id +
      state.settledCount id = if id < state.accepted then 1 else 0
    omega
  · exact accounted.begun
  · exact accounted.live

theorem adjustLevel_frame (checkTime : Nat) (state : State) (priority nextPriority : Priorities) :
    ∃ queue, adjustLevel checkTime state priority nextPriority = {state with queue := queue} := ⟨_,rfl⟩

/-- A priority adjustment moves waiting entries and changes nothing else. -/
theorem adjustPriority_frame (state : State) (checkTime : Nat) :
    ∃ queue, adjustPriority state checkTime = {state with queue := queue} := by
  obtain ⟨low,first⟩ := adjustLevel_frame checkTime state .low .medium
  obtain ⟨medium,second⟩ := adjustLevel_frame checkTime {state with queue := low} .medium .high
  obtain ⟨high,third⟩ := adjustLevel_frame checkTime {state with queue := medium} .high .veryHigh
  exact ⟨high,by simp only [adjustPriority,first,second,third]⟩

theorem adjustPriority_accounted (state : State) (checkTime : Nat) (accounted : Accounted state) :
    Accounted (adjustPriority state checkTime) := by
  unfold adjustPriority
  apply adjustLevel_accounted _ _ _ _ (by simp)
  apply adjustLevel_accounted _ _ _ _ (by simp)
  exact adjustLevel_accounted _ _ _ _ (by simp) accounted

theorem step_accounted (state next : State) (action : Action) (accounted : Accounted state)
    (positive : action.Positive) (taken : step state action = some next) : Accounted next := by
  cases action with
  | add load label priority increase startTime =>
    cases taken
    exact addToQueue_accounted state load label priority increase startTime accounted positive
  | settle id fulfilled =>
    obtain ⟨entry,running,rfl⟩ := settle_eq state next id fulfilled taken
    exact checkForNext_accounted _ (release_accounted state entry id fulfilled running accounted)
  | adjust checkTime =>
    cases taken
    exact adjustPriority_accounted state checkTime accounted

theorem create_accounted (concurrency : Int) : Accounted (create concurrency) where
  positive := by intro priority entry member; simp [create] at member
  load := rfl
  bounded := Nat.zero_le _
  placed := by intro id; simp [waitingCount_eq,State.runningCount,State.settledCount,create]
  begun := by intro id; rfl
  live := rfl

theorem run_accounted (concurrency : Int) (actions : List Action)
    (positive : ∀ action ∈ actions, action.Positive) (state : State)
    (reached : Transition.run step (create concurrency) actions = some state) : Accounted state := by
  have guarded : Transition.Along step (fun _ action => action.Positive) (create concurrency) actions :=
    Transition.along_of_forall step Action.Positive _ actions positive
  exact Transition.invariant step _ Accounted
    (fun state action next accounted loads taken => step_accounted state next action accounted loads taken)
    _ state actions (create_accounted concurrency) guarded reached

theorem step_limit (state next : State) (action : Action) (taken : step state action = some next) :
    next.concurrencyLimit = state.concurrencyLimit := by
  cases action with
  | add load label priority increase startTime =>
    cases taken
    unfold addToQueue
    split
    · rfl
    · split
      · rfl
      · exact checkForNext_limit _
  | settle id fulfilled =>
    obtain ⟨entry,_,rfl⟩ := settle_eq state next id fulfilled taken
    exact checkForNext_limit _
  | adjust checkTime =>
    cases taken
    obtain ⟨queue,same⟩ := adjustPriority_frame state checkTime
    rw [same]

theorem run_limit (concurrency : Int) (actions : List Action) (state : State)
    (reached : Transition.run step (create concurrency) actions = some state) :
    state.concurrencyLimit = (create concurrency).concurrencyLimit :=
  Transition.invariant step (fun _ _ => True)
    (fun other => other.concurrencyLimit = (create concurrency).concurrencyLimit)
    (fun state action next same _ taken => (step_limit state next action taken).trans same)
    _ state actions rfl (Transition.along_true _ _ _) reached

theorem addToQueue_refused (state : State) (load : Nat) (label : String) (priority : Option String)
    (increase : Bool) (startTime : Nat)
    (refused : state.concurrencyLimit < load ∨ Priorities.ofString (priority.getD "medium") = none) :
    ∃ error, addToQueue state load label priority increase startTime = (.error error,state) := by
  unfold addToQueue
  split
  · exact ⟨_,rfl⟩
  · rename_i within
    have unknown : Priorities.ofString (priority.getD "medium") = none := by
      rcases refused with above | unknown
      · omega
      · exact unknown
    rw [unknown]
    exact ⟨_,rfl⟩

theorem worker_queue_accounting (concurrency : Int) (limit : 0 < concurrency) (actions : List Action)
    (positive : ∀ action ∈ actions, action.Positive) (state : State)
    (reached : Transition.run step (create concurrency) actions = some state) :
    (state.concurrencyLimit : Int) = concurrency ∧
    state.runningLoad = (((state.started.map Start.entry).filter state.unsettled).map Entry.load).sum ∧
    state.runningLoad ≤ state.concurrencyLimit ∧
    (∀ id < state.accepted, state.waitingCount id + state.runningCount id + state.settledCount id = 1) ∧
    (∀ id, state.startedCount id = state.runningCount id + state.settledCount id ∧ state.startedCount id ≤ 1) ∧
    (∀ load label priority increase startTime,
      state.concurrencyLimit < load ∨ Priorities.ofString (priority.getD "medium") = none →
      ∃ error, addToQueue state load label priority increase startTime = (.error error,state)) := by
  have accounted := run_accounted concurrency actions positive state reached
  have given := run_limit concurrency actions state reached
  refine ⟨?_,?_,accounted.bounded,?_,?_,?_⟩
  · rw [given]
    simp only [create]
    split <;> omega
  · rw [← accounted.live]
    exact accounted.load
  · intro id known
    rw [accounted.placed id,if_pos known]
  · intro id
    have placed := accounted.placed id
    have begun := accounted.begun id
    refine ⟨begun,?_⟩
    split at placed <;> omega
  · intro load label priority increase startTime refused
    exact addToQueue_refused state load label priority increase startTime refused

/-- Three calls on a queue of limit two, of which the second cannot start at once. -/
def threeJobs : List Action :=
  [.add 1 "a" none false 0,.add 2 "b" (some "high") true 0,.add 1 "c" (some "low") false 0,
    .settle 0 false,.adjust 5]

theorem threeJobs_positive : ∀ action ∈ threeJobs, action.Positive := by
  simp [threeJobs,Action.Positive]

theorem worker_queue_accounting_three_jobs :
    ∃ state, Transition.run step (create 2) threeJobs = some state ∧ state.runningLoad = 1 ∧
      state.startedCount 1 ≤ 1 ∧
      state.waitingCount 1 + state.runningCount 1 + state.settledCount 1 = 1 := by
  have computed : (Transition.run step (create 2) threeJobs).map
      (fun state => decide (state.runningLoad = 1 ∧ 1 < state.accepted)) = some true := by decide
  obtain ⟨state,reached,facts⟩ := Option.map_eq_some_iff.mp computed
  obtain ⟨load,known⟩ := of_decide_eq_true facts
  have accounting := worker_queue_accounting 2 (by decide) threeJobs threeJobs_positive state reached
  exact ⟨state,reached,load,(accounting.2.2.2.2.1 1).2,accounting.2.2.2.1 1 known⟩

theorem start_due (state : State) (priority : Priorities) (entry : Entry)
    (found : state.firstFit = some (priority,entry)) :
    Start.Due state.concurrencyLimit ⟨priority,entry,state.runningLoad,state.queue⟩ := by
  obtain ⟨inside,above⟩ := firstFit_some found
  obtain ⟨ahead,rest,split,_,fit,misfit⟩ := find_erase inside
  refine ⟨by simpa [State.fits] using fit,⟨ahead,rest,split,?_⟩,?_⟩
  · intro other member
    simpa [State.fits] using misfit other member
  · intro higher greater other member
    simpa [State.fits] using above higher greater other member

/-- All starts so far were due when they happened. -/
def Ordered (state : State) : Prop :=
  ∀ start ∈ state.started, start.Due state.concurrencyLimit

theorem checkForNext_ordered (state : State) (ordered : Ordered state) : Ordered (checkForNext state) := by
  apply checkForNext_preserves Ordered _ state ordered
  intro before priority entry earlier found start member
  rcases List.mem_append.mp member with old | new
  · exact earlier start old
  · rw [List.mem_singleton.mp new]
    exact start_due before priority entry found

theorem adjustPriority_origin (state : State) (checkTime : Nat) (priority : Priorities) (entry : Entry)
    (member : entry ∈ (adjustPriority state checkTime).queue priority) :
    ∃ source, ∃ origin ∈ state.queue source, origin.load = entry.load := by
  obtain ⟨_,first,listed,same⟩ := adjustLevel_origin checkTime _ .high .veryHigh priority entry member
  obtain ⟨_,second,earlier,equal⟩ := adjustLevel_origin checkTime _ .medium .high _ first listed
  obtain ⟨source,origin,found,load⟩ := adjustLevel_origin checkTime state .low .medium _ second earlier
  exact ⟨source,origin,found,load.trans (equal.trans same)⟩

theorem step_ordered (state next : State) (action : Action) (ordered : Ordered state)
    (taken : step state action = some next) : Ordered next := by
  cases action with
  | add load label priority increase startTime =>
    cases taken
    unfold addToQueue
    split
    · exact ordered
    · split
      · exact ordered
      · exact checkForNext_ordered _ ordered
  | settle id fulfilled =>
    obtain ⟨entry,_,rfl⟩ := settle_eq state next id fulfilled taken
    exact checkForNext_ordered _ ordered
  | adjust checkTime =>
    cases taken
    obtain ⟨queue,same⟩ := adjustPriority_frame state checkTime
    rw [same]
    exact ordered

theorem step_saturated (state next : State) (action : Action) (accounted : Accounted state)
    (positive : action.Positive) (saturated : Saturated state)
    (taken : step state action = some next) : Saturated next := by
  cases action with
  | add load label priority increase startTime =>
    cases taken
    unfold addToQueue
    split
    · exact saturated
    · split
      · exact saturated
      · rename_i chosen _
        exact checkForNext_saturated _
          (push_accounted state chosen load label increase startTime accounted positive).positive
  | settle id fulfilled =>
    obtain ⟨entry,_,rfl⟩ := settle_eq state next id fulfilled taken
    exact checkForNext_saturated _ accounted.positive
  | adjust checkTime =>
    cases taken
    intro priority entry member
    obtain ⟨source,origin,listed,same⟩ := adjustPriority_origin state checkTime priority entry member
    obtain ⟨queue,kept⟩ := adjustPriority_frame state checkTime
    rw [← same,kept]
    exact saturated source origin listed

theorem worker_queue_conserving (concurrency : Int) (limit : 0 < concurrency) (actions : List Action)
    (positive : ∀ action ∈ actions, action.Positive) (state : State)
    (reached : Transition.run step (create concurrency) actions = some state) :
    (state.concurrencyLimit : Int) = concurrency ∧
    (∀ priority, ∀ entry ∈ state.queue priority, ¬ entry.load ≤ state.concurrencyLimit - state.runningLoad) ∧
    (∀ start ∈ state.started,
      start.runningLoad + start.entry.load ≤ state.concurrencyLimit ∧
      (∃ front rest, start.queue start.priority = front ++ start.entry::rest ∧
        ∀ other ∈ front, ¬ other.load ≤ state.concurrencyLimit - start.runningLoad) ∧
      ∀ higher, rank start.priority < rank higher →
        ∀ other ∈ start.queue higher, ¬ other.load ≤ state.concurrencyLimit - start.runningLoad) := by
  have guarded : Transition.Along step (fun _ action => action.Positive) (create concurrency) actions :=
    Transition.along_of_forall step Action.Positive _ actions positive
  have kept : Accounted state ∧ Saturated state ∧ Ordered state := by
    apply Transition.invariant step _ (fun state => Accounted state ∧ Saturated state ∧ Ordered state)
      _ _ state actions ⟨create_accounted concurrency,_,_⟩ guarded reached
    · intro state action next inv loads taken
      exact ⟨step_accounted state next action inv.1 loads taken,
        step_saturated state next action inv.1 loads inv.2.1 taken,
        step_ordered state next action inv.2.2 taken⟩
    · intro priority entry member
      simp [create] at member
    · intro start member
      simp [create] at member
  obtain ⟨accounted,saturated,ordered⟩ := kept
  have given := run_limit concurrency actions state reached
  refine ⟨?_,?_,?_⟩
  · rw [given]
    simp only [create]
    split <;> omega
  · intro priority entry member
    have := saturated priority entry member
    have := accounted.bounded
    omega
  · intro start member
    have due := ordered start member
    have fitted := due.fitted
    obtain ⟨front,rest,split,misfit⟩ := due.ahead
    refine ⟨fitted,⟨front,rest,split,?_⟩,?_⟩
    · intro other listed
      have := misfit other listed
      omega
    · intro higher greater other listed
      have := due.higher higher greater other listed
      omega

theorem worker_queue_conserving_three_jobs :
    ∃ state, Transition.run step (create 2) threeJobs = some state ∧ (state.queue .high).length = 1 ∧
      ∀ entry ∈ state.queue .high, ¬ entry.load ≤ state.concurrencyLimit - state.runningLoad := by
  have computed : (Transition.run step (create 2) threeJobs).map (fun state => (state.queue .high).length) =
      some 1 := by decide
  obtain ⟨state,reached,one⟩ := Option.map_eq_some_iff.mp computed
  have conserving := worker_queue_conserving 2 (by decide) threeJobs threeJobs_positive state reached
  exact ⟨state,reached,one,conserving.2.1 .high⟩

end EventQueue.WorkerQueue

import EventQueue.SystemAttempts

/-! `hookForExceededEvents` over whole runs. The end of the hook phase is one exact value of
`attempts`: as long as no selection reads a higher one and no attempt is taken back afterwards,
the hook is called at most three times for a row. -/
namespace EventQueue.System

variable {env : Environment} {setting : Setting} {config : SelectConfig}

/-- Selections of the row for which the hook is called. -/
def exceededSelections (system : System) (id : String) : Nat :=
  (system.procs.map (fun proc => proc.chunk.eventsWithExceededTries.count id)).sum

/-- Calls of `hookForExceededEvents` for the entry in a step of the chunk. -/
def hooksNow (id : String) (chunk : Chunk) : Chunk.Action → Nat
  | .exceededOpen _ =>
    match chunk.phase with
    | .exceeding (.exceededTries other::_) => if other = id then 1 else 0
    | _ => 0
  | _ => 0

def hookCalls (id : String) (system : System) (entry : Nat × Move) : Nat :=
  match entry.2 with
  | .act index action =>
    match system.procs[index]? with
    | some proc => hooksNow id proc.chunk action
    | none => 0
  | .publish _ _ | .select _ _ _ => 0

/-- No selection reads more attempts than the last value that ends the hook phase, and nobody takes
an attempt back once the hook phase has begun. -/
def HookPhaseEnds (config : SelectConfig) (id : String) (system : System) (entry : Nat × Move) : Prop :=
  match entry.2 with
  | .publish _ _ => True
  | .select startTime baseDate selectedDelayedEventIds =>
    ∀ row ∈ system.table.entries config false startTime baseDate selectedDelayedEventIds, row.ID = id →
      row.attempts ≤ config.retryAttempts + TRIES_FOR_EXCEEDED_EVENTS
  | .act index action => 0 < system.exceededSelections id → ∀ proc ∈ system.procs[index]?,
      Chunk.openings id (proc.chunk.commits action) = 0

instance (config : SelectConfig) (id : String) (system : System) :
    (entry : Nat × Move) → Decidable (HookPhaseEnds config id system entry)
  | (_,.publish _ _) => .isTrue trivial
  | (_,.select startTime baseDate selectedDelayedEventIds) => inferInstanceAs (Decidable
      (∀ row ∈ system.table.entries config false startTime baseDate selectedDelayedEventIds, row.ID = id →
        row.attempts ≤ config.retryAttempts + TRIES_FOR_EXCEEDED_EVENTS))
  | (_,.act index action) => inferInstanceAs (Decidable (0 < system.exceededSelections id →
      ∀ proc ∈ system.procs[index]?, Chunk.openings id (proc.chunk.commits action) = 0))

def isHookFor (id : String) : ExceededJob → Bool
  | .exceededTriesExceeded _ => false
  | .exceededTries other => decide (other = id)

def hooksLeft (id : String) (chunk : Chunk) : Nat :=
  match chunk.phase with
  | .preprocessing => chunk.eventsWithExceededTries.count id
  | .exceeding jobs | .exceededTx _ _ _ jobs => jobs.countP (isHookFor id)
  | .processing | .persisting | .persistTx _ | .finished | .aborted => 0

theorem hooksLeft_late {id : String} {chunk : Chunk} (late : ¬Chunk.Early chunk.phase) : hooksLeft id chunk = 0 := by
  unfold hooksLeft
  cases phase : chunk.phase <;> simp_all [Chunk.Early]

theorem countP_exceededJobs (id : String) (chunk : Chunk) :
    chunk.exceededJobs.countP (isHookFor id) = chunk.eventsWithExceededTries.count id := by
  have tries : (chunk.eventsWithExceededTries.map ExceededJob.exceededTries).countP (isHookFor id) =
      chunk.eventsWithExceededTries.count id := by
    rw [List.countP_map]
    rfl
  unfold Chunk.exceededJobs
  rw [List.countP_append,tries]
  split <;> simp [isHookFor]

theorem hooksLeft_openExceeded (env : Environment) (id : String) (chunk : Chunk) (now : Nat) (job : ExceededJob) (hookThrew : Bool)
    (jobs : List ExceededJob) :
    hooksLeft id (chunk.openExceeded env now job hookThrew jobs) ≤ jobs.countP (isHookFor id) := by
  unfold Chunk.openExceeded
  simp only
  split <;> simp [hooksLeft]

theorem preprocess_phase (env : Environment) (payloads : String → Payload) (chunk : Chunk) :
    (chunk.preprocess env payloads).phase = .exceeding chunk.exceededJobs ∨
      (chunk.preprocess env payloads).phase = .aborted := by
  unfold Chunk.preprocess
  simp only
  split
  · exact Or.inl rfl
  · exact Or.inr rfl

/-- A step calls the hook no more often than it lowers the calls still to come. -/
theorem hook_paid {id : String} {now : Nat} {action : Chunk.Action} {chunk next : Chunk}
    (moved : Chunk.Taken env setting chunk now action next) :
    hooksNow id chunk action + hooksLeft id next ≤ hooksLeft id chunk := by
  by_cases early : Chunk.Early chunk.phase
  · cases moved with
    | preprocess payloads phase =>
      rcases preprocess_phase env payloads chunk with after | after
      · simp [hooksNow,hooksLeft,phase,after,countP_exceededJobs]
      · simp [hooksNow,hooksLeft,phase,after]
    | exceededOpen hookThrew job jobs phase hooked =>
      have less := hooksLeft_openExceeded env id chunk now job hookThrew jobs
      have before : hooksLeft id chunk = (job::jobs).countP (isHookFor id) := by simp [hooksLeft,phase]
      rw [before,List.countP_cons]
      cases job with
      | exceededTriesExceeded ids => simpa [hooksNow,phase,isHookFor] using less
      | exceededTries other =>
        simp only [hooksNow,phase,isHookFor,decide_eq_true_eq]
        omega
    | exceededWrite ok job hookThrew tx jobs phase more =>
      have before : hooksLeft id chunk = jobs.countP (isHookFor id) := by simp [hooksLeft,phase]
      rw [before]
      simp only [hooksNow,Nat.zero_add]
      unfold Chunk.exceededWrite
      split
      · simp [hooksLeft]
      · simp [hooksLeft]
      · split
        · simp [hooksLeft]
        · exact hooksLeft_openExceeded env id _ now _ true jobs
    | exceededCommit ok job hookThrew tx jobs phase written =>
      simp only [hooksNow,Nat.zero_add]
      unfold Chunk.exceededCommit
      split
      · simp [hooksLeft,phase]
      · simp [hooksLeft]
    | noPayload phase none => simp [hooksNow,hooksLeft]
    | clusterError phase =>
      have late : ¬Chunk.Early (chunk.handleErrorOfChunk env).phase := by
        simp only [Chunk.handleErrorOfChunk]
        split <;> simp [Chunk.Early]
      simp [hooksNow,hooksLeft_late late]
    | cluster clusters phase valid => simp [hooksNow,hooksLeft]
    | _ => simp_all [Chunk.Early]
  · rw [hooksLeft_late early,hooksLeft_late (moved.late early)]
    cases moved <;> simp_all [hooksNow,Chunk.Early]

structure Hooked (table : Table) (chunk : Chunk) : Prop where
  exceeding : chunk.Exceeding
  once : chunk.Once
  distinct : chunk.eventsWithExceededTries.Nodup
  listed : chunk.eventsWithExceededTries ⊆ table.ids

/-- Every selection for the hook has raised the attempts of the row, and there were three at most. -/
structure HookPhase (config : SelectConfig) (id : String) (system : System) : Prop where
  hooked : ∀ proc ∈ system.procs, Hooked system.table proc.chunk
  few : system.exceededSelections id ≤ 3
  raised : 0 < system.exceededSelections id → ∀ row ∈ system.table.rows, row.ID = id →
    config.retryAttempts + system.exceededSelections id ≤ row.attempts

theorem HookPhase.publish {id : String} {system : System} (hook : HookPhase config id system) (now position : Nat)
    (row : Row) (fresh : row.ID ∉ system.table.ids) :
    HookPhase config id {system with now := now,table := system.table.insert position row fresh} where
  hooked proc member := by
    obtain ⟨exceeding,once,distinct,listed⟩ := hook.hooked proc member
    refine ⟨exceeding,once,distinct,?_⟩
    intro name chosen
    obtain ⟨other,inside,rfl⟩ := List.mem_map.mp (listed chosen)
    exact List.mem_map_of_mem ((Table.mem_insert fresh).mpr (Or.inr inside))
  few := hook.few
  raised begun other member same := by
    rcases (Table.mem_insert fresh).mp member with rfl | old
    · have some : ∃ proc ∈ system.procs, 0 < proc.chunk.eventsWithExceededTries.count id := by
        by_contra none
        push Not at none
        have zero : system.exceededSelections id = 0 := by
          refine List.sum_eq_zero ?_
          intro count listed
          obtain ⟨proc,inside,rfl⟩ := List.mem_map.mp listed
          exact Nat.le_zero.mp (none proc inside)
        exact absurd zero (Nat.pos_iff_ne_zero.mp begun)
      obtain ⟨proc,inside,called⟩ := some
      refine absurd ?_ fresh
      exact same ▸ (hook.hooked proc inside).listed (List.count_pos_iff.mp called)
    · exact hook.raised begun other old same

theorem hooked_selection (config : SelectConfig) (table : Table) (now startTime baseDate : Nat)
    (delayed : List String) : Hooked table (selection config table now startTime baseDate delayed) where
  exceeding := Chunk.exceeding_selected _ _ _ _
  once := ⟨by simp [selection,Chunk.openTxs,Chunk.selected],by simp [selection,Chunk.openTxs,Chunk.selected]⟩
  distinct := (List.nodup_append.mp (idsOfKind_nodup config table false startTime baseDate delayed)).2.1
  listed := by
    intro name chosen
    obtain ⟨row,inside,_,rfl⟩ := (mem_idsOfKind config).mp chosen
    exact List.mem_map_of_mem (mem_entries_rows config inside).1

theorem selection_exceeded {table : Table} {now startTime baseDate : Nat} {delayed : List String} {id : String}
    (own : id ∈ (selection config table now startTime baseDate delayed).eventsWithExceededTries)
    (ends : ∀ row ∈ table.entries config false startTime baseDate delayed, row.ID = id →
      row.attempts ≤ config.retryAttempts + TRIES_FOR_EXCEEDED_EVENTS) :
    ∃ row ∈ table.rows, row.ID = id ∧ config.retryAttempts ≤ row.attempts ∧ row.attempts < config.retryAttempts + 3 := by
  obtain ⟨row,inside,kind,same⟩ := (mem_idsOfKind config).mp own
  have last := ends row inside same
  refine ⟨row,(mem_entries_rows config inside).1,same,?_⟩
  unfold eventKind at kind
  unfold TRIES_FOR_EXCEEDED_EVENTS at kind last
  split at kind
  · cases kind
  · split at kind
    · omega
    · split at kind
      · cases kind
      · split at kind <;> cases kind

theorem HookPhase.select {id : String} {system : System} (hook : HookPhase config id system)
    (now startTime baseDate : Nat) (delayed : List String)
    (ends : ∀ row ∈ system.table.entries config false startTime baseDate delayed, row.ID = id →
      row.attempts ≤ config.retryAttempts + TRIES_FOR_EXCEEDED_EVENTS) :
    HookPhase config id ⟨now,system.table.setToInProgress
        (selection config system.table now startTime baseDate delayed).selectedEventMap now,
      system.procs ++ [⟨selection config system.table now startTime baseDate delayed,now⟩]⟩ := by
  have mine := hooked_selection config system.table now startTime baseDate delayed
  have called : ∀ own : id ∈ (selection config system.table now startTime baseDate delayed).eventsWithExceededTries,
      ∃ row ∈ system.table.rows, row.ID = id ∧ config.retryAttempts ≤ row.attempts ∧
        row.attempts < config.retryAttempts + 3 := fun own => selection_exceeded own ends
  have chosen : ∀ own : id ∈ (selection config system.table now startTime baseDate delayed).eventsWithExceededTries,
      id ∈ (selection config system.table now startTime baseDate delayed).selectedEventMap :=
    fun own => List.mem_append_right _ own
  generalize selection config system.table now startTime baseDate delayed = chunk at mine called chosen
  have single := List.nodup_iff_count_le_one.mp mine.distinct id
  have counted : System.exceededSelections ⟨now,system.table.setToInProgress chunk.selectedEventMap now,
      system.procs ++ [⟨chunk,now⟩]⟩ id = system.exceededSelections id + chunk.eventsWithExceededTries.count id :=
    Parties.sum_joined _ _ _
  refine ⟨?_,?_,?_⟩
  · intro proc member
    have same : (system.table.setToInProgress chunk.selectedEventMap now).ids = system.table.ids :=
      Table.ids_change _ _ _
    rcases List.mem_append.mp member with old | new
    · obtain ⟨exceeding,once,distinct,listed⟩ := hook.hooked proc old
      exact ⟨exceeding,once,distinct,same ▸ listed⟩
    · rw [List.mem_singleton] at new
      subst new
      exact ⟨mine.exceeding,mine.once,mine.distinct,same ▸ mine.listed⟩
  · rw [counted]
    by_cases own : id ∈ chunk.eventsWithExceededTries
    · obtain ⟨row,inside,same,_,below⟩ := called own
      by_cases begun : 0 < system.exceededSelections id
      · have above := hook.raised begun row inside same
        omega
      · omega
    · rw [List.count_eq_zero_of_not_mem own]
      exact hook.few
  · intro begun row member same
    rw [counted] at begun ⊢
    obtain ⟨old,inside,key,changed⟩ := Table.mem_setToInProgress member
    have raised : ∀ _ : 0 < system.exceededSelections id,
        config.retryAttempts + system.exceededSelections id ≤ old.attempts :=
      fun before => hook.raised before old inside (key.trans same)
    have kept : old.attempts ≤ row.attempts := by
      split at changed
      · subst changed
        simp [Row.toInProgress]
      · rw [changed]
    by_cases own : id ∈ chunk.eventsWithExceededTries
    · obtain ⟨other,there,name,above,_⟩ := called own
      have unique : other = old := List.inj_on_of_nodup_map system.table.nodup there inside
        (name.trans (key.trans same).symm)
      subst unique
      rw [name,if_pos (chosen own)] at changed
      subst changed
      simp only [Row.toInProgress]
      by_cases before : 0 < system.exceededSelections id
      · have above := raised before
        omega
      · omega
    · rw [List.count_eq_zero_of_not_mem own] at begun ⊢
      have above := raised begun
      omega

theorem HookPhase.act {id : String} {system : System} (hook : HookPhase config id system) {now index : Nat}
    {action : Chunk.Action} {proc : Proc} {next : Chunk} (found : system.procs[index]? = some proc)
    (kept : 0 < system.exceededSelections id → Chunk.openings id (proc.chunk.commits action) = 0)
    (moved : Chunk.Taken env setting proc.chunk now action next) :
    HookPhase config id ⟨now,tableAfter system.table proc.chunk now action,
      system.procs.set index ⟨next,tickAfter proc now action⟩⟩ := by
  have mine := hook.hooked proc (List.mem_of_getElem? found)
  obtain ⟨_,_,tries,_⟩ := moved.fixed
  have counted : System.exceededSelections ⟨now,tableAfter system.table proc.chunk now action,
      system.procs.set index ⟨next,tickAfter proc now action⟩⟩ id = system.exceededSelections id := by
    have exchanged := Parties.sum_moved (fun proc : Proc => proc.chunk.eventsWithExceededTries.count id)
      ⟨next,tickAfter proc now action⟩ found
    simp only [tries] at exchanged
    exact Nat.add_right_cancel exchanged
  refine ⟨?_,counted ▸ hook.few,?_⟩
  · intro other member
    have same := tableAfter_ids system.table proc.chunk now action
    rcases List.mem_or_eq_of_mem_set member with old | rfl
    · obtain ⟨exceeding,once,distinct,listed⟩ := hook.hooked other old
      exact ⟨exceeding,once,distinct,same.symm ▸ listed⟩
    · refine ⟨mine.exceeding.step moved,mine.once.step moved,tries ▸ mine.distinct,?_⟩
      exact same.symm ▸ tries ▸ mine.listed
  · intro begun row member same
    rw [counted] at begun ⊢
    obtain ⟨old,inside,key,changed⟩ := tableAfter_attempts mine.once member
    have above := hook.raised begun old inside (key.trans same)
    rw [same,kept begun] at changed
    omega

theorem HookPhase.step {id : String} {system next : System} (hook : HookPhase config id system) (entry : Nat × Move)
    (ends : HookPhaseEnds config id system entry) (taken : system.step env setting config entry = some next) :
    HookPhase config id next := by
  obtain ⟨now,move⟩ := entry
  obtain ⟨_,known⟩ := step_taken env setting config system next now move taken
  cases known with
  | publish position row fresh => exact hook.publish now position row fresh
  | select startTime baseDate delayed earlier free => exact hook.select now startTime baseDate delayed ends
  | act index action proc chunk found reads moved => exact hook.act found (fun begun => ends begun proc found) moved

def hooksMade (id : String) (system : System) : Int :=
  system.exceededSelections id - (system.procs.map (fun proc => hooksLeft id proc.chunk)).sum

theorem hookCalls_paid {id : String} {system next : System} (entry : Nat × Move)
    (taken : system.step env setting config entry = some next) :
    hookCalls id system entry + hooksMade id system ≤ hooksMade id next := by
  obtain ⟨now,move⟩ := entry
  obtain ⟨_,known⟩ := step_taken env setting config system next now move taken
  cases known with
  | publish position row fresh => simp [hookCalls,hooksMade,exceededSelections]
  | select startTime baseDate delayed earlier free =>
    simp only [hookCalls,hooksMade,exceededSelections,Parties.sum_joined]
    simp [hooksLeft,selection,Chunk.selected]
  | act index action proc chunk found reads moved =>
    obtain ⟨_,_,tries,_⟩ := moved.fixed
    have paid : hooksNow id proc.chunk action + hooksLeft id chunk ≤ hooksLeft id proc.chunk := hook_paid moved
    have exceeded := Parties.sum_moved (fun proc : Proc => proc.chunk.eventsWithExceededTries.count id)
      ⟨chunk,tickAfter proc now action⟩ found
    have left := Parties.sum_moved (fun proc : Proc => hooksLeft id proc.chunk)
      ⟨chunk,tickAfter proc now action⟩ found
    simp only [tries] at exceeded left
    simp only [hookCalls,found,hooksMade,exceededSelections]
    omega

theorem hook_called_three_times_at_most (env : Environment) (setting : Setting) (config : SelectConfig) (table : Table)
    (id : String) (start : Nat) (entries : List (Nat × Move)) (system : System)
    (guarded : Transition.Along (step env setting config) (HookPhaseEnds config id) ⟨start,table,[]⟩ entries)
    (reached : Transition.run (step env setting config) ⟨start,table,[]⟩ entries = some system) :
    Transition.total (step env setting config) (hookCalls id) ⟨start,table,[]⟩ entries ≤ 3 ∧
      ∀ proc ∈ system.procs, id ∈ proc.chunk.exceededTriesExceeded → ¬Chunk.Early proc.chunk.phase →
        proc.chunk.phase ≠ .aborted → ∃ update ∈ proc.chunk.committed,
          id ∈ update.ids ∧ update.status = EventProcessingStatus.Exceeded := by
  have initial : HookPhase config id ⟨start,table,[]⟩ :=
    ⟨by simp,by simp [exceededSelections],by simp [exceededSelections]⟩
  have preserved : ∀ state entry next, HookPhase config id state → HookPhaseEnds config id state entry →
      step env setting config state entry = some next → HookPhase config id next :=
    fun state entry next hook ends taken => hook.step entry ends taken
  have hook := Transition.invariant (step env setting config) _ _ preserved _ _ _ initial guarded reached
  have paid := Transition.total_le (step env setting config) _ _ (hookCalls id) (hooksMade id) preserved
    (fun state entry next _ _ taken => hookCalls_paid entry taken) _ _ _ initial guarded reached
  constructor
  · have few := hook.few
    simp only [hooksMade,exceededSelections,List.map_nil,List.sum_nil] at paid few
    omega
  · intro proc member own late running
    have exceeding := (hook.hooked proc member).exceeding
    refine exceeding.handled proc.chunk.exceededTriesExceeded ?_ ?_ running id own
    · exact Chunk.mem_exceededJobs.mpr (Or.inl ⟨List.ne_nil_of_mem own,rfl⟩)
    · rw [(Chunk.jobsLeft_late late).1]
      exact List.not_mem_nil

/-- A row that has been attempted more often than the retries now allow. -/
def exhausted (attempts : Int) : Table := ⟨[⟨"e1",0,none,attempts,none⟩],by simp⟩

/-- Processors that select the row and come no further than the hook, one after the other. -/
def hookCrashes (count : Nat) : List (Nat × Move) :=
  (List.range count).flatMap (fun index => [(1 + 101 * index,.select 1 (1 + 101 * index) []),
    (1 + 101 * index,.act index (.preprocess (fun _ => .value))),(1 + 101 * index,.act index (.exceededOpen true))])

/-- After three crashes in the hook a fourth processor gives the row up. -/
def givenUp : List (Nat × Move) :=
  hookCrashes 3 ++ [(304,.select 1 304 []),(304,.act 3 (.preprocess (fun _ => .value))),
    (304,.act 3 (.exceededOpen false)),(305,.act 3 (.exceededWrite true)),(306,.act 3 (.exceededCommit true)),
    (306,.act 3 .noPayload),(307,.act 3 .persistOpen),(307,.act 3 (.persistCommit true))]

theorem hook_called_three_times_at_most_given_up :
    ∃ system, Transition.run (step .plain twoAtATime window) ⟨0,exhausted 3,[]⟩ givenUp = some system ∧
      Transition.total (step .plain twoAtATime window) (hookCalls "e1") ⟨0,exhausted 3,[]⟩ givenUp = 3 ∧
      ∃ proc ∈ system.procs, ∃ update ∈ proc.chunk.committed,
        "e1" ∈ update.ids ∧ update.status = EventProcessingStatus.Exceeded := by
  have computed : ((Transition.run (step .plain twoAtATime window) ⟨0,exhausted 3,[]⟩ givenUp).map
      (fun system => system.procs.any (fun proc =>
        decide ("e1" ∈ proc.chunk.exceededTriesExceeded) && Chunk.isFinished proc.chunk.phase))) = some true := by
    decide
  obtain ⟨system,reached,last⟩ := Option.map_eq_some_iff.mp computed
  obtain ⟨proc,member,facts⟩ := List.any_eq_true.mp last
  simp only [Bool.and_eq_true,decide_eq_true_eq,Chunk.isFinished_iff] at facts
  obtain ⟨_,persisted⟩ := hook_called_three_times_at_most .plain twoAtATime window (exhausted 3) "e1" 0 givenUp system
    (by decide) reached
  refine ⟨system,reached,by decide,proc,member,persisted proc member facts.1 ?_ ?_⟩
  · simp [facts.2,Chunk.Early]
  · simp [facts.2]

theorem hook_called_four_times :
    ∃ system, Transition.run (step .plain twoAtATime window) ⟨0,exhausted 10,[]⟩ (hookCrashes 4) = some system ∧
      ¬Transition.total (step .plain twoAtATime window) (hookCalls "e1") ⟨0,exhausted 10,[]⟩ (hookCrashes 4) ≤ 3 := by
  have computed : (Transition.run (step .plain twoAtATime window) ⟨0,exhausted 10,[]⟩ (hookCrashes 4)).isSome = true := by
    decide
  obtain ⟨system,reached⟩ := Option.isSome_iff_exists.mp computed
  exact ⟨system,reached,by decide⟩

end EventQueue.System

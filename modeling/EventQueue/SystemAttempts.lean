import EventQueue.ChunkAttempts
import EventQueue.System

/-! The attempts of a row over whole runs of any processors: every selection adds one, every
committed status Open takes one back, and `processEvent` is called for the row no more often
than the retries allow. -/
namespace EventQueue.System

variable {env : Environment} {setting : Setting} {config : SelectConfig}

def selections (system : System) (id : String) : Nat :=
  (system.procs.map (fun proc => if id ∈ proc.chunk.selectedEventMap then 1 else 0)).sum

def openSelections (system : System) (id : String) : Nat :=
  (system.procs.map (fun proc => if id ∈ proc.chunk.queueEntries then 1 else 0)).sum

def openWrites (system : System) (id : String) : Nat :=
  (system.procs.map (fun proc => Chunk.openings id proc.chunk.committed)).sum

def invocations (system : System) (id : String) : Nat :=
  (system.procs.map (fun proc => proc.chunk.invoked.count id)).sum

/-- The row is created with no attempt, clusters hold one entry and handlers report on it only. -/
def PlainProcessing (env : Environment) (id : String) (system : System) (entry : Nat × Move) : Prop :=
  match entry.2 with
  | .publish _ row => row.ID = id → row.attempts = 0
  | .select _ _ _ => True
  | .act index action => ∀ proc ∈ system.procs[index]?, Chunk.Own env proc.chunk action ∧
      Chunk.BaseClusters proc.chunk action

instance (env : Environment) (id : String) (system : System) :
    (entry : Nat × Move) → Decidable (PlainProcessing env id system entry)
  | (_,.publish _ row) => inferInstanceAs (Decidable (row.ID = id → row.attempts = 0))
  | (_,.select _ _ _) => .isTrue trivial
  | (_,.act index action) => inferInstanceAs (Decidable (∀ proc ∈ system.procs[index]?,
      Chunk.Own env proc.chunk action ∧ Chunk.BaseClusters proc.chunk action))

theorem apply_attempts (updates : List Update) (row : Row)
    (known : ∀ update ∈ updates, update.attemptTakenBack = decide (update.status = EventProcessingStatus.Open)) :
    (updates.foldl (fun row update => update.apply row) row).attempts =
      row.attempts - Chunk.openings row.ID updates := by
  induction updates generalizing row with
  | nil => simp [Chunk.openings]
  | cons update rest ih =>
    have key : (update.apply row).ID = row.ID := by
      unfold Update.apply
      split <;> rfl
    have first := known update (by simp)
    rw [List.foldl_cons,ih _ (fun other member => known other (by simp [member])),key]
    simp only [Chunk.openings,List.countP_cons,decide_eq_true_eq]
    by_cases listed : row.ID ∈ update.ids
    · by_cases opens : update.status = EventProcessingStatus.Open
      · simp [Update.apply,listed,first,opens]
        omega
      · simp [Update.apply,listed,first,opens]
    · simp [Update.apply,listed]

/-- A step takes back the attempts its committed updates say. -/
theorem tableAfter_attempts {table : Table} {chunk : Chunk} {now : Nat} {action : Chunk.Action} (once : chunk.Once)
    {row : Row} (member : row ∈ (tableAfter table chunk now action).rows) :
    ∃ old ∈ table.rows, old.ID = row.ID ∧
      row.attempts = old.attempts - Chunk.openings row.ID (chunk.commits action) := by
  unfold tableAfter at member
  split at member
  · have none : ∀ found, chunk.commits (.tick found true) = [] := fun _ => rfl
    rw [none]
    split at member
    · exact ⟨row,member,rfl,by simp [Chunk.openings]⟩
    · obtain ⟨old,inside,rfl⟩ := List.mem_map.mp member
      refine ⟨old,inside,?_⟩
      split <;> simp [Chunk.openings]
  · obtain ⟨old,inside,rfl⟩ := List.mem_map.mp member
    refine ⟨old,inside,(apply_ID _ _).symm,?_⟩
    rw [apply_ID]
    refine apply_attempts _ _ ?_
    intro update listed
    obtain ⟨tx,own,written⟩ := Chunk.commits_open listed
    exact once.takenBack tx own update written

structure Counted (setting : Setting) (table : Table) (id : String) (chunk : Chunk) : Prop where
  accounted : Chunk.Accounted setting id chunk
  distinct : chunk.selectedEventMap.Nodup
  listed : chunk.selectedEventMap ⊆ table.ids

theorem Counted.openings {table : Table} {id : String} {chunk : Chunk} (counted : Counted setting table id chunk) :
    Chunk.openings id chunk.committed ≤ if id ∈ chunk.selectedEventMap then 1 else 0 := by
  have bound := counted.accounted.opened.bound
  have single := List.nodup_iff_count_le_one.mp counted.distinct id
  split
  · omega
  · rename_i absent
    rw [List.count_eq_zero_of_not_mem absent] at bound
    exact bound

theorem Counted.invoked {table : Table} {id : String} {chunk : Chunk} (counted : Counted setting table id chunk) :
    chunk.invoked.count id ≤ if id ∈ chunk.queueEntries then 1 else 0 := by
  have bound := counted.accounted.invoked.bound
  have places := counted.accounted.opened.entries.count_le id
  have single := List.nodup_iff_count_le_one.mp counted.distinct id
  split
  · omega
  · rename_i absent
    rw [List.count_eq_zero_of_not_mem absent] at bound
    omega

/-- The accounts of the row: its attempts, and how much of the retries is used up. -/
structure Ledger (setting : Setting) (config : SelectConfig) (id : String) (system : System) : Prop where
  counted : ∀ proc ∈ system.procs, Counted setting system.table id proc.chunk
  attempts : ∀ row ∈ system.table.rows, row.ID = id →
    row.attempts = system.selections id - system.openWrites id
  retries : (system.openSelections id : Int) ≤ config.retryAttempts + system.openWrites id

theorem Ledger.openWrites_le {id : String} {system : System} (ledger : Ledger setting config id system) :
    system.openWrites id ≤ system.selections id :=
  Parties.sum_le_sum _ _ _ (fun proc member => (ledger.counted proc member).openings)

theorem Ledger.openSelections_le {id : String} {system : System} (ledger : Ledger setting config id system) :
    system.openSelections id ≤ system.selections id := by
  refine Parties.sum_le_sum _ _ _ (fun proc member => ?_)
  have entries := (ledger.counted proc member).accounted.opened.entries.subset
  split
  · rename_i own
    simp [entries own]
  · exact Nat.zero_le _

theorem Ledger.invocations_le {id : String} {system : System} (ledger : Ledger setting config id system) :
    system.invocations id ≤ system.openSelections id :=
  Parties.sum_le_sum _ _ _ (fun proc member => (ledger.counted proc member).invoked)

theorem Ledger.publish {id : String} {system : System} (ledger : Ledger setting config id system) (now position : Nat)
    (row : Row) (fresh : row.ID ∉ system.table.ids) (created : row.ID = id → row.attempts = 0) :
    Ledger setting config id {system with now := now,table := system.table.insert position row fresh} where
  counted proc member := by
    obtain ⟨accounted,distinct,listed⟩ := ledger.counted proc member
    refine ⟨accounted,distinct,?_⟩
    intro name chosen
    obtain ⟨other,inside,rfl⟩ := List.mem_map.mp (listed chosen)
    exact List.mem_map_of_mem ((Table.mem_insert fresh).mpr (Or.inr inside))
  attempts other member same := by
    rcases (Table.mem_insert fresh).mp member with rfl | old
    · have unselected : system.selections id = 0 := by
        refine List.sum_eq_zero ?_
        intro count listed
        obtain ⟨proc,inside,rfl⟩ := List.mem_map.mp listed
        refine if_neg (fun chosen => fresh ?_)
        exact same ▸ (ledger.counted proc inside).listed chosen
      have unopened : system.openWrites id = 0 := Nat.le_zero.mp (unselected ▸ ledger.openWrites_le)
      rw [created same]
      change 0 = (system.selections id : Int) - system.openWrites id
      rw [unselected,unopened]
      rfl
    · exact ledger.attempts other old same
  retries := ledger.retries

theorem counted_selection (setting : Setting) (config : SelectConfig) (table : Table) (id : String)
    (now startTime baseDate : Nat) (delayed : List String) :
    Counted setting table id (selection config table now startTime baseDate delayed) where
  accounted := Chunk.accounted_selected _ _ _ _ _ _
  distinct := idsOfKind_nodup config table false startTime baseDate delayed
  listed := by
    intro name chosen
    obtain ⟨row,inside,rfl⟩ := selection_entry chosen
    exact List.mem_map_of_mem (mem_entries_rows config inside).1

theorem selection_open {table : Table} {now startTime baseDate : Nat} {delayed : List String} {id : String}
    (own : id ∈ (selection config table now startTime baseDate delayed).queueEntries) :
    ∃ row ∈ table.rows, row.ID = id ∧ row.attempts < config.retryAttempts := by
  obtain ⟨row,inside,kind,same⟩ := (mem_idsOfKind config).mp own
  refine ⟨row,(mem_entries_rows config inside).1,same,?_⟩
  unfold eventKind at kind
  split at kind
  · cases kind
  · split at kind
    · cases kind
    · omega

theorem Ledger.select {id : String} {system : System} (ledger : Ledger setting config id system)
    (now startTime baseDate : Nat) (delayed : List String) :
    Ledger setting config id ⟨now,system.table.setToInProgress
        (selection config system.table now startTime baseDate delayed).selectedEventMap now,
      system.procs ++ [⟨selection config system.table now startTime baseDate delayed,now⟩]⟩ := by
  have mine := counted_selection setting config system.table id now startTime baseDate delayed
  generalize chosen : selection config system.table now startTime baseDate delayed = chunk at mine
  have blank : chunk.committed = [] := by rw [← chosen]; rfl
  have writes : System.openWrites ⟨now,system.table.setToInProgress chunk.selectedEventMap now,
      system.procs ++ [⟨chunk,now⟩]⟩ id = system.openWrites id := by
    simp [System.openWrites,blank,Chunk.openings]
  refine ⟨?_,?_,?_⟩
  · intro proc member
    have same : (system.table.setToInProgress chunk.selectedEventMap now).ids = system.table.ids :=
      Table.ids_change _ _ _
    rcases List.mem_append.mp member with old | new
    · obtain ⟨accounted,distinct,listed⟩ := ledger.counted proc old
      exact ⟨accounted,distinct,same ▸ listed⟩
    · rw [List.mem_singleton] at new
      subst new
      exact ⟨mine.accounted,mine.distinct,same ▸ mine.listed⟩
  · intro row member same
    obtain ⟨old,inside,key,changed⟩ := Table.mem_setToInProgress member
    have before := ledger.attempts old inside (key.trans same)
    rw [writes]
    simp only [System.selections,Parties.sum_joined] at before ⊢
    rw [key,same] at changed
    split at changed
    · rename_i taken
      subst changed
      simp only [Row.toInProgress,taken,if_true]
      omega
    · rename_i spared
      subst changed
      simp only [spared,if_false]
      omega
  · rw [writes]
    have bound := ledger.retries
    have few := ledger.openSelections_le
    simp only [System.openSelections,Parties.sum_joined] at bound few ⊢
    split
    · rename_i own
      obtain ⟨row,inside,same,retry⟩ := selection_open (chosen ▸ own)
      have before := ledger.attempts row inside same
      omega
    · simpa using bound

theorem Ledger.act {id : String} {system : System} (ledger : Ledger setting config id system) {now index : Nat}
    {action : Chunk.Action} {proc : Proc} {next : Chunk} (found : system.procs[index]? = some proc)
    (named : Chunk.Own env proc.chunk action) (base : Chunk.BaseClusters proc.chunk action)
    (moved : Chunk.Taken env setting proc.chunk now action next) :
    Ledger setting config id ⟨now,tableAfter system.table proc.chunk now action,
      system.procs.set index ⟨next,tickAfter proc now action⟩⟩ := by
  have mine := ledger.counted proc (List.mem_of_getElem? found)
  obtain ⟨entries,selected⟩ := moved.selection
  have committed : Chunk.openings id next.committed =
      Chunk.openings id proc.chunk.committed + Chunk.openings id (proc.chunk.commits action) := by
    rw [moved.committed,Chunk.openings_append]
  have chosen := Parties.sum_moved (fun proc => if id ∈ proc.chunk.selectedEventMap then 1 else 0)
    ⟨next,tickAfter proc now action⟩ found
  have opened := Parties.sum_moved (fun proc => if id ∈ proc.chunk.queueEntries then 1 else 0)
    ⟨next,tickAfter proc now action⟩ found
  have written := Parties.sum_moved (fun proc => Chunk.openings id proc.chunk.committed)
    ⟨next,tickAfter proc now action⟩ found
  simp only [selected,entries,committed] at chosen opened written
  refine ⟨?_,?_,?_⟩
  · intro other member
    have same := tableAfter_ids system.table proc.chunk now action
    rcases List.mem_or_eq_of_mem_set member with old | rfl
    · obtain ⟨accounted,distinct,listed⟩ := ledger.counted other old
      exact ⟨accounted,distinct,same.symm ▸ listed⟩
    · refine ⟨mine.accounted.step named base moved,selected ▸ mine.distinct,?_⟩
      exact same.symm ▸ selected ▸ mine.listed
  · intro row member same
    obtain ⟨old,inside,key,changed⟩ := tableAfter_attempts mine.accounted.once member
    have before := ledger.attempts old inside (key.trans same)
    rw [same] at changed
    simp only [System.selections,System.openWrites] at before ⊢
    omega
  · have bound := ledger.retries
    simp only [System.openSelections,System.openWrites] at bound ⊢
    omega

theorem Ledger.step {id : String} {system next : System} (ledger : Ledger setting config id system)
    (entry : Nat × Move) (plain : PlainProcessing env id system entry)
    (taken : system.step env setting config entry = some next) : Ledger setting config id next := by
  obtain ⟨now,move⟩ := entry
  obtain ⟨_,known⟩ := step_taken env setting config system next now move taken
  cases known with
  | publish position row fresh => exact ledger.publish now position row fresh plain
  | select startTime baseDate delayed earlier free => exact ledger.select now startTime baseDate delayed
  | act index action proc chunk found reads moved =>
    obtain ⟨named,base⟩ := plain proc found
    exact ledger.act found named base moved

theorem attempts_accounted (env : Environment) (setting : Setting) (config : SelectConfig)
    (nonnegative : 0 ≤ config.retryAttempts) (table : Table) (id : String)
    (created : ∀ row ∈ table.rows, row.ID = id → row.attempts = 0) (start : Nat) (entries : List (Nat × Move))
    (system : System)
    (guarded : Transition.Along (step env setting config) (PlainProcessing env id) ⟨start,table,[]⟩ entries)
    (reached : Transition.run (step env setting config) ⟨start,table,[]⟩ entries = some system) :
    (∀ row ∈ system.table.rows, row.ID = id →
      row.attempts = system.selections id - system.openWrites id ∧ 0 ≤ row.attempts) ∧
    (system.invocations id : Int) - system.openWrites id ≤ config.retryAttempts := by
  have ledger : Ledger setting config id system := by
    refine Transition.invariant (step env setting config) (PlainProcessing env id) (Ledger setting config id) ?_ _ _ _
      ?_ guarded reached
    · intro state entry next ledger plain taken
      exact ledger.step entry plain taken
    · exact ⟨by simp,fun row member same => by simpa [selections,openWrites] using created row member same,
        by simpa [openSelections,openWrites] using nonnegative⟩
  have opened := ledger.openWrites_le
  have invoked := ledger.invocations_le
  have retries := ledger.retries
  refine ⟨?_,by omega⟩
  intro row member same
  have attempts := ledger.attempts row member same
  exact ⟨attempts,by omega⟩

/-- The first entry goes back to Open, its attempt with it. -/
def openedOnce : List (Nat × Move) :=
  [(1,.select 1 1 []),(1,.act 0 (.preprocess (fun _ => .value))),
    (1,.act 0 (.cluster (some [("e1",["e1"]),("e2",["e2"])]))),(2,.act 0 (.launch 0)),(3,.act 0 (.processEvent 0 true)),
    (4,.act 0 (.report 0 (.returned (.arr [.arr [.str "e1",.nat EventProcessingStatus.Open]])))),
    (5,.act 0 (.settle 0 false true)),(5,.act 0 (.write 0 true)),(6,.act 0 (.commit 0 true))]

theorem attempts_accounted_opened_once :
    ∃ system, Transition.run (step .plain twoAtATime window) ⟨0,twoEntries,[]⟩ openedOnce = some system ∧
      (system.selections "e1",system.openWrites "e1",system.invocations "e1") = (1,1,1) ∧
      ∀ row ∈ system.table.rows, row.ID = "e1" → row.attempts = 0 := by
  have computed : (Transition.run (step .plain twoAtATime window) ⟨0,twoEntries,[]⟩ openedOnce).map
      (fun system => (system.selections "e1",system.openWrites "e1",system.invocations "e1")) = some (1,1,1) := by
    decide
  obtain ⟨system,reached,counts⟩ := Option.map_eq_some_iff.mp computed
  refine ⟨system,reached,counts,?_⟩
  obtain ⟨accounts,_⟩ := attempts_accounted .plain twoAtATime window (by decide) twoEntries "e1" (by decide) 0 openedOnce
    system (by decide) reached
  simp only [Prod.mk.injEq] at counts
  intro row member same
  rw [(accounts row member same).1,counts.1,counts.2.1]
  rfl

end EventQueue.System

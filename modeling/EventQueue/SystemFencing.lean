import EventQueue.ChunkFenced
import EventQueue.ChunkSelection

/-! Keep-alive fencing across processors. A tick that reads an open entry in progress which another
processor has selected since finds a timestamp that is not its own; from then on the processor
starts no cluster, and what it had not started stays without a status of its own. -/
namespace EventQueue.System

variable {env : Environment} {setting : Setting} {config : SelectConfig}

/-- The clock has moved on since the rows of a selection were last written by a processor that holds them. -/
def SelectsLater (config : SelectConfig) (system : System) (entry : Nat × Move) : Prop :=
  match entry.2 with
  | .select startTime baseDate selectedDelayedEventIds => ∀ proc ∈ system.procs,
      ∀ id ∈ (selection config system.table entry.1 startTime baseDate selectedDelayedEventIds).selectedEventMap,
        ∀ mine ∈ proc.chunk.etagMap.get? id, mine < entry.1
  | .publish _ _ | .act _ _ => True

instance (config : SelectConfig) (system : System) : (entry : Nat × Move) → Decidable (SelectsLater config system entry)
  | (now,.select startTime baseDate selectedDelayedEventIds) => inferInstanceAs (Decidable (∀ proc ∈ system.procs,
      ∀ id ∈ (selection config system.table now startTime baseDate selectedDelayedEventIds).selectedEventMap,
        ∀ mine ∈ proc.chunk.etagMap.get? id, mine < now))
  | (_,.publish _ _) | (_,.act _ _) => .isTrue trivial

/-- The handlers of the processor report on their own clusters and no cluster of it fails. -/
def NothingFails (env : Environment) (index : Nat) (system : System) (entry : Nat × Move) : Prop :=
  match entry.2 with
  | .act other action => other = index → ∀ proc ∈ system.procs[other]?,
      Chunk.Own env proc.chunk action ∧ Chunk.NoErrorTx proc.chunk action
  | .publish _ _ | .select _ _ _ => True

instance (env : Environment) (index : Nat) (system : System) :
    (entry : Nat × Move) → Decidable (NothingFails env index system entry)
  | (_,.act other action) => inferInstanceAs (Decidable (other = index → ∀ proc ∈ system.procs[other]?,
      Chunk.Own env proc.chunk action ∧ Chunk.NoErrorTx proc.chunk action))
  | (_,.publish _ _) | (_,.select _ _ _) => .isTrue trivial

theorem apply_touched (updates : List Update) (row : Row) :
    (∀ update ∈ updates, row.ID ∉ update.ids) ∨ ∃ update ∈ updates, row.ID ∈ update.ids ∧
      (updates.foldl (fun row update => update.apply row) row).status = update.status := by
  induction updates generalizing row with
  | nil => simp
  | cons update rest ih =>
    have key : (update.apply row).ID = row.ID := by
      unfold Update.apply
      split <;> rfl
    rw [List.foldl_cons]
    rcases ih (update.apply row) with none | ⟨later,member,listed,status⟩
    · rw [apply_other _ _ none]
      by_cases own : row.ID ∈ update.ids
      · exact Or.inr ⟨update,by simp,own,by simp [Update.apply,own]⟩
      · left
        intro other member
        rcases List.mem_cons.mp member with rfl | behind
        · exact own
        · exact key ▸ none other behind
    · exact Or.inr ⟨later,by simp [member],key ▸ listed,status⟩

/-- A row in progress after a step was in progress before; only a tick gives it a new timestamp. -/
theorem tableAfter_inProgress {table : Table} {chunk : Chunk} {now : Nat} {action : Chunk.Action}
    (allowed : ∀ tx ∈ chunk.openTxs, ∀ update ∈ tx.updates, update.status ∈ allowedStatuses) {row : Row}
    (member : row ∈ (tableAfter table chunk now action).rows) (status : row.status = EventProcessingStatus.InProgress) :
    ∃ old ∈ table.rows, old.ID = row.ID ∧ old.status = EventProcessingStatus.InProgress ∧
      (row.lastAttemptTimestamp = old.lastAttemptTimestamp ∨
        ∃ found, action = .tick found true ∧ row.ID ∈ chunk.valid found ∧ row.lastAttemptTimestamp = some now) := by
  unfold tableAfter at member
  split at member
  · rename_i found
    split at member
    · exact ⟨row,member,rfl,status,Or.inl rfl⟩
    · obtain ⟨old,inside,rfl⟩ := List.mem_map.mp member
      by_cases valid : old.ID ∈ chunk.valid found
      · rw [if_pos valid] at status ⊢
        exact ⟨old,inside,rfl,status,Or.inr ⟨found,rfl,valid,rfl⟩⟩
      · rw [if_neg valid] at status ⊢
        exact ⟨old,inside,rfl,status,Or.inl rfl⟩
  · obtain ⟨old,inside,rfl⟩ := List.mem_map.mp member
    rcases apply_touched (chunk.commits action) old with none | ⟨update,listed,_,set⟩
    · rw [apply_other _ _ none] at status ⊢
      exact ⟨old,inside,rfl,status,Or.inl rfl⟩
    · obtain ⟨tx,own,sent⟩ := Chunk.commits_open listed
      have fits := allowed tx own update sent
      rw [← set,status] at fits
      exact absurd fits (by decide)

theorem etags_step {chunk next : Chunk} {now : Nat} {action : Chunk.Action}
    (taken : Chunk.Taken env setting chunk now action next) {id : String} {mine : Nat}
    (known : next.etagMap.get? id = some mine) :
    chunk.etagMap.get? id = some mine ∨ mine = now ∧ ∃ found ok, action = .tick found ok ∧ id ∈ chunk.valid found := by
  rcases taken.frame with ⟨payloads,rfl⟩ | ⟨found,ok,ticks,rfl⟩ | frame
  · exact Or.inl known
  · rcases chunk.tick_cases now found with same | same
    · rw [same] at known
      exact Or.inl known
    · simp only [same,Dict.get?_setAll] at known
      split at known
      · rename_i valid
        cases known
        exact Or.inr ⟨rfl,found,ok,ticks,valid⟩
      · exact Or.inl known
  · rw [frame.etagMap] at known
    exact Or.inl known

structure Holding (system : System) (chunk : Chunk) : Prop where
  entries : chunk.queueEntries ⊆ chunk.selectedEventMap
  listed : chunk.selectedEventMap ⊆ system.table.ids
  past : ∀ id mine, chunk.etagMap.get? id = some mine → mine ≤ system.now
  allowed : ∀ tx ∈ chunk.openTxs, ∀ update ∈ tx.updates, update.status ∈ allowedStatuses

/-- A row in progress that a later processor has selected carries a later timestamp than an earlier one knows. -/
structure Stamped (system : System) : Prop where
  holding : ∀ proc ∈ system.procs, Holding system proc.chunk
  foreign : ∀ (position other : Nat) (proc later : Proc), system.procs[position]? = some proc →
    system.procs[other]? = some later → position < other → ∀ id ∈ later.chunk.selectedEventMap,
      ∀ mine, proc.chunk.etagMap.get? id = some mine → ∀ row ∈ system.table.rows, row.ID = id →
        row.status = EventProcessingStatus.InProgress → ∃ stamp, row.lastAttemptTimestamp = some stamp ∧ mine < stamp

theorem Stamped.publish {system : System} (stamped : Stamped system) {now : Nat} (later : system.now ≤ now)
    (position : Nat) (row : Row) (fresh : row.ID ∉ system.table.ids) :
    Stamped {system with now := now,table := system.table.insert position row fresh} where
  holding proc member := by
    obtain ⟨entries,listed,past,allowed⟩ := stamped.holding proc member
    refine ⟨entries,?_,fun id mine known => (past id mine known).trans later,allowed⟩
    intro name chosen
    obtain ⟨other,inside,rfl⟩ := List.mem_map.mp (listed chosen)
    exact List.mem_map_of_mem ((Table.mem_insert fresh).mpr (Or.inr inside))
  foreign first second proc other atFirst atSecond before id chosen mine known changed member same status := by
    rcases (Table.mem_insert fresh).mp member with rfl | old
    · exact absurd (same ▸ (stamped.holding other (List.mem_of_getElem? atSecond)).listed chosen) fresh
    · exact stamped.foreign first second proc other atFirst atSecond before id chosen mine known changed old same status

theorem holding_selection (system : System) {now startTime baseDate : Nat} {delayed : List String} (table : Table)
    (same : table.ids = system.table.ids) (procs : List Proc) :
    Holding ⟨now,table,procs⟩ (selection config system.table now startTime baseDate delayed) where
  entries := (Chunk.writesSelected_selected _ _ _ _).entries
  listed := by
    intro name chosen
    obtain ⟨row,inside,rfl⟩ := selection_entry chosen
    change row.ID ∈ table.ids
    rw [same]
    exact List.mem_map_of_mem (mem_entries_rows config inside).1
  past id mine known := by
    simp only [selection,Chunk.selected,Dict.get?_setAll] at known
    split at known
    · cases known
      exact Nat.le_refl _
    · cases known
  allowed := by simp [selection,Chunk.openTxs,Chunk.selected]

theorem Stamped.select {system : System} (stamped : Stamped system) {now startTime baseDate : Nat}
    {delayed : List String} (later : system.now ≤ now)
    (clock : SelectsLater config system (now,.select startTime baseDate delayed)) :
    Stamped ⟨now,system.table.setToInProgress
        (selection config system.table now startTime baseDate delayed).selectedEventMap now,
      system.procs ++ [⟨selection config system.table now startTime baseDate delayed,now⟩]⟩ := by
  have mine : ∀ procs, Holding ⟨now,system.table.setToInProgress
      (selection config system.table now startTime baseDate delayed).selectedEventMap now,procs⟩
      (selection config system.table now startTime baseDate delayed) :=
    fun procs => holding_selection system _ (Table.ids_change _ _ _) procs
  change ∀ proc ∈ system.procs,
    ∀ id ∈ (selection config system.table now startTime baseDate delayed).selectedEventMap,
      ∀ mine ∈ proc.chunk.etagMap.get? id, mine < now at clock
  generalize selection config system.table now startTime baseDate delayed = chunk at mine clock
  refine ⟨?_,?_⟩
  · intro proc member
    rcases List.mem_append.mp member with old | new
    · obtain ⟨entries,listed,past,allowed⟩ := stamped.holding proc old
      have same : (system.table.setToInProgress chunk.selectedEventMap now).ids = system.table.ids :=
        Table.ids_change _ _ _
      exact ⟨entries,same.symm ▸ listed,fun id stamp known => (past id stamp known).trans later,allowed⟩
    · rw [List.mem_singleton] at new
      subst new
      exact mine _
  · intro position other proc last atFirst atSecond before id chosen known etag row member same status
    have earlier : system.procs[position]? = some proc := by
      rcases Parties.getElem?_joined atFirst with old | ⟨end_,_⟩
      · exact old
      · have bound := (List.getElem?_eq_some_iff.mp atSecond).1
        simp only [List.length_append,List.length_singleton] at bound
        omega
    obtain ⟨old,inside,key,changed⟩ := Table.mem_setToInProgress member
    split at changed
    · rename_i taken
      subst changed
      refine ⟨now,rfl,clock proc (List.mem_of_getElem? earlier) id ?_ known etag⟩
      exact (key.trans same) ▸ taken
    · rename_i spared
      subst changed
      rcases Parties.getElem?_joined atSecond with old | ⟨_,rfl⟩
      · exact stamped.foreign position other proc last earlier old before id chosen known etag row inside same status
      · exact absurd (same ▸ chosen) spared

theorem valid_known {chunk : Chunk} {found : List (String × Option Nat)} {id : String} (valid : id ∈ chunk.valid found) :
    ∃ mine, chunk.etagMap.get? id = some mine := by
  obtain ⟨entry,listed,rfl⟩ := List.mem_map.mp valid
  obtain ⟨_,matching⟩ := List.mem_filter.mp listed
  simp only [Bool.and_eq_true,beq_iff_eq] at matching
  rw [matching.2]
  exact Option.isSome_iff_exists.mp matching.1

theorem Holding.act {system : System} {chunk next : Chunk} (holding : Holding system chunk) {now : Nat}
    (later : system.now ≤ now) {action : Chunk.Action} (moved : Chunk.Taken env setting chunk now action next)
    (procs : List Proc) : Holding ⟨now,tableAfter system.table chunk now action,procs⟩ next := by
  obtain ⟨entries,selected⟩ := moved.selection
  refine ⟨?_,?_,?_,?_⟩
  · exact entries.symm ▸ selected.symm ▸ holding.entries
  · exact (tableAfter_ids system.table chunk now action).symm ▸ selected.symm ▸ holding.listed
  · intro id stamp known
    rcases etags_step moved known with old | ⟨rfl,_⟩
    · exact (holding.past id stamp old).trans later
    · exact Nat.le_refl _
  · apply moved.updates _ holding.allowed
    intro timestamp group status update numbered sent
    rw [(update_spec env _ _ _ _ group update sent).2]
    exact ((statusNumber_iff _ _).mp numbered).1

theorem Stamped.not_valid {system : System} (stamped : Stamped system) {position other : Nat} {proc last : Proc}
    (found : system.procs[position]? = some proc) (atLast : system.procs[other]? = some last)
    (before : position < other) {rows : List (String × Option Nat)} {ok : Bool}
    (reads : system.tickReads proc.chunk (.tick rows ok) = true) {row : Row} (member : row ∈ system.table.rows)
    (owned : row.ID ∈ last.chunk.selectedEventMap) (progress : row.status = EventProcessingStatus.InProgress) :
    row.ID ∉ proc.chunk.valid rows := by
  intro valid
  obtain ⟨mine,held⟩ := valid_known valid
  obtain ⟨since,recorded,less⟩ :=
    stamped.foreign position other proc last found atLast before row.ID owned mine held row member rfl progress
  have agree := (valid_row reads member valid).2
  rw [held,recorded] at agree
  cases agree
  exact absurd less (Nat.lt_irrefl _)

theorem Stamped.act {system : System} (stamped : Stamped system) {now index : Nat} (later : system.now ≤ now)
    {action : Chunk.Action} {proc : Proc} {next : Chunk} (found : system.procs[index]? = some proc)
    (reads : system.tickReads proc.chunk action = true) (moved : Chunk.Taken env setting proc.chunk now action next) :
    Stamped ⟨now,tableAfter system.table proc.chunk now action,
      system.procs.set index ⟨next,tickAfter proc now action⟩⟩ := by
  have mine := stamped.holding proc (List.mem_of_getElem? found)
  refine ⟨?_,?_⟩
  · intro other member
    rcases List.mem_or_eq_of_mem_set member with old | rfl
    · obtain ⟨own,listed,past,allowed⟩ := stamped.holding other old
      have ids := tableAfter_ids system.table proc.chunk now action
      exact ⟨own,ids.symm ▸ listed,fun id stamp known => (past id stamp known).trans later,allowed⟩
    · exact mine.act later moved _
  · intro position other one two atFirst atSecond before id chosen stamp etag row member same status
    obtain ⟨old,inside,key,progress,timestamp⟩ := tableAfter_inProgress mine.allowed member status
    have named : old.ID = id := key.trans same
    -- Both processors held the row and knew the timestamp before the step.
    have earlier : ∃ last : Proc, system.procs[other]? = some last ∧ id ∈ last.chunk.selectedEventMap := by
      rcases Parties.getElem?_moved found atSecond with ⟨rfl,rfl⟩ | ⟨_,kept⟩
      · exact ⟨proc,found,moved.selection.2 ▸ chosen⟩
      · exact ⟨two,kept,chosen⟩
    obtain ⟨last,atLast,owned⟩ := earlier
    have known : ∃ holder : Proc, system.procs[position]? = some holder ∧ holder.chunk.etagMap.get? id = some stamp := by
      rcases Parties.getElem?_moved found atFirst with ⟨rfl,rfl⟩ | ⟨_,kept⟩
      · rcases etags_step moved etag with unchanged | ⟨_,rows,ok,rfl,valid⟩
        · exact ⟨proc,found,unchanged⟩
        · exact absurd (named ▸ valid) (stamped.not_valid found atLast before reads inside (named ▸ owned) progress)
      · exact ⟨one,kept,etag⟩
    obtain ⟨holder,at_,held⟩ := known
    obtain ⟨since,recorded,less⟩ :=
      stamped.foreign position other holder last at_ atLast before id owned stamp held old inside named progress
    rcases timestamp with unchanged | ⟨rows,rfl,valid,new⟩
    · exact ⟨since,unchanged.trans recorded,less⟩
    · rw [same,← named] at valid
      have agree := (valid_row reads inside valid).2
      have bound := mine.past id since (named ▸ agree.trans recorded)
      exact ⟨now,new,less.trans_le (bound.trans later)⟩

theorem Stamped.step {system next : System} (stamped : Stamped system) (entry : Nat × Move)
    (clock : SelectsLater config system entry) (taken : system.step env setting config entry = some next) :
    Stamped next := by
  obtain ⟨now,move⟩ := entry
  obtain ⟨later,known⟩ := step_taken env setting config system next now move taken
  cases known with
  | publish position row fresh => exact stamped.publish later position row fresh
  | select startTime baseDate delayed earlier free => exact stamped.select later clock
  | act index action proc chunk found reads moved => exact stamped.act later found reads moved

theorem processor_step {system next : System} {entry : Nat × Move} {index : Nat} {proc : Proc}
    (taken : system.step env setting config entry = some next) (found : system.procs[index]? = some proc) :
    next.procs[index]? = some proc ∨ ∃ action chunk lastTick, entry.2 = .act index action ∧
      Chunk.Taken env setting proc.chunk entry.1 action chunk ∧ next.procs[index]? = some ⟨chunk,lastTick⟩ := by
  obtain ⟨now,move⟩ := entry
  obtain ⟨_,known⟩ := step_taken env setting config system next now move taken
  have small := (List.getElem?_eq_some_iff.mp found).1
  cases known with
  | publish position row fresh => exact Or.inl found
  | select startTime baseDate delayed earlier free =>
    left
    simp only
    rw [List.getElem?_append_left small]
    exact found
  | act other action mover chunk at_ reads moved =>
    by_cases same : index = other
    · subst same
      rw [found] at at_
      cases at_
      exact Or.inr ⟨action,chunk,_,rfl,moved,List.getElem?_set_self small⟩
    · exact Or.inl (Parties.getElem?_kept _ found same)

/-- A processor that has noticed a violation calls `processEvent` no more. -/
structure Halted (index : Nat) (invoked : List String) (system : System) : Prop where
  halted : ∃ proc, system.procs[index]? = some proc ∧ ¬Chunk.Early proc.chunk.phase ∧
    proc.chunk.keepAliveViolated = true ∧ proc.chunk.invoked = invoked

theorem Halted.step {index : Nat} {invoked : List String} {system next : System} (halted : Halted index invoked system)
    {entry : Nat × Move} (taken : system.step env setting config entry = some next) : Halted index invoked next := by
  obtain ⟨proc,found,late,violated,same⟩ := halted.halted
  rcases processor_step taken found with kept | ⟨action,chunk,lastTick,_,moved,at_⟩
  · exact ⟨proc,kept,late,violated,same⟩
  · obtain ⟨still,unchanged⟩ := Chunk.violated_step violated late moved
    exact ⟨_,at_,moved.late late,still,unchanged.trans same⟩

/-- The processor has committed no status for the entry since and has none under way. -/
structure Withheld (index : Nat) (id : String) (committed : List Update) (system : System) : Prop where
  withheld : ∃ proc new, system.procs[index]? = some proc ∧ Chunk.Fenced id proc.chunk ∧
    proc.chunk.committed = committed ++ new ∧ id ∉ written new

theorem Withheld.step {index : Nat} {id : String} {committed : List Update} {system next : System}
    (withheld : Withheld index id committed system) {entry : Nat × Move} (plain : NothingFails env index system entry)
    (taken : system.step env setting config entry = some next) : Withheld index id committed next := by
  obtain ⟨proc,new,found,fenced,history,none⟩ := withheld.withheld
  rcases processor_step taken found with kept | ⟨action,chunk,lastTick,move,moved,at_⟩
  · exact ⟨proc,new,kept,fenced,history,none⟩
  · simp only [NothingFails,move] at plain
    obtain ⟨named,noErrorTx⟩ := plain trivial proc found
    refine ⟨_,new ++ proc.chunk.commits action,at_,fenced.step named noErrorTx moved,?_,?_⟩
    · rw [moved.committed,history,List.append_assoc]
    · rw [mem_written_append,not_or]
      exact ⟨none,fenced.commits moved⟩

theorem Fenced.openTxs {id : String} {chunk : Chunk} (fenced : Chunk.Fenced id chunk) :
    ∀ tx ∈ chunk.openTxs, ∀ status, (id,status) ∉ tx.writes := by
  intro tx member
  rcases (Chunk.mem_openTxs _ _).mp member with ⟨cluster,inside,state⟩ | ⟨job,hookThrew,jobs,phase⟩ | phase
  · have spared := fenced.clusters cluster inside
    simpa only [Chunk.Spared,state] using spared
  · exact absurd (by simp [phase,Chunk.Early]) fenced.late
  · exact fenced.persistTx tx phase

theorem Stamped.outdated {system : System} (stamped : Stamped system) {index : Nat} {proc : Proc} {id : String}
    (found : system.procs[index]? = some proc) (open_ : id ∈ proc.chunk.notCommitedStatusMap)
    (takeover : ∃ later ∈ system.procs.drop (index + 1), id ∈ later.chunk.selectedEventMap)
    (held : ∃ row ∈ system.table.rows, row.ID = id ∧ row.status = EventProcessingStatus.InProgress)
    {rows : List (String × Option Nat)} {ok : Bool} (reads : system.tickReads proc.chunk (.tick rows ok) = true) :
    id ∈ proc.chunk.outdated rows := by
  obtain ⟨row,member,same,status⟩ := held
  obtain ⟨later,behind,chosen⟩ := takeover
  obtain ⟨offset,at_⟩ := List.mem_iff_getElem?.mp behind
  rw [List.getElem?_drop] at at_
  have read : (row.ID,row.lastAttemptTimestamp) ∈ rows := by
    simp only [tickReads,Bool.and_eq_true,decide_eq_true_eq] at reads
    rw [reads.1]
    refine List.mem_map_of_mem (List.mem_filter.mpr ⟨member,?_⟩)
    simp [same,open_,status]
  refine List.mem_map.mpr ⟨_,List.mem_filter.mpr ⟨read,?_⟩,same⟩
  cases etag : proc.chunk.etagMap.get? id with
  | none => cases stamp : row.lastAttemptTimestamp <;> simp [same,etag]
  | some mine =>
    obtain ⟨stamp,known,less⟩ := stamped.foreign index _ proc later found at_ (by omega) id chosen mine etag row member
      same status
    simp [same,etag,known,Nat.ne_of_lt less]

theorem tick_fences (env : Environment) (setting : Setting) (config : SelectConfig) (table : Table) (start : Nat)
    (before after : List (Nat × Move)) (now index : Nat) (found : List (String × Option Nat)) (proc : Proc)
    (id : String) (middle next final : System)
    (clock : Transition.Along (step env setting config) (SelectsLater config) ⟨start,table,[]⟩ before)
    (reached : Transition.run (step env setting config) ⟨start,table,[]⟩ before = some middle)
    (at_ : middle.procs[index]? = some proc) (open_ : id ∈ proc.chunk.notCommitedStatusMap)
    (takeover : ∃ later ∈ middle.procs.drop (index + 1), id ∈ later.chunk.selectedEventMap)
    (held : ∃ row ∈ middle.table.rows, row.ID = id ∧ row.status = EventProcessingStatus.InProgress)
    (first : proc.chunk.keepAliveViolated = false)
    (ticked : middle.step env setting config (now,.act index (.tick found true)) = some next)
    (continued : Transition.run (step env setting config) next after = some final) :
    ∃ last, final.procs[index]? = some last ∧ last.chunk.invoked = proc.chunk.invoked ∧
      ((∀ cluster ∈ proc.chunk.clusters, Chunk.Spared id cluster) → proc.chunk.statusMap.get? id = none →
        Transition.Along (step env setting config) (NothingFails env index) next after →
        (∃ new, last.chunk.committed = proc.chunk.committed ++ new ∧ id ∉ written new) ∧
          ∀ tx ∈ last.chunk.openTxs, ∀ status, (id,status) ∉ tx.writes) := by
  have stamped : Stamped middle := by
    refine Transition.invariant (step env setting config) (SelectsLater config) Stamped ?_ _ _ _ ⟨?_,?_⟩ clock reached
    · intro state entry next stamped clock taken
      exact stamped.step entry clock taken
    · simp
    · simp
  obtain ⟨_,known⟩ := step_taken env setting config middle next now _ ticked
  cases known with
  | act _ _ other chunk same reads moved =>
    rw [at_] at same
    cases same
    have outdated := stamped.outdated at_ open_ takeover held reads
    have here : (middle.procs.set index ⟨chunk,tickAfter proc now (.tick found true)⟩)[index]? =
        some ⟨chunk,tickAfter proc now (.tick found true)⟩ :=
      List.getElem?_set_self (List.getElem?_eq_some_iff.mp at_).1
    cases moved with
    | tick _ _ phase own =>
      have noticed := Chunk.tick_noticed now first outdated
      have halted : Halted index proc.chunk.invoked final := by
        refine Transition.invariant (step env setting config) (fun _ _ => True) (Halted index proc.chunk.invoked)
          (fun _ _ _ halted _ taken => halted.step taken) _ _ _ ?_ (Transition.along_true _ _ _) continued
        exact ⟨_,here,by simp [noticed,phase,Chunk.Early],by rw [noticed],by rw [noticed]⟩
      obtain ⟨last,there,_,_,same⟩ := halted.halted
      refine ⟨last,there,same,?_⟩
      intro spared unreported plain
      have entries := (stamped.holding proc (List.mem_of_getElem? at_)).entries
      have withheld : Withheld index id proc.chunk.committed final := by
        refine Transition.invariant (step env setting config) (NothingFails env index)
          (Withheld index id proc.chunk.committed) (fun _ _ _ withheld plain taken => withheld.step plain taken) _ _ _
          ?_ plain continued
        refine ⟨_,[],here,Chunk.fenced_tick now first outdated phase entries spared unreported,?_,by simp [written]⟩
        rw [noticed,List.append_nil]
      obtain ⟨again,new,found,fenced,history,none⟩ := withheld.withheld
      rw [there] at found
      cases found
      exact ⟨⟨new,history,none⟩,Fenced.openTxs fenced⟩

/-- A processor selects both entries and goes on as given, a second one selects them when they are stale. -/
def takenOver (actions : List Chunk.Action) : List (Nat × Move) :=
  [(1,.select 1 1 []),(1,.act 0 (.preprocess (fun _ => .value))),
    (1,.act 0 (.cluster (some [("e1",["e1"]),("e2",["e2"])])))] ++ actions.map (fun action => (2,.act 0 action)) ++
    [(101,.select 101 101 [])]

def takeoverFound : List (String × Option Nat) := [("e1",some 101),("e2",some 101)]

/-- Nothing was started: the clusters are skipped and the chunk ends. -/
def skippedAll : List (Nat × Move) :=
  [(103,.act 0 (.launch 0)),(103,.act 0 (.launch 1)),(104,.act 0 (.processEvent 0 true)),
    (104,.act 0 (.processEvent 1 true)),(105,.act 0 (.settle 0 false true)),(105,.act 0 (.commit 0 true)),
    (105,.act 0 (.settle 1 false true)),(105,.act 0 (.commit 1 true)),(106,.act 0 (.endMap true)),
    (106,.act 0 .persistOpen),(107,.act 0 (.persistCommit true))]

theorem tick_fences_skipped_all :
    ∃ middle next final last, Transition.run (step .plain twoAtATime window) ⟨0,twoEntries,[]⟩ (takenOver []) =
        some middle ∧
      middle.step .plain twoAtATime window (102,.act 0 (.tick takeoverFound true)) = some next ∧
      Transition.run (step .plain twoAtATime window) next skippedAll = some final ∧ final.procs[0]? = some last ∧
      last.chunk.invoked = [] ∧ "e1" ∉ written last.chunk.committed := by
  have started : ((Transition.run (step .plain twoAtATime window) ⟨0,twoEntries,[]⟩ (takenOver [])).bind
      (fun middle => middle.procs[0]?.map (fun proc => decide ("e1" ∈ proc.chunk.notCommitedStatusMap ∧
        (∃ later ∈ middle.procs.drop 1, "e1" ∈ later.chunk.selectedEventMap) ∧
        (∃ row ∈ middle.table.rows, row.ID = "e1" ∧ row.status = EventProcessingStatus.InProgress) ∧
        proc.chunk.keepAliveViolated = false ∧ (∀ cluster ∈ proc.chunk.clusters, Chunk.isWaiting cluster = true) ∧
        (proc.chunk.statusMap.get? "e1").isNone = true ∧ proc.chunk.invoked = [] ∧
        written proc.chunk.committed = [])))) = some true := by decide
  obtain ⟨middle,reached,rest⟩ := Option.bind_eq_some_iff.mp started
  obtain ⟨proc,at_,facts⟩ := Option.map_eq_some_iff.mp rest
  obtain ⟨open_,takeover,held,first,waiting,unreported,idle,blank⟩ := of_decide_eq_true facts
  have continues : ((Transition.run (step .plain twoAtATime window) ⟨0,twoEntries,[]⟩ (takenOver [])).bind
      (fun middle => (middle.step .plain twoAtATime window (102,.act 0 (.tick takeoverFound true))).bind
        (fun next => (Transition.run (step .plain twoAtATime window) next skippedAll).map
          (fun _ => decide (Transition.Along (step .plain twoAtATime window) (NothingFails .plain 0) next skippedAll))))) =
      some true := by decide
  rw [reached,Option.bind_some] at continues
  obtain ⟨next,ticked,rest⟩ := Option.bind_eq_some_iff.mp continues
  obtain ⟨final,continued,plain⟩ := Option.map_eq_some_iff.mp rest
  obtain ⟨last,there,same,spared⟩ := tick_fences .plain twoAtATime window twoEntries 0 (takenOver []) skippedAll 102 0
    takeoverFound proc "e1" middle next final (by decide) reached at_ open_ takeover held first ticked continued
  obtain ⟨⟨new,history,none⟩,_⟩ := spared (fun cluster member => Chunk.spared_waiting (waiting cluster member))
    (Option.isNone_iff_eq_none.mp unreported) (of_decide_eq_true plain)
  refine ⟨middle,next,final,last,reached,ticked,continued,there,same.trans idle,?_⟩
  rw [history,mem_written_append,blank]
  simp [none]

/-- The cluster of the first entry runs during the tick; its status is written all the same. -/
def finishesFirst : List (Nat × Move) :=
  [(103,.act 0 (.report 0 (.returned (.arr [.arr [.str "e1",.nat EventProcessingStatus.Done]])))),
    (104,.act 0 (.settle 0 false true)),(104,.act 0 (.write 0 true)),(105,.act 0 (.commit 0 true))]

theorem started_cluster_writes_after_tick :
    ∃ middle next final proc last, Transition.run (step .plain twoAtATime window) ⟨0,twoEntries,[]⟩
        (takenOver [.launch 0,.processEvent 0 true]) = some middle ∧
      middle.procs[0]? = some proc ∧ "e1" ∈ proc.chunk.notCommitedStatusMap ∧
      (∃ later ∈ middle.procs.drop 1, "e1" ∈ later.chunk.selectedEventMap) ∧
      middle.step .plain twoAtATime window (102,.act 0 (.tick takeoverFound true)) = some next ∧
      Transition.run (step .plain twoAtATime window) next finishesFirst = some final ∧ final.procs[0]? = some last ∧
      "e1" ∉ written proc.chunk.committed ∧ "e1" ∈ written last.chunk.committed := by
  have computed : ((Transition.run (step .plain twoAtATime window) ⟨0,twoEntries,[]⟩
      (takenOver [.launch 0,.processEvent 0 true])).bind
      (fun middle => middle.procs[0]?.bind (fun proc =>
        (middle.step .plain twoAtATime window (102,.act 0 (.tick takeoverFound true))).bind
        (fun next => (Transition.run (step .plain twoAtATime window) next finishesFirst).bind
          (fun final => final.procs[0]?.map (fun last => decide ("e1" ∈ proc.chunk.notCommitedStatusMap ∧
            (∃ later ∈ middle.procs.drop 1, "e1" ∈ later.chunk.selectedEventMap) ∧
            "e1" ∉ written proc.chunk.committed ∧ "e1" ∈ written last.chunk.committed))))))) = some true := by decide
  obtain ⟨middle,reached,rest⟩ := Option.bind_eq_some_iff.mp computed
  obtain ⟨proc,at_,rest⟩ := Option.bind_eq_some_iff.mp rest
  obtain ⟨next,ticked,rest⟩ := Option.bind_eq_some_iff.mp rest
  obtain ⟨final,continued,rest⟩ := Option.bind_eq_some_iff.mp rest
  obtain ⟨last,there,facts⟩ := Option.map_eq_some_iff.mp rest
  obtain ⟨open_,takeover,before,after⟩ := of_decide_eq_true facts
  exact ⟨middle,next,final,proc,last,reached,at_,open_,takeover,ticked,continued,there,before,after⟩

end EventQueue.System

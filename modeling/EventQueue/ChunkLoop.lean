import EventQueue.ChunkSelection

/-! The loop of `processEventQueue` over the chunks of an ad-hoc event. Nothing else writes the table; an iteration is
a processor that works alone on it, from its selection to its last status transaction or to an error that ends the
run. A row that has got a status is not selected again, a delayed one is excluded by its `ID`. -/
namespace EventQueue.ChunkLoop

structure RunConfig where
  startTime : Nat
  checkForNextChunk : Bool
  /-- `runInterval` as the time limit of the run; none without a limit. -/
  timeLimit : Option Nat

/-- An iteration that is over: the instance and the entries it has put off. -/
structure Iterated where
  chunk : Chunk
  delayedEvents : List String

structure Loop where
  now : Nat
  table : Table
  /-- Kept in the event configuration, which all instances of the run share. -/
  selectedDelayedEventIds : List String
  shouldContinue : Bool
  history : List Iterated

def Loop.start (now : Nat) (table : Table) : Loop := ⟨now,table,[],true,[]⟩

/-- What happens in one iteration, with the times at which the clock is read. -/
structure Iteration where
  baseDate : Nat
  selectedAt : Nat
  actions : List (Nat × Chunk.Action)
  reevaluatedAt : Nat

def Iterated.ids (iterated : Iterated) : List String := iterated.chunk.selectedEventMap ++ iterated.delayedEvents

def Loop.ids (loop : Loop) : List String := loop.history.flatMap Iterated.ids

def Loop.selected (loop : Loop) : List String := loop.history.flatMap (fun iterated => iterated.chunk.selectedEventMap)

def Loop.delayed (loop : Loop) : List String := loop.history.flatMap Iterated.delayedEvents

section
variable (env : Environment) (setting : Setting) (config : SelectConfig) (run : RunConfig)

def reevaluateShouldContinue (emptyChunkSelected : Bool) (now : Nat) : Bool :=
  if !run.checkForNextChunk then false
  else if emptyChunkSelected then false
  else match run.timeLimit with
    | none => true
    | some runInterval => decide (now < run.startTime + runInterval)

def Loop.entries (loop : Loop) (iteration : Iteration) : List Row :=
  loop.table.entries config false run.startTime iteration.baseDate loop.selectedDelayedEventIds

def Loop.moves (loop : Loop) (iteration : Iteration) : List (Nat × Move) :=
  (iteration.selectedAt,.select run.startTime iteration.baseDate loop.selectedDelayedEventIds)::
    iteration.actions.map (fun entry => (entry.1,.act 0 entry.2))

/-- Whether the loop goes on after an instance that has come to its end; an error ends the run. -/
def continues (phase : Phase) (emptyChunkSelected : Bool) (now : Nat) : Option Bool :=
  match phase with
  | .finished => some (reevaluateShouldContinue run emptyChunkSelected now)
  | .aborted => some false
  | _ => none

/-- One pass through the body of the loop; none if the loop is over or the events are not those of a whole pass. -/
def iterate (loop : Loop) (iteration : Iteration) : Option Loop :=
  if loop.shouldContinue then
    let entries := loop.entries config run iteration
    let delayedEvents := idsOfKind config iteration.baseDate .delayedEvent entries
    (Transition.run (System.step env setting config) ⟨loop.now,loop.table,[]⟩ (loop.moves run iteration)).bind
      (fun system => match system.procs with
        | [proc] => (continues run proc.chunk.phase entries.isEmpty iteration.reevaluatedAt).map
            (fun shouldContinue => ⟨system.now,system.table,loop.selectedDelayedEventIds ++ delayedEvents,
              shouldContinue,loop.history ++ [⟨proc.chunk,delayedEvents⟩]⟩)
        | _ => none)
  else none

/-- Every status transaction of the iteration begins after the start of the run, and an iteration that ends without
an error has persisted a status for every entry it has selected. -/
structure Admissible (iteration : Iteration) (next : Loop) : Prop where
  clock : ∀ entry ∈ iteration.actions, entry.2.begins = true → run.startTime < entry.1
  persisted : ∀ iterated ∈ next.history, iterated.chunk.phase = .finished →
    ∀ id ∈ iterated.chunk.selectedEventMap, id ∈ written iterated.chunk.committed

end

/-- A row with a status of this run. -/
def Settled (startTime : Nat) (row : Row) : Prop :=
  row.status ∈ allowedStatuses ∧ ∃ last, row.lastAttemptTimestamp = some last ∧ startTime < last

theorem Settled.not_selectable {startTime : Nat} {row : Row} (settled : Settled startTime row) (config : SelectConfig)
    (baseDate : Nat) : selectable config false startTime baseDate row = false := by
  obtain ⟨allowed,last,stamp,late⟩ := settled
  simp only [allowedStatuses,List.mem_cons,List.not_mem_nil,or_false] at allowed
  have after : ¬last ≤ startTime := by omega
  rcases allowed with status | status | status | status <;>
    simp [selectable,stamp,status,after,EventProcessingStatus.Open,EventProcessingStatus.Done,
      EventProcessingStatus.Error,EventProcessingStatus.Exceeded,EventProcessingStatus.InProgress]

def Settles (startTime : Nat) (update : Update) : Prop :=
  update.status ∈ allowedStatuses ∧ startTime < update.lastAttemptTimestamp

theorem Settles.apply {startTime : Nat} {update : Update} (settles : Settles startTime update) {row : Row}
    (covered : Settled startTime row ∨ row.ID ∈ update.ids) : Settled startTime (update.apply row) := by
  unfold Update.apply
  split
  · exact ⟨settles.1,_,rfl,settles.2⟩
  · rename_i other
    rcases covered with settled | named
    · exact settled
    · exact absurd named other

theorem settled_foldl {startTime : Nat} (updates : List Update) (settles : ∀ update ∈ updates, Settles startTime update)
    (row : Row) (covered : Settled startTime row ∨ row.ID ∈ written updates) :
    Settled startTime (updates.foldl (fun row update => update.apply row) row) := by
  induction updates generalizing row with
  | nil => simpa [written] using covered
  | cons update rest ih =>
    rw [List.foldl_cons]
    apply ih (fun later member => settles later (by simp [member]))
    have first := settles update (by simp)
    have same : (update.apply row).ID = row.ID := apply_ID [update] row
    rcases covered with settled | named
    · exact Or.inl (first.apply (Or.inl settled))
    · rcases List.mem_append.mp (show row.ID ∈ update.ids ++ written rest from named) with here | later
      · exact Or.inl (first.apply (Or.inr here))
      · exact Or.inr (same ▸ later)

section
variable {env : Environment} {setting : Setting} {config : SelectConfig} {startTime : Nat}

/-- The open transactions of an instance began after the start of the run. -/
structure Stamped (startTime : Nat) (chunk : Chunk) : Prop where
  begun : ∀ tx ∈ chunk.openTxs, startTime < tx.timestamp
  settles : ∀ tx ∈ chunk.openTxs, ∀ update ∈ tx.updates, Settles startTime update

theorem update_settles {retry : RetryConfig} {now timestamp status : Nat} {group : Group} {update : Update}
    (late : startTime < timestamp) (numbered : group.data.statusNumber = some status)
    (built : group.update env retry now timestamp status = some update) : Settles startTime update := by
  obtain ⟨error,_,built⟩ := Option.bind_eq_some_iff.mp built
  obtain ⟨startAfter,_,built⟩ := Option.bind_eq_some_iff.mp built
  cases built
  exact ⟨((statusNumber_iff _ _).mp numbered).1,late⟩

theorem advance_timestamp {now : Nat} {ok : Bool} {tx next : StatusTx}
    (moved : Chunk.advance env setting now ok tx = some next) : next.timestamp = tx.timestamp := by
  unfold Chunk.advance StatusTx.writeNext at moved
  split at moved
  · split at moved
    · cases moved
    · split at moved
      · cases moved
        rfl
      · obtain ⟨update,_,rfl⟩ := Option.map_eq_some_iff.mp moved
        rfl
  · cases moved

theorem open_begun {now : Nat} {checked : Option (Dict UpdateData)} {tx : StatusTx}
    (opened : checked.bind (StatusTx.open env now) = some tx) : tx.timestamp = now ∧ tx.updates = [] := by
  obtain ⟨given,_,opened⟩ := Option.bind_eq_some_iff.mp opened
  obtain ⟨groups,_,rfl⟩ := Option.map_eq_some_iff.mp opened
  exact ⟨rfl,rfl⟩

theorem Stamped.tx {chunk : Chunk} (stamped : Stamped startTime chunk) {now : Nat} {action : Chunk.Action}
    (clock : action.begins = true → startTime < now) {tx : StatusTx}
    (change : Chunk.TxChange env setting chunk now action tx) :
    startTime < tx.timestamp ∧ ∀ update ∈ tx.updates, Settles startTime update := by
  have old : ∀ old ok, old ∈ chunk.openTxs → Chunk.advance env setting now ok old = some tx →
      startTime < tx.timestamp ∧ ∀ update ∈ tx.updates, Settles startTime update := by
    intro old ok member moved
    refine ⟨advance_timestamp moved ▸ stamped.begun old member,?_⟩
    refine Chunk.advance_updates moved ?_ (stamped.settles old member)
    intro group status update numbered built
    exact update_settles (stamped.begun old member) numbered built
  have new : ∀ checked : Option (Dict UpdateData), startTime < now → checked.bind (StatusTx.open env now) = some tx →
      startTime < tx.timestamp ∧ ∀ update ∈ tx.updates, Settles startTime update := by
    intro checked late opened
    obtain ⟨timestamp,none⟩ := open_begun opened
    simp [timestamp,none,late]
  cases change with
  | kept member => exact ⟨stamped.begun tx member,stamped.settles tx member⟩
  | moved current ok member moved => exact old current ok member moved
  | begun begins source =>
    cases source with
    | kept member => exact ⟨stamped.begun tx member,stamped.settles tx member⟩
    | moved current ok member moved => exact old current ok member moved
    | checked statusMap opened => exact new _ (clock begins) opened
    | filled phase opened => exact new _ (clock begins) opened

theorem Stamped.step {chunk next : Chunk} (stamped : Stamped startTime chunk) {now : Nat} {action : Chunk.Action}
    (clock : action.begins = true → startTime < now) (taken : Chunk.Taken env setting chunk now action next) :
    Stamped startTime next :=
  ⟨fun _ member => (stamped.tx clock (taken.change member)).1,fun _ member => (stamped.tx clock (taken.change member)).2⟩

/-- A tick touches rows in progress only, every other step writes settling updates. -/
theorem settled_tableAfter {system : System} {chunk : Chunk} (stamped : Stamped startTime chunk) {now : Nat}
    {action : Chunk.Action} (reads : system.tickReads chunk action = true) {row : Row}
    (member : row ∈ (System.tableAfter system.table chunk now action).rows)
    (covered : (∀ old ∈ system.table.rows, old.ID = row.ID → Settled startTime old) ∨
      row.ID ∈ written (chunk.commits action)) : Settled startTime row := by
  unfold System.tableAfter at member
  split at member
  · rename_i found
    have known : ∀ old ∈ system.table.rows, old.ID = row.ID → Settled startTime old := by
      simpa [Chunk.commits,written] using covered
    split at member
    · exact known row member rfl
    · obtain ⟨old,inside,rfl⟩ := List.mem_map.mp member
      have settled : Settled startTime old := known old inside (by split <;> rfl)
      have spared : old.ID ∉ chunk.valid found := by
        intro valid
        have allowed := settled.1
        rw [(System.valid_row reads inside valid).1] at allowed
        exact absurd allowed (by decide)
      rw [if_neg spared]
      exact settled
  · obtain ⟨old,inside,rfl⟩ := List.mem_map.mp member
    rw [apply_ID] at covered
    refine settled_foldl _ ?_ old ?_
    · intro update listed
      obtain ⟨tx,opened,own⟩ := Chunk.commits_open listed
      exact stamped.settles tx opened update own
    · rcases covered with known | named
      · exact Or.inl (known old inside rfl)
      · exact Or.inr named

/-- One instance alone on the table: the rows that had a status of this run and those it has written have one. -/
structure Working (startTime : Nat) (ids selected done : List String) (system : System) : Prop where
  alone : ∃ proc, system.procs = [proc] ∧ Stamped startTime proc.chunk ∧ proc.chunk.selectedEventMap = selected ∧
    ∀ row ∈ system.table.rows, row.ID ∈ done ∨ row.ID ∈ written proc.chunk.committed → Settled startTime row
  ids : system.table.ids = ids

theorem Working.act {ids selected done : List String} {system next : System}
    (working : Working startTime ids selected done system) {now : Nat} {action : Chunk.Action}
    (clock : action.begins = true → startTime < now)
    (taken : system.step env setting config (now,.act 0 action) = some next) :
    Working startTime ids selected done next := by
  obtain ⟨⟨proc,only,stamped,chosen,settled⟩,same⟩ := working
  obtain ⟨_,known⟩ := System.step_taken env setting config system next now _ taken
  cases known with
  | act _ _ current chunk found reads moved =>
    rw [only] at found
    cases found
    refine ⟨⟨⟨chunk,System.tickAfter proc now action⟩,?_,?_,?_,?_⟩,?_⟩
    · rw [only]
      rfl
    · exact stamped.step clock moved
    · exact moved.selection.2.trans chosen
    · intro row member covered
      apply settled_tableAfter stamped reads member
      rw [moved.committed,mem_written_append] at covered
      rcases covered with before | written | new
      · exact Or.inl (fun old inside name => settled old inside (Or.inl (name ▸ before)))
      · exact Or.inl (fun old inside name => settled old inside (Or.inr (name ▸ written)))
      · exact Or.inr new
    · exact (System.tableAfter_ids _ _ _ _).trans same

theorem stamped_selection (table : Table) (now baseDate : Nat) (delayed : List String) :
    Stamped startTime (System.selection config table now startTime baseDate delayed) := by
  constructor <;> simp [System.selection,Chunk.selected,Chunk.openTxs]

theorem working_select {done : List String} {table : Table} {start now baseDate : Nat} {delayed : List String}
    {next : System} (settled : ∀ row ∈ table.rows, row.ID ∈ done → Settled startTime row)
    (taken : System.step env setting config ⟨start,table,[]⟩ (now,.select startTime baseDate delayed) = some next) :
    Working startTime table.ids (System.selection config table now startTime baseDate delayed).selectedEventMap done
      next := by
  obtain ⟨_,known⟩ := System.step_taken env setting config _ next now _ taken
  cases known with
  | select _ _ _ earlier free =>
    refine ⟨⟨_,rfl,stamped_selection table now baseDate delayed,rfl,?_⟩,
      Table.ids_change _ _ (fun row => by split <;> rfl)⟩
    intro row member covered
    have before : row.ID ∈ done := by
      simpa [System.selection,Chunk.selected,written] using covered
    obtain ⟨old,inside,name,changed⟩ := Table.mem_setToInProgress member
    have kept := settled old inside (name ▸ before)
    split at changed
    · rename_i chosen
      obtain ⟨entry,listed,same⟩ := System.selection_entry chosen
      obtain ⟨stored,fits⟩ := mem_entries_rows config listed
      rw [Table.row_unique stored inside same,kept.not_selectable] at fits
      cases fits
    · exact changed ▸ kept

variable {run : RunConfig}

theorem iterate_running {loop next : Loop} {iteration : Iteration}
    (taken : iterate env setting config run loop iteration = some next) : loop.shouldContinue = true := by
  unfold iterate at taken
  split at taken
  · assumption
  · cases taken

structure Passed (config : SelectConfig) (run : RunConfig) (iteration : Iteration) (loop next : Loop)
    (iterated : Iterated) : Prop where
  selectedEventMap : iterated.chunk.selectedEventMap = (System.selection config loop.table iteration.selectedAt
    run.startTime iteration.baseDate loop.selectedDelayedEventIds).selectedEventMap
  delayedEvents : iterated.delayedEvents =
    idsOfKind config iteration.baseDate .delayedEvent (loop.entries config run iteration)
  shouldContinue : continues run iterated.chunk.phase (loop.entries config run iteration).isEmpty
    iteration.reevaluatedAt = some next.shouldContinue
  history : next.history = loop.history ++ [iterated]
  selectedDelayedEventIds : next.selectedDelayedEventIds = loop.selectedDelayedEventIds ++ iterated.delayedEvents
  ids : next.table.ids = loop.table.ids
  settled : ∀ row ∈ next.table.rows, row.ID ∈ loop.selected ∨ row.ID ∈ written iterated.chunk.committed →
    Settled run.startTime row

theorem iterate_passed {loop next : Loop} {iteration : Iteration}
    (taken : iterate env setting config run loop iteration = some next)
    (clock : ∀ entry ∈ iteration.actions, entry.2.begins = true → run.startTime < entry.1)
    (settled : ∀ row ∈ loop.table.rows, row.ID ∈ loop.selected → Settled run.startTime row) :
    ∃ iterated, Passed config run iteration loop next iterated := by
  unfold iterate at taken
  rw [if_pos (iterate_running taken)] at taken
  obtain ⟨system,reached,taken⟩ := Option.bind_eq_some_iff.mp taken
  obtain ⟨first,selected,reached⟩ := Transition.run_cons _ _ _ _ _ reached
  have guarded : ∀ entry ∈ iteration.actions.map (fun entry => (entry.1,Move.act 0 entry.2)),
      ∃ action, entry.2 = .act 0 action ∧ (action.begins = true → run.startTime < entry.1) := by
    intro entry member
    obtain ⟨given,inside,rfl⟩ := List.mem_map.mp member
    exact ⟨given.2,rfl,clock given inside⟩
  have working := Transition.invariant (System.step env setting config)
    (fun _ entry => ∃ action, entry.2 = .act 0 action ∧ (action.begins = true → run.startTime < entry.1))
    (Working run.startTime loop.table.ids _ loop.selected)
    (by
      intro state entry after current guard moved
      obtain ⟨now,move⟩ := entry
      obtain ⟨action,rfl,late⟩ := guard
      exact current.act late moved)
    first system _ (working_select settled selected) (Transition.along_of_forall _ _ _ _ guarded) reached
  obtain ⟨⟨proc,only,_,chosen,rows⟩,ids⟩ := working
  rw [only] at taken
  obtain ⟨shouldContinue,phase,rfl⟩ := Option.map_eq_some_iff.mp taken
  exact ⟨⟨proc.chunk,_⟩,chosen,rfl,phase,rfl,rfl,ids,rows⟩

theorem continues_true {phase : Phase} {emptyChunkSelected : Bool} {now : Nat}
    (going : continues run phase emptyChunkSelected now = some true) :
    phase = .finished ∧ emptyChunkSelected = false := by
  unfold continues at going
  split at going
  · cases emptyChunkSelected with
    | false => exact ⟨rfl,rfl⟩
    | true => simp [reevaluateShouldContinue] at going
  · cases going
  · cases going

theorem mem_iterated (table : Table) (now startTime baseDate : Nat) (delayed : List String) (id : String) :
    id ∈ (System.selection config table now startTime baseDate delayed).selectedEventMap ++
        idsOfKind config baseDate .delayedEvent (table.entries config false startTime baseDate delayed) ↔
      ∃ row ∈ table.entries config false startTime baseDate delayed, row.ID = id := by
  simp only [System.selection,Chunk.selected,List.mem_append,mem_idsOfKind]
  constructor
  · intro listed
    rcases listed with ((⟨row,member,_,same⟩ | ⟨row,member,_,same⟩) | ⟨row,member,_,same⟩) | ⟨row,member,_,same⟩ <;>
      exact ⟨row,member,same⟩
  · intro listed
    obtain ⟨row,member,same⟩ := listed
    cases kind : eventKind config baseDate row with
    | openEvent => exact Or.inl (Or.inl (Or.inl ⟨row,member,kind,same⟩))
    | exceededTriesExceeded => exact Or.inl (Or.inl (Or.inr ⟨row,member,kind,same⟩))
    | exceededTries => exact Or.inl (Or.inr ⟨row,member,kind,same⟩)
    | delayedEvent => exact Or.inr ⟨row,member,kind,same⟩

theorem iterated_nodup (table : Table) (now startTime baseDate : Nat) (delayed : List String) :
    ((System.selection config table now startTime baseDate delayed).selectedEventMap ++
      idsOfKind config baseDate .delayedEvent (table.entries config false startTime baseDate delayed)).Nodup := by
  have distinct : ((table.entries config false startTime baseDate delayed).map Row.ID).Nodup :=
    table.nodup.sublist (((List.take_sublist _ _).trans List.filter_sublist).map Row.ID)
  refine List.nodup_append.mpr ⟨idsOfKind_nodup config table false startTime baseDate delayed,?_,?_⟩
  · exact distinct.sublist (List.filter_sublist.map Row.ID)
  · intro id chosen other put same
    subst same
    obtain ⟨row,member,name,open_⟩ := selection_row config chosen
    obtain ⟨again,inside,kind,same⟩ := (mem_idsOfKind config).mp put
    have unique := List.inj_on_of_nodup_map distinct member inside (name.trans same.symm)
    exact open_ (unique ▸ kind)

variable (run) in
/-- Every row is in at most one iteration, and all iterations but the last one have an entry. -/
structure Progress (start : Table) (loop : Loop) : Prop where
  ids : loop.table.ids = start.ids
  once : loop.ids.Nodup
  known : loop.ids ⊆ start.ids
  delayed : loop.selectedDelayedEventIds = loop.delayed
  settled : loop.shouldContinue = true → ∀ row ∈ loop.table.rows, row.ID ∈ loop.selected → Settled run.startTime row
  counted : loop.history.length ≤ loop.ids.length + (if loop.shouldContinue then 0 else 1)

theorem mem_ids {loop : Loop} {id : String} : id ∈ loop.ids ↔ id ∈ loop.selected ∨ id ∈ loop.delayed := by
  simp only [Loop.ids,Loop.selected,Loop.delayed,List.mem_flatMap,Iterated.ids,List.mem_append]
  constructor
  · intro listed
    obtain ⟨iterated,member,chosen | put⟩ := listed
    · exact Or.inl ⟨iterated,member,chosen⟩
    · exact Or.inr ⟨iterated,member,put⟩
  · intro listed
    rcases listed with ⟨iterated,member,chosen⟩ | ⟨iterated,member,put⟩
    · exact ⟨iterated,member,Or.inl chosen⟩
    · exact ⟨iterated,member,Or.inr put⟩

theorem Progress.fresh {start : Table} {loop : Loop} (progress : Progress run start loop)
    (running : loop.shouldContinue = true) {iteration : Iteration} {row : Row}
    (member : row ∈ loop.entries config run iteration) : row.ID ∉ loop.ids := by
  intro listed
  have inside := List.mem_of_mem_take member
  obtain ⟨stored,fits⟩ := List.mem_filter.mp inside
  simp only [Bool.and_eq_true,Bool.not_eq_true',List.contains_eq_mem,decide_eq_false_iff_not] at fits
  rcases mem_ids.mp listed with chosen | put
  · have settled := progress.settled running row stored chosen
    rw [settled.not_selectable] at fits
    cases fits.1
  · exact fits.2 (progress.delayed ▸ put)

theorem Passed.ids_eq {iteration : Iteration} {loop next : Loop} {iterated : Iterated}
    (passed : Passed config run iteration loop next iterated) :
    iterated.ids.Nodup ∧ ∀ id, id ∈ iterated.ids ↔ ∃ row ∈ loop.entries config run iteration, row.ID = id := by
  rw [Iterated.ids,passed.selectedEventMap,passed.delayedEvents]
  exact ⟨iterated_nodup _ _ _ _ _,mem_iterated _ _ _ _ _⟩

theorem Progress.step {start : Table} {loop next : Loop} (progress : Progress run start loop) {iteration : Iteration}
    (admissible : Admissible run iteration next)
    (taken : iterate env setting config run loop iteration = some next) : Progress run start next := by
  have running := iterate_running taken
  obtain ⟨iterated,passed⟩ := iterate_passed taken admissible.clock (progress.settled running)
  obtain ⟨distinct,members⟩ := passed.ids_eq
  have all : next.ids = loop.ids ++ iterated.ids := by simp [Loop.ids,passed.history]
  refine ⟨passed.ids.trans progress.ids,?_,?_,?_,?_,?_⟩
  · rw [all]
    refine List.nodup_append.mpr ⟨progress.once,distinct,?_⟩
    intro id before other new same
    subst same
    obtain ⟨row,member,rfl⟩ := (members id).mp new
    exact progress.fresh running member before
  · rw [all]
    refine List.append_subset.mpr ⟨progress.known,?_⟩
    intro id new
    obtain ⟨row,member,rfl⟩ := (members id).mp new
    rw [← progress.ids]
    exact List.mem_map_of_mem (mem_entries_rows config member).1
  · simp [passed.selectedDelayedEventIds,progress.delayed,Loop.delayed,passed.history]
  · intro going row member listed
    obtain ⟨finished,_⟩ := continues_true (going ▸ passed.shouldContinue)
    apply passed.settled row member
    have listed : row.ID ∈ loop.selected ∨ row.ID ∈ iterated.chunk.selectedEventMap := by
      simpa [Loop.selected,passed.history] using listed
    rcases listed with before | new
    · exact Or.inl before
    · exact Or.inr (admissible.persisted iterated (by simp [passed.history]) finished _ new)
  · have counted := progress.counted
    rw [if_pos running] at counted
    rw [all,passed.history,List.length_append,List.length_append,List.length_singleton]
    split
    · rename_i going
      obtain ⟨_,filled⟩ := continues_true (going ▸ passed.shouldContinue)
      obtain ⟨row,member⟩ := List.exists_mem_of_ne_nil _ (List.isEmpty_eq_false_iff.mp filled)
      have positive := List.length_pos_of_mem ((members row.ID).mpr ⟨row,member,rfl⟩)
      omega
    · omega

theorem progress_start (now : Nat) (table : Table) : Progress run table (Loop.start now table) :=
  ⟨rfl,by simp [Loop.ids,Loop.start],by simp [Loop.ids,Loop.start],rfl,by simp [Loop.selected,Loop.start],
    by simp [Loop.start]⟩

theorem Progress.selected_nodup {start : Table} {loop : Loop} (progress : Progress run start loop) :
    loop.selected.Nodup ∧ loop.delayed.Nodup := by
  have parts : ∀ history : List Iterated,
      (history.flatMap (fun iterated => iterated.chunk.selectedEventMap)).Sublist (history.flatMap Iterated.ids) ∧
        (history.flatMap Iterated.delayedEvents).Sublist (history.flatMap Iterated.ids) := by
    intro history
    induction history with
    | nil => exact ⟨List.Sublist.refl _,List.Sublist.refl _⟩
    | cons iterated rest ih =>
      simp only [List.flatMap_cons]
      exact ⟨(List.sublist_append_left _ _).append ih.1,(List.sublist_append_right _ _).append ih.2⟩
  exact ⟨progress.once.sublist (parts _).1,progress.once.sublist (parts _).2⟩

theorem Progress.bound {start : Table} {loop : Loop} (progress : Progress run start loop) :
    loop.history.length ≤ start.rows.length + 1 := by
  have listed : loop.ids.length ≤ start.ids.length :=
    (List.subperm_of_subset progress.once progress.known).length_le
  have rows : start.ids.length = start.rows.length := List.length_map _
  have counted := progress.counted
  split at counted <;> omega

theorem progress_after {now : Nat} {table : Table} {iterations : Nat → Iteration}
    (admissible : ∀ count last next,
      Transition.after (iterate env setting config run) (Loop.start now table) iterations count = some last →
        iterate env setting config run last (iterations count) = some next → Admissible run (iterations count) next)
    (count : Nat) (last : Loop)
    (reached : Transition.after (iterate env setting config run) (Loop.start now table) iterations count = some last) :
    Progress run table last ∧ last.history.length = count := by
  induction count generalizing last with
  | zero =>
    cases reached
    exact ⟨progress_start now table,rfl⟩
  | succ count ih =>
    obtain ⟨before,earlier,taken⟩ := (Transition.after_succ _ _ _ _ _).mp reached
    obtain ⟨progress,length⟩ := ih before earlier
    have admitted := admissible count before last earlier taken
    refine ⟨progress.step admitted taken,?_⟩
    obtain ⟨iterated,passed⟩ := iterate_passed taken admitted.clock (progress.settled (iterate_running taken))
    rw [passed.history,List.length_append,length,List.length_singleton]

theorem chunk_loop_makes_progress_and_ends (env : Environment) (setting : Setting) (config : SelectConfig)
    (run : RunConfig) (now : Nat) (table : Table) (iterations : Nat → Iteration)
    (admissible : ∀ count last next,
      Transition.after (iterate env setting config run) (Loop.start now table) iterations count = some last →
        iterate env setting config run last (iterations count) = some next → Admissible run (iterations count) next) :
    (∀ count last,
      Transition.after (iterate env setting config run) (Loop.start now table) iterations count = some last →
        last.selected.Nodup ∧ last.delayed.Nodup ∧ count ≤ table.rows.length + 1) ∧
    ((∀ count last,
      Transition.after (iterate env setting config run) (Loop.start now table) iterations count = some last →
        last.shouldContinue = true → (iterate env setting config run last (iterations count)).isSome) →
      ∃ count ≤ table.rows.length + 1, ∃ last,
        Transition.after (iterate env setting config run) (Loop.start now table) iterations count = some last ∧
          last.shouldContinue = false) := by
  have short : ∀ count last,
      Transition.after (iterate env setting config run) (Loop.start now table) iterations count = some last →
        count ≤ table.rows.length + 1 := by
    intro count last reached
    obtain ⟨progress,length⟩ := progress_after admissible count last reached
    exact length ▸ progress.bound
  constructor
  · intro count last reached
    obtain ⟨progress,_⟩ := progress_after admissible count last reached
    exact ⟨progress.selected_nodup.1,progress.selected_nodup.2,short count last reached⟩
  · intro goesOn
    apply Transition.ends_within _ (fun last => last.shouldContinue = false) _ _ _ short
    intro count last reached running
    exact goesOn count last reached (by simpa using running)

instance (phase : Phase) : Decidable (phase = .finished) :=
  match phase with
  | .finished => .isTrue rfl
  | .preprocessing | .exceeding _ | .exceededTx _ _ _ _ | .processing | .persisting | .persistTx _ | .aborted =>
    .isFalse Phase.noConfusion

instance (run : RunConfig) (iteration : Iteration) (next : Loop) : Decidable (Admissible run iteration next) :=
  decidable_of_iff ((∀ entry ∈ iteration.actions, entry.2.begins = true → run.startTime < entry.1) ∧
      ∀ iterated ∈ next.history, iterated.chunk.phase = .finished →
        ∀ id ∈ iterated.chunk.selectedEventMap, id ∈ written iterated.chunk.committed)
    ⟨fun both => ⟨both.1,both.2⟩,fun admissible => ⟨admissible.clock,admissible.persisted⟩⟩

/-- An entry that stays open, a delayed one and one with exceeded tries, selected one at a time. -/
def threeRows : Table :=
  ⟨[⟨"e1",EventProcessingStatus.Open,none,0,none⟩,⟨"e2",EventProcessingStatus.Open,none,0,some 10000⟩,
    ⟨"e3",EventProcessingStatus.Error,some 500,3,none⟩],by decide⟩

def oneAtATime : SelectConfig := ⟨1,30000,120000,3⟩

def unlimited : RunConfig := ⟨1000,true,none⟩

def withoutPayload (time : Nat) (exceeded : List (Nat × Chunk.Action)) : Iteration :=
  ⟨time,time,(time + 1,.preprocess (fun _ => .value))::exceeded ++
    [(time + 5,.noPayload),(time + 6,.persistOpen),(time + 7,.persistCommit true)],time + 8⟩

def threeRowsRun : Nat → Iteration
  | 0 => ⟨1000,1001,[(1002,.preprocess (fun _ => .value)),(1002,.cluster (some [("e1",["e1"])])),(1003,.launch 0),
      (1004,.processEvent 0 true),
      (1005,.report 0 (.returned (.arr [.arr [.str "e1",.nat EventProcessingStatus.Open]]))),(1006,.settle 0 false true),
      (1007,.write 0 true),(1008,.commit 0 true),(1009,.endMap true),(1010,.persistOpen),
      (1011,.persistCommit true)],1012⟩
  | 2 => withoutPayload 1030 [(1032,.exceededOpen false),(1033,.exceededWrite true),(1034,.exceededCommit true)]
  | count => withoutPayload (1010 + 10 * count) []

theorem chunk_loop_makes_progress_and_ends_three_rows :
    let reached := Transition.after (iterate .plain System.twoAtATime oneAtATime unlimited)
      (Loop.start 1000 threeRows) threeRowsRun
    (reached 4).map (fun last => (last.selected,last.delayed,last.shouldContinue)) =
        some (["e1","e3"],["e2"],false) ∧
      (∀ count last, reached count = some last → last.selected.Nodup ∧ last.delayed.Nodup ∧ count ≤ 4) ∧
      ∃ count ≤ 4, ∃ last, reached count = some last ∧ last.shouldContinue = false := by
  intro reached
  have computed : (reached 4).map (fun last => (last.selected,last.delayed,last.shouldContinue)) =
      some (["e1","e3"],["e2"],false) := by decide +kernel
  have refused : reached 5 = none := by decide +kernel
  have short : ∀ count last, reached count = some last → count < 5 := by
    intro count last found
    by_contra long
    obtain ⟨more,rfl⟩ := Nat.exists_eq_add_of_le (Nat.le_of_not_lt long)
    clear long
    induction more generalizing last with
    | zero =>
      rw [Nat.add_zero,refused] at found
      cases found
    | succ more ih =>
      obtain ⟨before,earlier,_⟩ := (Transition.after_succ _ _ _ _ _).mp found
      exact ih before earlier
  have checked : ∀ count < 5, (reached count).all (fun last =>
      (iterate .plain System.twoAtATime oneAtATime unlimited last (threeRowsRun count)).all
        (fun next => decide (Admissible unlimited (threeRowsRun count) next))) = true := by decide +kernel
  have goesOn : ∀ count < 5, (reached count).all (fun last => !last.shouldContinue ||
      (iterate .plain System.twoAtATime oneAtATime unlimited last (threeRowsRun count)).isSome) = true := by
    decide +kernel
  obtain ⟨safe,ends⟩ := chunk_loop_makes_progress_and_ends .plain System.twoAtATime oneAtATime unlimited 1000 threeRows
    threeRowsRun (by
      intro count last next found taken
      have holds := checked count (short count last found)
      rw [show reached count = some last from found,Option.all_some,taken,Option.all_some] at holds
      simpa using holds)
  refine ⟨computed,safe,ends ?_⟩
  intro count last found running
  have holds := goesOn count (short count last found)
  rw [show reached count = some last from found,Option.all_some] at holds
  simpa [running] using holds

end

end EventQueue.ChunkLoop

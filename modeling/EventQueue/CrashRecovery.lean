import EventQueue.ChunkLoop

/-! What is left in the event table when processors crash. No row depends on the processor that had selected it: once
its last timestamp is old enough the row is selected again, and the next run of `processEventQueue` that comes to its
end has taken care of it. -/
namespace EventQueue.CrashRecovery
open ChunkLoop

inductive Event
  | move (now : Nat) (move : Move)
  /-- A processor is gone; the database rolls its open transactions back. -/
  | crash (index : Nat)

/-- Neither done nor given up. -/
def unfinished (row : Row) : Bool :=
  decide (row.status = EventProcessingStatus.Open) || decide (row.status = EventProcessingStatus.Error) ||
    decide (row.status = EventProcessingStatus.InProgress)

/-- A row whose date is not after the time given. -/
def dueAt (time : Int) (row : Row) : Bool := row.startAfter.all (fun startAfter => decide (startAfter ≤ time))

/-- The timestamp of a row lies in the past; a row that has been selected or has failed has one. -/
structure Dated (now : Nat) (row : Row) : Prop where
  stamped : row.status = EventProcessingStatus.InProgress ∨ row.status = EventProcessingStatus.Error →
    row.lastAttemptTimestamp.isSome
  past : ∀ last, row.lastAttemptTimestamp = some last → last ≤ now

/-- What an instance may still write has a timestamp in the past. -/
structure Begun (now : Nat) (chunk : Chunk) : Prop where
  begun : ∀ tx ∈ chunk.openTxs, tx.timestamp ≤ now
  written : ∀ tx ∈ chunk.openTxs, ∀ update ∈ tx.updates, update.lastAttemptTimestamp ≤ now

structure InPast (system : System) : Prop where
  rows : ∀ row ∈ system.table.rows, Dated system.now row
  procs : ∀ proc ∈ system.procs, Begun system.now proc.chunk

/-- A published row is dated, as one that is open and has not been tried is. -/
def Publishes (_ : System) : Event → Prop
  | .move now (.publish _ row) => Dated now row
  | _ => True

section
variable (env : Environment) (setting : Setting) (config : SelectConfig)

def step (system : System) : Event → Option System
  | .move now move => system.step env setting config (now,move)
  | .crash index => some {system with procs := system.procs.eraseIdx index}

end

theorem Dated.later {now time : Nat} {row : Row} (dated : Dated now row) (later : now ≤ time) : Dated time row :=
  ⟨dated.stamped,fun last known => (dated.past last known).trans later⟩

theorem Begun.later {now time : Nat} {chunk : Chunk} (begun : Begun now chunk) (later : now ≤ time) : Begun time chunk :=
  ⟨fun tx member => (begun.begun tx member).trans later,
    fun tx member update listed => (begun.written tx member update listed).trans later⟩

section
variable {env : Environment} {setting : Setting} {config : SelectConfig}

theorem update_timestamp {retry : RetryConfig} {now timestamp status : Nat} {group : Group} {update : Update}
    (built : group.update env retry now timestamp status = some update) : update.lastAttemptTimestamp = timestamp := by
  obtain ⟨error,_,built⟩ := Option.bind_eq_some_iff.mp built
  obtain ⟨startAfter,_,built⟩ := Option.bind_eq_some_iff.mp built
  cases built
  rfl

theorem Begun.tx {chunk : Chunk} {now : Nat} (begun : Begun now chunk) {action : Chunk.Action} {tx : StatusTx}
    (change : Chunk.TxChange env setting chunk now action tx) :
    tx.timestamp ≤ now ∧ ∀ update ∈ tx.updates, update.lastAttemptTimestamp ≤ now := by
  have old : ∀ old ok, old ∈ chunk.openTxs → Chunk.advance env setting now ok old = some tx →
      tx.timestamp ≤ now ∧ ∀ update ∈ tx.updates, update.lastAttemptTimestamp ≤ now := by
    intro old ok member moved
    refine ⟨advance_timestamp moved ▸ begun.begun old member,?_⟩
    refine Chunk.advance_updates moved ?_ (begun.written old member)
    intro group status update _ built
    exact update_timestamp built ▸ begun.begun old member
  have new : ∀ checked : Option (Dict UpdateData), checked.bind (StatusTx.open env now) = some tx →
      tx.timestamp ≤ now ∧ ∀ update ∈ tx.updates, update.lastAttemptTimestamp ≤ now := by
    intro checked opened
    obtain ⟨timestamp,none⟩ := open_begun opened
    simp [timestamp,none]
  cases change with
  | kept member => exact ⟨begun.begun tx member,begun.written tx member⟩
  | moved current ok member moved => exact old current ok member moved
  | begun _ source =>
    cases source with
    | kept member => exact ⟨begun.begun tx member,begun.written tx member⟩
    | moved current ok member moved => exact old current ok member moved
    | checked statusMap opened => exact new _ opened
    | filled phase opened => exact new _ opened

theorem Begun.step {chunk next : Chunk} {now : Nat} (begun : Begun now chunk) {action : Chunk.Action}
    (taken : Chunk.Taken env setting chunk now action next) : Begun now next :=
  ⟨fun _ member => (begun.tx (taken.change member)).1,fun _ member => (begun.tx (taken.change member)).2⟩

theorem begun_selection (table : Table) (now startTime baseDate : Nat) (delayed : List String) :
    Begun now (System.selection config table now startTime baseDate delayed) := by
  constructor <;> simp [System.selection,Chunk.selected,Chunk.openTxs]

theorem Dated.toInProgress (now : Nat) (row : Row) : Dated now (row.toInProgress now) := by
  refine ⟨fun _ => rfl,fun last known => ?_⟩
  cases known
  exact Nat.le_refl _

theorem Dated.updates {now : Nat} {row : Row} (dated : Dated now row) {updates : List Update}
    (past : ∀ update ∈ updates, update.lastAttemptTimestamp ≤ now) :
    Dated now (updates.foldl (fun row update => update.apply row) row) := by
  induction updates generalizing row with
  | nil => exact dated
  | cons update rest ih =>
    have first : Dated now (update.apply row) := by
      unfold Update.apply
      split
      · refine ⟨fun _ => rfl,fun last known => ?_⟩
        cases known
        exact past update List.mem_cons_self
      · exact dated
    exact ih first (fun other member => past other (List.mem_cons_of_mem _ member))

theorem dated_tableAfter {table : Table} {chunk : Chunk} {now : Nat} {action : Chunk.Action}
    (rows : ∀ row ∈ table.rows, Dated now row) (begun : Begun now chunk) :
    ∀ row ∈ (System.tableAfter table chunk now action).rows, Dated now row := by
  unfold System.tableAfter
  split
  · split
    · exact rows
    · intro row member
      obtain ⟨old,inside,rfl⟩ := List.mem_map.mp member
      split
      · refine ⟨fun _ => rfl,fun last known => ?_⟩
        cases known
        exact Nat.le_refl _
      · exact rows old inside
  · intro row member
    obtain ⟨old,inside,rfl⟩ := List.mem_map.mp member
    refine (rows old inside).updates (fun update listed => ?_)
    obtain ⟨tx,opened,own⟩ := Chunk.commits_open listed
    exact begun.written tx opened update own

theorem InPast.step {system next : System} (inPast : InPast system) {event : Event} (publishes : Publishes system event)
    (taken : step env setting config system event = some next) : InPast next := by
  cases event with
  | crash index =>
    cases taken
    exact ⟨inPast.rows,fun proc member => inPast.procs proc (List.mem_of_mem_eraseIdx member)⟩
  | move now move =>
    obtain ⟨later,known⟩ := System.step_taken env setting config system next now move taken
    have rows : ∀ row ∈ system.table.rows, Dated now row := fun row member => (inPast.rows row member).later later
    have procs : ∀ proc ∈ system.procs, Begun now proc.chunk := fun proc member => (inPast.procs proc member).later later
    cases known with
    | publish position row fresh =>
      refine ⟨fun other member => ?_,procs⟩
      obtain before | own := List.mem_append.mp member
      · exact rows other (List.mem_of_mem_take before)
      · obtain rfl | behind := List.mem_cons.mp own
        · exact publishes
        · exact rows other (List.mem_of_mem_drop behind)
    | select startTime baseDate delayed earlier free =>
      refine ⟨fun row member => ?_,fun proc member => ?_⟩
      · obtain ⟨old,inside,rfl⟩ := List.mem_map.mp member
        split
        · exact Dated.toInProgress now old
        · exact rows old inside
      · obtain before | last := List.mem_append.mp member
        · exact procs proc before
        · rw [List.mem_singleton.mp last]
          exact begun_selection _ _ _ _ _
    | act index action proc chunk found reads moved =>
      have begun := procs proc (List.mem_of_getElem? found)
      exact ⟨dated_tableAfter rows begun,Parties.forall_mem_moved procs (begun.step moved)⟩

/-- What one iteration of the loop does not select it leaves as it is. -/
theorem iterate_keeps {run : RunConfig} {loop next : Loop} {iteration : Iteration}
    (taken : iterate env setting config run loop iteration = some next) {row : Row} (member : row ∈ loop.table.rows)
    (spared : row.ID ∉ (System.selection config loop.table iteration.selectedAt run.startTime iteration.baseDate
      loop.selectedDelayedEventIds).selectedEventMap) : row ∈ next.table.rows := by
  unfold iterate at taken
  rw [if_pos (iterate_running taken)] at taken
  obtain ⟨system,reached,taken⟩ := Option.bind_eq_some_iff.mp taken
  obtain ⟨first,selected,reached⟩ := Transition.run_cons _ _ _ _ _ reached
  have kept := Transition.invariant (System.step env setting config)
    (fun _ entry => ∃ action, entry.2 = .act 0 action)
    (fun system => ∃ proc, system.procs = [proc] ∧ Chunk.WithinSelection proc.chunk ∧
      row.ID ∉ proc.chunk.selectedEventMap ∧ row ∈ system.table.rows)
    (by
      rintro state ⟨now,move⟩ after ⟨proc,only,within,outside,inside⟩ ⟨action,rfl⟩ moved
      unfold System.step at moved
      split at moved
      · cases moved
      · obtain ⟨current,found,moved⟩ := Option.bind_eq_some_iff.mp moved
        rw [only] at found
        cases found
        split at moved
        · obtain ⟨chunk,stepped,rfl⟩ := Option.map_eq_some_iff.mp moved
          have acted := Chunk.step_taken env setting proc.chunk chunk now action stepped
          refine ⟨⟨chunk,System.tickAfter proc now action⟩,by rw [only]; rfl,within.step acted,?_,?_⟩
          · rw [acted.selection.2]
            exact outside
          · exact within.keeps stepped inside outside
        · cases moved)
    first system _ ?_ ?_ reached
  · obtain ⟨proc,only,_,_,inside⟩ := kept
    rw [only] at taken
    obtain ⟨shouldContinue,_,rfl⟩ := Option.map_eq_some_iff.mp taken
    exact inside
  · obtain ⟨_,known⟩ := System.step_taken env setting config _ first _ _ selected
    cases known with
    | select _ _ _ earlier free =>
      exact ⟨_,rfl,Chunk.withinSelection_selected _ _ _ _,spared,Table.keeps_setToInProgress member spared⟩
  · refine Transition.along_of_forall _ _ _ _ (fun entry listed => ?_)
    obtain ⟨given,_,rfl⟩ := List.mem_map.mp listed
    exact ⟨given.2,rfl⟩

/-- A row the loop has not selected is as it was, and it has not been put off. -/
structure Untouched (row : Row) (loop : Loop) : Prop where
  same : row.ID ∉ loop.selected → row ∈ loop.table.rows
  notDelayed : row.ID ∉ loop.delayed

/-- With a date of its own that is reached, a row is not put off. -/
theorem not_delayed {row : Row} {date baseDate : Nat} (due : dueAt date row = true)
    (reached : date ≤ baseDate) : eventKind config baseDate row ≠ .delayedEvent := by
  unfold eventKind
  split
  · simp
  · split
    · simp
    · cases given : row.startAfter with
      | none => simp
      | some startAfter =>
        have early : startAfter ≤ date := by simpa [dueAt,given] using due
        have fits : startAfter ≤ baseDate + EVENT_START_AFTER_HEADROOM := by
          unfold EVENT_START_AFTER_HEADROOM
          omega
        simp [fits]

theorem Untouched.step {run : RunConfig} {start : Table} {loop next : Loop} {iteration : Iteration} {row : Row}
    (untouched : Untouched row loop) (progress : Progress run start loop) (admissible : Admissible run iteration next)
    (taken : iterate env setting config run loop iteration = some next) {date : Nat}
    (due : dueAt date row = true) (reached : date ≤ iteration.baseDate) :
    Untouched row next := by
  have running := iterate_running taken
  obtain ⟨iterated,passed⟩ := iterate_passed taken admissible.clock (progress.settled running)
  have selected : next.selected = loop.selected ++ iterated.chunk.selectedEventMap := by
    simp [Loop.selected,passed.history]
  have delayed : next.delayed = loop.delayed ++ iterated.delayedEvents := by simp [Loop.delayed,passed.history]
  refine ⟨fun absent => ?_,fun listed => ?_⟩
  · rw [selected,List.mem_append,not_or,passed.selectedEventMap] at absent
    exact iterate_keeps taken (untouched.same absent.1) absent.2
  · rw [delayed,List.mem_append,passed.delayedEvents] at listed
    obtain before | now := listed
    · exact untouched.notDelayed before
    · obtain ⟨entry,member,kind,same⟩ := (mem_idsOfKind config).mp now
      by_cases chosen : row.ID ∈ loop.selected
      · exact progress.fresh running member (mem_ids.mpr (Or.inl (same ▸ chosen)))
      · have own := Table.row_unique (mem_entries_rows config member).1 (untouched.same chosen) same
        exact not_delayed due reached (own ▸ kind)

end

def handled (id : String) (time : Nat) : Iteration :=
  ⟨time,time + 1,[(time + 2,.preprocess (fun _ => .value)),(time + 2,.cluster (some [(id,[id])])),
    (time + 3,.launch 0),(time + 4,.processEvent 0 true),
    (time + 5,.report 0 (.returned (.arr [.arr [.str id,.nat EventProcessingStatus.Done]]))),
    (time + 6,.settle 0 false true),(time + 7,.write 0 true),(time + 8,.commit 0 true),(time + 9,.endMap true),
    (time + 10,.persistOpen),(time + 11,.persistCommit true)],time + 12⟩

end EventQueue.CrashRecovery

import EventQueue.ChunkTransactions
import EventQueue.EventTable
import EventQueue.Lib.Parties

/-! Any number of processors of one event on the shared event table. Each processor works on
one chunk; selections, keep-alive ticks and status transactions of all of them interleave.
A transaction takes effect at its commit, rows it has updated before are locked until then. -/
namespace EventQueue

/-- A processor after its selection, with the time of its last committed keep-alive tick. -/
structure Proc where
  chunk : Chunk
  lastTick : Nat

structure System where
  now : Nat
  table : Table
  procs : List Proc

inductive Move
  | publish (position : Nat) (row : Row)
  /-- A new processor runs `getQueueEntriesAndSetToInProgress`. -/
  | select (startTime baseDate : Nat) (selectedDelayedEventIds : List String)
  | act (proc : Nat) (action : Chunk.Action)

namespace System

def locked (system : System) (id : String) : Bool :=
  system.procs.any (fun proc => proc.chunk.lockedIds.contains id)

/-- A tick reads the rows of its open entries in progress; it waits for locked ones. -/
def tickReads (system : System) (chunk : Chunk) : Chunk.Action → Bool
  | .tick found _ =>
    decide (found = system.table.inProgress chunk.notCommitedStatusMap) &&
      found.all (fun row => !system.locked row.1)
  | _ => true

def tableAfter (table : Table) (chunk : Chunk) (now : Nat) : Chunk.Action → Table
  | .tick found true => if chunk.keepAliveViolated then table else table.refresh (chunk.valid found) now
  | action => table.update (chunk.commits action)

def tickAfter (proc : Proc) (now : Nat) : Chunk.Action → Nat
  | .tick _ true => now
  | _ => proc.lastTick

variable (env : Environment) (setting : Setting) (config : SelectConfig)

def selection (table : Table) (now startTime baseDate : Nat) (selectedDelayedEventIds : List String) : Chunk :=
  let entries := table.entries config false startTime baseDate selectedDelayedEventIds
  .selected (idsOfKind config baseDate .openEvent entries) (idsOfKind config baseDate .exceededTriesExceeded entries)
    (idsOfKind config baseDate .exceededTries entries) now

def step (system : System) (entry : Nat × Move) : Option System :=
  if entry.1 < system.now then none
  else match entry.2 with
    | .publish position row =>
      if fresh : row.ID ∉ system.table.ids then
        some {system with now := entry.1,table := system.table.insert position row fresh}
      else none
    | .select startTime baseDate selectedDelayedEventIds =>
      if baseDate ≤ entry.1 ∧
          (system.table.entries config false startTime baseDate selectedDelayedEventIds).all
            (fun row => !system.locked row.ID) = true then
        let chunk := selection config system.table entry.1 startTime baseDate selectedDelayedEventIds
        some ⟨entry.1,system.table.setToInProgress chunk.selectedEventMap entry.1,system.procs ++ [⟨chunk,entry.1⟩]⟩
      else none
    | .act index action => system.procs[index]?.bind (fun proc =>
      if system.tickReads proc.chunk action then
        (proc.chunk.step env setting entry.1 action).map (fun next =>
          ⟨entry.1,tableAfter system.table proc.chunk entry.1 action,
            system.procs.set index ⟨next,tickAfter proc entry.1 action⟩⟩)
      else none)

inductive Taken (system : System) (now : Nat) : Move → System → Prop
  | publish (position : Nat) (row : Row) (fresh : row.ID ∉ system.table.ids) :
      Taken system now (.publish position row)
        {system with now := now,table := system.table.insert position row fresh}
  | select (startTime baseDate : Nat) (selectedDelayedEventIds : List String) (earlier : baseDate ≤ now)
      (free : ∀ row ∈ system.table.entries config false startTime baseDate selectedDelayedEventIds,
        system.locked row.ID = false) :
      Taken system now (.select startTime baseDate selectedDelayedEventIds)
        ⟨now,system.table.setToInProgress
            (selection config system.table now startTime baseDate selectedDelayedEventIds).selectedEventMap now,
          system.procs ++ [⟨selection config system.table now startTime baseDate selectedDelayedEventIds,now⟩]⟩
  | act (index : Nat) (action : Chunk.Action) (proc : Proc) (next : Chunk)
      (found : system.procs[index]? = some proc) (reads : system.tickReads proc.chunk action = true)
      (moved : Chunk.Taken env setting proc.chunk now action next) :
      Taken system now (.act index action)
        ⟨now,tableAfter system.table proc.chunk now action,
          system.procs.set index ⟨next,tickAfter proc now action⟩⟩

theorem step_taken (system next : System) (now : Nat) (move : Move)
    (taken : system.step env setting config (now,move) = some next) :
    system.now ≤ now ∧ Taken env setting config system now move next := by
  unfold step at taken
  split at taken
  · cases taken
  · rename_i later
    refine ⟨Nat.le_of_not_lt later,?_⟩
    cases move with
    | publish position row =>
      simp only at taken
      split at taken
      · rename_i fresh
        cases taken
        exact .publish position row fresh
      · cases taken
    | select startTime baseDate selectedDelayedEventIds =>
      simp only at taken
      split at taken
      · rename_i ready
        cases taken
        exact .select startTime baseDate selectedDelayedEventIds ready.1 (by simpa using ready.2)
      · cases taken
    | act index action =>
      obtain ⟨proc,found,taken⟩ := Option.bind_eq_some_iff.mp taken
      split at taken
      · rename_i reads
        obtain ⟨chunk,moved,rfl⟩ := Option.map_eq_some_iff.mp taken
        exact .act index action proc chunk found reads (Chunk.step_taken env setting proc.chunk chunk now action moved)
      · cases taken

variable {env setting config}

/-- No update of the step is for an entry that a later processor has selected. -/
def NoLateWrite (system : System) (index : Nat) (chunk : Chunk) (action : Chunk.Action) : Prop :=
  ∀ update ∈ chunk.commits action, ∀ id ∈ update.ids, ∀ later ∈ system.procs.drop (index + 1),
    id ∉ later.chunk.selectedEventMap

instance (system : System) (index : Nat) (chunk : Chunk) (action : Chunk.Action) :
    Decidable (system.NoLateWrite index chunk action) :=
  inferInstanceAs (Decidable (∀ update ∈ chunk.commits action, ∀ id ∈ update.ids,
    ∀ later ∈ system.procs.drop (index + 1), id ∉ later.chunk.selectedEventMap))

theorem selection_entry {table : Table} {now startTime baseDate : Nat} {delayed : List String} {id : String}
    (chosen : id ∈ (selection config table now startTime baseDate delayed).selectedEventMap) :
    ∃ row ∈ table.entries config false startTime baseDate delayed, row.ID = id := by
  simp only [selection,Chunk.selected,List.mem_append,mem_idsOfKind] at chosen
  rcases chosen with (⟨row,member,_,same⟩ | ⟨row,member,_,same⟩) | ⟨row,member,_,same⟩ <;> exact ⟨row,member,same⟩

theorem tableAfter_ids (table : Table) (chunk : Chunk) (now : Nat) (action : Chunk.Action) :
    (tableAfter table chunk now action).ids = table.ids := by
  unfold tableAfter
  split
  · split
    · rfl
    · exact Table.ids_change _ _ _
  · exact Table.ids_change _ _ _

/-- Two open entries and a keep-alive window of 100 ms. -/
def twoEntries : Table := ⟨[⟨"e1",0,none,0,none⟩,⟨"e2",0,none,0,none⟩],by decide⟩

def window : SelectConfig := ⟨100,24,100,3⟩

def twoAtATime : Setting := ⟨.isolated,2,⟨300000,10000⟩⟩

end System

end EventQueue

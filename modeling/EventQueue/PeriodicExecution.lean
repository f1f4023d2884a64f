import EventQueue.PeriodicEvent

/-! One execution of `processPeriodicEvent`: the loop whose variables `queueEntry` and `processNext` live across
iterations, and the choice among several selected entries in `handleDuplicatedPeriodicEventEntry`. -/
namespace EventQueue.PeriodicExecution
open Js (Value)
open Transition

/-- A property of a selected entry; what is not a column is undefined. -/
def property (row : Row) : String → Value
  | "ID" => .str row.ID
  | "status" => .nat row.status
  | "lastAttemptTimestamp" => (row.lastAttemptTimestamp.map (fun time => Value.date (some time))).getD .null
  | "attempts" => .num (.finite row.attempts)
  | "startAfter" => (row.startAfter.map (fun time => Value.date (some time))).getD .null
  | _ => .undefined

/-- The number that a comparison makes of a value that is not a string. -/
def numberOf : Value → Js.Number
  | .null => .finite 0
  | .bool value => .finite (if value then 1 else 0)
  | .num number => number
  | .date (some time) => .finite time
  | _ => .nan

def lessOrEqual (left right : Value) : Bool := (numberOf right).ge (numberOf left)

/-- The loop variables of `handleDuplicatedPeriodicEventEntry`. -/
structure Choice where
  queueEntryToUse : Option Row
  obsoleteEntries : List Row

def Choice.next (choice : Choice) (queueEntry : Row) : Choice :=
  match choice.queueEntryToUse with
  | none => ⟨some queueEntry,choice.obsoleteEntries⟩
  | some queueEntryToUse =>
    if lessOrEqual (property queueEntryToUse "startAfter") (property queueEntry "queueEntry") then
      ⟨some queueEntry,choice.obsoleteEntries ++ [queueEntryToUse]⟩
    else ⟨some queueEntryToUse,choice.obsoleteEntries ++ [queueEntry]⟩

def choose (queueEntries : List Row) : Choice := queueEntries.foldl Choice.next ⟨none,[]⟩

/-- The entry to use and the table in which the others are done. -/
def handleDuplicatedPeriodicEventEntry (table : Table) (queueEntries : List Row) : Option Row × Table :=
  ((choose queueEntries).queueEntryToUse,
    table.setPeriodicEventStatus ((choose queueEntries).obsoleteEntries.map Row.ID) EventProcessingStatus.Done)

/-- No row has a property `queueEntry`, so no comparison succeeds. -/
theorem lessOrEqual_queueEntry (left : Value) (row : Row) : lessOrEqual left (property row "queueEntry") = false := rfl

theorem choose_cons (first : Row) (rest : List Row) : choose (first::rest) = ⟨some first,rest⟩ := by
  have collected : ∀ done, rest.foldl Choice.next ⟨some first,done⟩ = ⟨some first,done ++ rest⟩ := by
    induction rest with
    | nil => simp
    | cons entry rest ih =>
      intro done
      simp [Choice.next,lessOrEqual_queueEntry,ih]
  exact collected []

/-- The date of an entry in a comparison; null counts as zero. -/
def startOf (row : Row) : Int := row.startAfter.getD 0

/-- An entry with the latest start is kept, exactly the other ones are done. -/
def KeepsLatest (table : Table) (queueEntries : List Row) : Prop :=
  ∃ kept ∈ queueEntries, (handleDuplicatedPeriodicEventEntry table queueEntries).1 = some kept ∧
    (∀ other ∈ queueEntries, startOf other ≤ startOf kept) ∧
    (handleDuplicatedPeriodicEventEntry table queueEntries).2.rows = table.rows.map (fun row =>
      if row.ID ≠ kept.ID ∧ row.ID ∈ queueEntries.map Row.ID then {row with status := EventProcessingStatus.Done}
      else row)

/-- The survivor of several entries is the first one of the selection, whatever their dates. -/
theorem latest_entry_kept_iff (table : Table) (queueEntries : List Row) (several : 2 ≤ queueEntries.length)
    (distinct : (queueEntries.map Row.ID).Nodup) :
    KeepsLatest table queueEntries ↔ ∃ first, queueEntries.head? = some first ∧
      ∀ other ∈ queueEntries, startOf other ≤ startOf first := by
  cases queueEntries with
  | nil => simp at several
  | cons first rest =>
    have kept : (handleDuplicatedPeriodicEventEntry table (first::rest)).1 = some first := by
      simp [handleDuplicatedPeriodicEventEntry,choose_cons]
    have done : (handleDuplicatedPeriodicEventEntry table (first::rest)).2.rows = table.rows.map (fun row =>
        if row.ID ≠ first.ID ∧ row.ID ∈ (first::rest).map Row.ID then
          {row with status := EventProcessingStatus.Done} else row) := by
      have absent := (List.nodup_cons.mp distinct).1
      simp only [handleDuplicatedPeriodicEventEntry,choose_cons,Table.setPeriodicEventStatus,Table.change]
      apply List.map_congr_left
      intro row _
      have same : row.ID ∈ rest.map Row.ID ↔ row.ID ≠ first.ID ∧ row.ID ∈ (first::rest).map Row.ID := by
        constructor
        · intro listed
          exact ⟨fun own => absent (own ▸ listed),by simp [List.mem_map.mp listed]⟩
        · rintro ⟨other,listed⟩
          exact (List.mem_cons.mp listed).resolve_left other
      rw [if_congr same rfl rfl]
    constructor
    · rintro ⟨chosen,_,returned,latest,_⟩
      rw [kept,Option.some.injEq] at returned
      subst returned
      exact ⟨first,rfl,latest⟩
    · rintro ⟨found,head,latest⟩
      rw [List.head?_cons,Option.some.injEq] at head
      subst head
      exact ⟨first,by simp,kept,latest,done⟩

def earlier : Row := ⟨"e1",EventProcessingStatus.InProgress,some 5000,1,some 1000⟩
def later : Row := ⟨"e2",EventProcessingStatus.InProgress,some 5000,1,some 2000⟩
def duplicates : Table := ⟨[earlier,later],by decide⟩

theorem latest_entry_kept_selected_first : KeepsLatest duplicates [later,earlier] :=
  (latest_entry_kept_iff duplicates [later,earlier] (by decide) (by decide)).mpr ⟨later,rfl,by decide⟩

/-- With the earlier entry selected first, the later one is done and the earlier one goes on. -/
theorem earlier_entry_kept : ¬KeepsLatest duplicates [earlier,later] := by
  rintro ⟨kept,_,returned,latest,_⟩
  cases returned
  exact absurd (latest later (by simp)) (by decide)

/-- What one iteration meets. A transaction counts as done if `executeInNewTransaction` resolves. -/
structure Iteration where
  /-- What `getQueueEntriesAndSetToInProgress` returns, none if it throws. -/
  selection : Option (List Row)
  duplicatesDone : Bool
  /-- What `scheduleNextPeriodEvent` returns, none if it throws; undefined is false. -/
  scheduleNext : Option Bool
  scheduled : Bool
  /-- The transaction of the handler can be opened. -/
  opened : Bool
  processed : Bool
  statusSet : Bool

structure Loop where
  queueEntry : Option Row
  processNext : Bool

def started : Loop := ⟨none,true⟩

/-- The entry chosen from a selection that is not empty. -/
def chosen (queueEntries : List Row) : Option Row :=
  if 1 < queueEntries.length then (choose queueEntries).queueEntryToUse else queueEntries.head?

/-- The first transaction; none if it throws. An empty selection leaves `queueEntry` as it was. -/
def scheduleNext (loop : Loop) (iteration : Iteration) : Option Loop := do
  let queueEntries ← iteration.selection
  let next ← if queueEntries.isEmpty then some {loop with processNext := false}
    else if 1 < queueEntries.length && !iteration.duplicatesDone then none
    else iteration.scheduleNext.map (fun processNext => ⟨chosen queueEntries,processNext⟩)
  if iteration.scheduled then some next else none

/-- The entries that `processPeriodicEvent` of the handler is invoked with. -/
def invoked (loop : Loop) (iteration : Iteration) : List Row :=
  match scheduleNext loop iteration with
  | none => []
  | some next => if iteration.opened then next.queueEntry.toList else []

/-- The variables with which the loop goes on, none if it ends. -/
def iterate (loop : Loop) (iteration : Iteration) : Option Loop :=
  match scheduleNext loop iteration with
  | none => none
  | some next =>
    if next.queueEntry.isSome && iteration.opened && iteration.processed && iteration.statusSet && next.processNext then
      some next else none

/-- The entry chosen from the selection of this iteration is handled once; without one nothing is handled. -/
def OncePerSelection (loop : Loop) (iteration : Iteration) : Prop :=
  invoked loop iteration = (iteration.selection.bind chosen).toList

/-- Nothing between the selection and the handler fails. -/
def reachesHandler (iteration : Iteration) (queueEntries : List Row) : Bool :=
  iteration.scheduled && iteration.opened &&
    (queueEntries.isEmpty || (queueEntries.length ≤ 1 || iteration.duplicatesDone) && iteration.scheduleNext.isSome)

/-- A selection that finds entries gets to the handler, and an empty one finds no entry of an earlier iteration. -/
def Expected (loop : Loop) (iteration : Iteration) : Prop :=
  ∀ queueEntries, iteration.selection = some queueEntries →
    if queueEntries = [] then loop.queueEntry = none ∨ reachesHandler iteration [] = false
    else reachesHandler iteration queueEntries = true

theorem chosen_isSome {queueEntries : List Row} (some : queueEntries ≠ []) :
    ∃ row ∈ queueEntries, chosen queueEntries = Option.some row := by
  cases queueEntries with
  | nil => exact absurd rfl some
  | cons first rest =>
    refine ⟨first,by simp,?_⟩
    unfold chosen
    split
    · rw [choose_cons]
    · rfl

theorem invoked_empty (loop : Loop) {iteration : Iteration} (selected : iteration.selection = some []) :
    invoked loop iteration = if reachesHandler iteration [] then loop.queueEntry.toList else [] := by
  cases scheduled : iteration.scheduled with
  | false => simp [invoked,scheduleNext,selected,scheduled,reachesHandler]
  | true => simp [invoked,scheduleNext,selected,scheduled,reachesHandler]

theorem invoked_chosen (loop : Loop) {iteration : Iteration} {queueEntries : List Row}
    (selected : iteration.selection = some queueEntries) (given : queueEntries ≠ []) :
    invoked loop iteration = if reachesHandler iteration queueEntries then (chosen queueEntries).toList else [] := by
  have several : (1 < queueEntries.length && !iteration.duplicatesDone) =
      !(decide (queueEntries.length ≤ 1) || iteration.duplicatesDone) := by
    rw [Bool.not_or,← decide_not]
    simp
  unfold invoked scheduleNext reachesHandler
  simp only [selected,Option.bind_eq_bind,Option.bind_some,List.isEmpty_iff,given,if_false,several]
  cases (decide (queueEntries.length ≤ 1) || iteration.duplicatesDone) with
  | false => simp [given]
  | true => cases iteration.scheduleNext <;> cases iteration.scheduled <;> simp [given]

theorem oncePerSelection_iff (loop : Loop) (iteration : Iteration) :
    OncePerSelection loop iteration ↔ Expected loop iteration := by
  unfold OncePerSelection Expected
  cases selected : iteration.selection with
  | none => simp [invoked,scheduleNext,selected]
  | some queueEntries =>
    simp only [Option.bind_some,Option.some.injEq,forall_eq']
    by_cases empty : queueEntries = []
    · subst empty
      rw [invoked_empty loop selected,if_pos rfl]
      cases reachesHandler iteration [] with
      | false => simp [chosen]
      | true => cases loop.queueEntry <;> simp [chosen]
    · obtain ⟨row,_,found⟩ := chosen_isSome empty
      rw [invoked_chosen loop selected empty,if_neg empty,found]
      cases reachesHandler iteration queueEntries with
      | false => simp
      | true => simp

/-- In every execution, whatever its selections and schedulings return, each iteration handles exactly the entry of
its own selection iff it is as expected in the state in which it begins. -/
theorem handled_once_per_selection_iff (iterations : List Iteration) :
    Along iterate OncePerSelection started iterations ↔ Along iterate Expected started iterations :=
  along_congr oncePerSelection_iff started iterations

/-- The first iteration is behind schedule, the row it has inserted is taken by another instance. -/
def takenOver : List Iteration :=
  [⟨some [earlier],true,some true,true,true,true,true⟩,⟨some [],true,none,true,true,true,true⟩]

/-- The second selection is empty, yet the handler is invoked once more with the entry of the first one. -/
theorem entry_handled_twice : ¬Along iterate OncePerSelection started takenOver := by
  rintro ⟨_,later⟩
  have again := (later ⟨some earlier,true⟩ rfl).1
  exact absurd again (by simp [OncePerSelection,invoked,scheduleNext,chosen])

end EventQueue.PeriodicExecution

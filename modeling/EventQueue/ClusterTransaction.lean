import EventQueue.StatusAggregation
import EventQueue.StatusGrouping
import EventQueue.ChunkReports

/-! The transaction of one cluster in isolated mode: `_processEvent`, the decision between commit and rollback, and
the transaction that the statuses are written in. -/
namespace EventQueue.ClusterTransaction
open Js (Value)
open StatusGrouping (StoredRow applyUpdate writeGroups updatesOf)
open Chunk (Reaction statusTuple)

section
variable (env : Environment)

/-- The map that `_processEvent` returns; an error on the way becomes the error of all entries. -/
def processEvent (queueEntries : List String) (eventOutdated : Bool) (reaction : Reaction) : Dict Value :=
  if eventOutdated then Dict.empty
  else match reaction with
    | .thrown error => errorStatusMap queueEntries error
    | .returned reports =>
      let added := setEventStatus env Dict.empty queueEntries (statusTuple reports)
      if added.ok then added.statusMap else errorStatusMap queueEntries env.typeError

/-- Whether the transaction passed to `processEvent` is committed, and the status updates that are, in it or in the
one of `_commitStatusInNewTx`. -/
structure Fate where
  committed : Bool
  updates : Option (List Update)

/-- The callback of `processEventMap` in `executeInNewTransaction`, without failing statements and commits: what
throws is rolled back. -/
def transactionFate (retry : RetryConfig) (now timestamp : Nat) (selectedEventMap queueEntries : List String)
    (eventOutdated shouldRollbackTransaction : Bool) (reaction : Reaction) : Fate :=
  let statusMap := processEvent env queueEntries eventOutdated reaction
  match statusMapContainsError statusMap with
  | none => ⟨false,none⟩
  | some containsError =>
    let updates := updatesOf env retry now timestamp selectedEventMap statusMap
    if containsError || shouldRollbackTransaction then ⟨false,updates⟩ else ⟨updates.isSome,updates⟩

end

/-- A number out of the four statuses, or an object with one of them. -/
structure ReportedStatus where
  value : Value
  status : Nat
  allowed : status ∈ allowedStatuses
  reported : value = .nat status ∨ ∃ fields, value = .obj fields ∧ Js.field fields "status" = some (.nat status)

namespace ReportedStatus

def toReport (reported : ReportedStatus) : StatusReport :=
  ⟨reported.value,.undefined,reported.status,reported.allowed,reported.reported⟩

def failed (reported : ReportedStatus) : Bool := decide (reported.status ∈ failedStatuses)

def update (reported : ReportedStatus) : Value := updateDataOf reported.value .undefined

def data (reported : ReportedStatus) : UpdateData := (normalizeEntry reported.value).getD ⟨none,none,none,none⟩

/-- The error that `handleErrorDuringProcessing` reports. -/
def ofError (error : Value) : ReportedStatus :=
  ⟨.obj [("status",.nat EventProcessingStatus.Error),("error",error)],EventProcessingStatus.Error,error_allowed,
    Or.inr ⟨_,rfl,rfl⟩⟩

end ReportedStatus

/-- What `processEvent` does: it throws, or it returns reported statuses for ids. -/
inductive Reply
  | thrown (error : Value)
  | returned (reports : List (String × ReportedStatus))

def Reply.reaction : Reply → Reaction
  | .thrown error => .thrown error
  | .returned reports => .returned (reports.map (fun report => (report.1,report.2.value)))

/-- The statuses reported, those of a thrown error included. -/
def Reply.statuses (queueEntries : List String) : Reply → List (String × Nat)
  | .thrown _ => queueEntries.map (fun id => (id,EventProcessingStatus.Error))
  | .returned reports => reports.map (fun report => (report.1,report.2.status))

def AllDone (statuses : List (String × Nat)) : Prop := ∀ reported ∈ statuses, reported.2 = EventProcessingStatus.Done

/-- Every selected row with a report ends with a status reported for it. -/
def Persisted (selectedEventMap : List String) (statuses : List (String × Nat)) (updates : List Update) : Prop :=
  ∀ row : StoredRow, row.ID ∈ selectedEventMap → (∃ status, (row.ID,status) ∈ statuses) →
    (row.ID,(updates.foldl applyUpdate row).status) ∈ statuses

/-- Commit exactly if all is done and no rollback requested, and the statuses persisted either way. -/
def Meets (fate : Fate) (selectedEventMap : List String) (statuses : List (String × Nat))
    (shouldRollbackTransaction : Bool) : Prop :=
  (fate.committed = true ↔ AllDone statuses ∧ shouldRollbackTransaction = false) ∧
    ∃ updates, fate.updates = some updates ∧ Persisted selectedEventMap statuses updates

/-- The report that counts after another one: a failed one stays, otherwise the lower status wins. -/
def prefer (current next : ReportedStatus) : ReportedStatus :=
  if current.failed then current else if next.status ≤ current.status then next else current

def stand (counting : Dict ReportedStatus) (report : String × ReportedStatus) : Dict ReportedStatus :=
  match counting.get? report.1 with
  | none => counting.set report.1 report.2
  | some current => counting.set report.1 (prefer current report.2)

/-- The report that counts for each id, in the order of the first reports. -/
def standing (reports : List (String × ReportedStatus)) : Dict ReportedStatus := reports.foldl stand Dict.empty

section
variable (env : Environment)

/-- The error is serialisable, and so is the date where it is kept. -/
def Storable (reported : ReportedStatus) : Prop :=
  (errorOf env reported.data.error).isSome = true ∧
    (reported.status = EventProcessingStatus.Open ∨ reported.status = EventProcessingStatus.Error →
      invalidDate reported.data.startAfter = false)

/-- All entries with the error that `handleErrorDuringProcessing` reports. -/
def ofErrors (queueEntries : List String) (error : Value) : Dict ReportedStatus :=
  queueEntries.foldl (fun counting id => counting.set id (.ofError error)) Dict.empty

/-- The tuple can be logged; otherwise `JSON.stringify` throws before a status is set. -/
def Accepted (reports : List (String × ReportedStatus)) : Prop :=
  (env.stringify (statusTuple (reports.map (fun report => (report.1,report.2.value))))).isSome = true

instance decidableAccepted (reports : List (String × ReportedStatus)) : Decidable (Accepted env reports) :=
  inferInstanceAs (Decidable (_ = true))

def counted (queueEntries : List String) : Reply → Dict ReportedStatus
  | .thrown error => ofErrors queueEntries error
  | .returned reports => if Accepted env reports then standing reports else ofErrors queueEntries env.typeError

/-- The fields of each selected report have texts, and the first report with the same texts is storable. -/
def StorableTogether (selectedEventMap : List String) (counting : Dict ReportedStatus) : Prop :=
  ∀ entry ∈ (counting.filter (fun id _ => selectedEventMap.contains id)).entries,
    ∃ key, groupKey env entry.2.data = some key ∧
      ∀ first, (counting.filter (fun id _ => selectedEventMap.contains id)).entries.find?
        (fun other => groupKey env other.2.data = some key) = some first → Storable env first.2

/-- The first report on some entry is an error. -/
def FirstError (reports : List (String × ReportedStatus)) : Prop :=
  ∃ report, reports.find? (fun other => other.1 = report.1) = some report ∧
    report.2.status = EventProcessingStatus.Error

/-- A thrown error can be stored. Reported statuses can be stored, and unless a rollback is requested they are all
done or the first report on some entry is an error. If the tuple cannot be logged, all entries are set to error,
which is what has to be reported for each of them. -/
def Decided (selectedEventMap queueEntries : List String) (shouldRollbackTransaction : Bool) (reply : Reply) : Prop :=
  match reply with
  | .thrown error =>
    (∃ id ∈ queueEntries, id ∈ selectedEventMap) → (thrownData error).persistable env = true
  | .returned reports =>
    if Accepted env reports then
      StorableTogether env selectedEventMap (standing reports) ∧
        (shouldRollbackTransaction = true ∨ AllDone (reply.statuses queueEntries) ∨ FirstError reports)
    else
      (∀ report ∈ reports, report.1 ∈ selectedEventMap → report.1 ∈ queueEntries ∧
        ∃ other ∈ reports, other.1 = report.1 ∧ other.2.status = EventProcessingStatus.Error) ∧
        (shouldRollbackTransaction = true ∨ (AllDone (reply.statuses queueEntries) ↔ queueEntries = []))

end

section
variable {env : Environment}

theorem ReportedStatus.normalized (reported : ReportedStatus) :
    normalizeEntry reported.value = some reported.data ∧ normalizeEntry reported.update = some reported.data ∧
      reported.data.status = some (.nat reported.status) := by
  obtain ⟨value,status,allowed,rfl | ⟨fields,rfl,found⟩⟩ := reported
  · exact ⟨rfl,rfl,rfl⟩
  · exact ⟨rfl,rfl,found⟩

theorem ReportedStatus.hasStatus (reported : ReportedStatus) (candidates : List Nat) :
    reported.data.hasStatus candidates = decide (reported.status ∈ candidates) := by
  rw [UpdateData.hasStatus,reported.normalized.2.2]
  exact Js.isOneOf_nat _ _

theorem ReportedStatus.statusNumber (reported : ReportedStatus) :
    reported.data.statusNumber = some reported.status :=
  (statusNumber_iff _ _).mpr ⟨reported.allowed,reported.normalized.2.2⟩

theorem ReportedStatus.update_spec (reported : ReportedStatus) :
    reported.update.truthy = true ∧ reported.update.get "status" = some (.nat reported.status) :=
  reported.toReport.update_spec

theorem determineAndAdd_stand (counting : Dict ReportedStatus) (id : String) (reported : ReportedStatus) :
    determineAndAddEventStatusToMap env (counting.map ReportedStatus.update) id reported.value .undefined =
      some ((stand counting (id,reported)).map ReportedStatus.update) := by
  rw [determineAndAdd_eq,Dict.get?_map,stand]
  cases found : counting.get? id with
  | none =>
    simp only [Option.map_none,replaces,Option.map_some,if_true,Dict.map_set]
    rfl
  | some current =>
    obtain ⟨object,code⟩ := current.update_spec
    have own : (updateDataOf reported.value .undefined).get "status" = some (.nat reported.status) :=
      reported.update_spec.2
    simp only [Option.map_some,replaces,object,if_true,code,Option.bind_eq_bind,Option.bind_some,Js.isOneOf_nat,own,
      ge_nat]
    unfold prefer ReportedStatus.failed failedStatuses
    by_cases failed : current.status ∈ [EventProcessingStatus.Error,EventProcessingStatus.Exceeded]
    · simp only [failed,decide_true,if_true,Option.map_some,Bool.false_eq_true,if_false]
      rw [Dict.set_same found]
    · simp only [failed,decide_false,Bool.false_eq_true,if_false,Option.map_some]
      by_cases lower : reported.status ≤ current.status
      · simp only [lower,decide_true,if_true,Dict.map_set]
        rfl
      · simp only [lower,decide_false,Bool.false_eq_true,if_false]
        rw [Dict.set_same found]

/-- The loop of `setEventStatus` over reported statuses never throws and keeps the reports that count. -/
theorem addReports_standing (reports : List (String × ReportedStatus)) (counting : Dict ReportedStatus) :
    let added := addReports env (counting.map ReportedStatus.update)
      (Chunk.tupleReports (reports.map (fun report => (report.1,report.2.value))))
    added.ok = true ∧ added.statusMap = (reports.foldl stand counting).map ReportedStatus.update := by
  induction reports generalizing counting with
  | nil => exact ⟨rfl,rfl⟩
  | cons report rest ih =>
    obtain ⟨id,reported⟩ := report
    have next := ih (stand counting (id,reported))
    simp only [Chunk.tupleReports,List.map_cons,addReports,determineAndAdd_stand] at next ⊢
    exact next

theorem errorStatusMap_eq (queueEntries : List String) (error : Value) :
    errorStatusMap queueEntries error = (ofErrors queueEntries error).map ReportedStatus.update := by
  have general (counting : Dict ReportedStatus) : queueEntries.foldl (fun statusMap id =>
        statusMap.set id (.obj [("status",.nat EventProcessingStatus.Error),("error",error)]))
        (counting.map ReportedStatus.update) =
      (queueEntries.foldl (fun counting id => counting.set id (.ofError error)) counting).map
        ReportedStatus.update := by
    induction queueEntries generalizing counting with
    | nil => rfl
    | cons id rest ih =>
      rw [List.foldl_cons,List.foldl_cons,← ih,Dict.map_set]
      rfl
  exact general Dict.empty

theorem statusMapContainsError_map (counting : Dict ReportedStatus) :
    statusMapContainsError (counting.map ReportedStatus.update) =
      some (counting.entries.any (fun entry => entry.2.status = EventProcessingStatus.Error)) := by
  rw [statusMapContainsError,StatusGrouping.normalizeStatusMap_map (fun reported => reported.normalized.2.1),
    Option.map_some]
  simp [Dict.map,ReportedStatus.hasStatus,List.any_map,Function.comp_def]

variable {retry : RetryConfig} {now timestamp : Nat} {selectedEventMap : List String} {counting : Dict ReportedStatus}

theorem ReportedStatus.allowed_data (reported : ReportedStatus) : reported.data.hasStatus allowedStatuses = true := by
  rw [reported.hasStatus,decide_eq_true_eq]
  exact reported.allowed

theorem update_isSome_iff (reported : ReportedStatus) (key : String) (ids : List String) :
    ((Group.mk key reported.data ids).update env retry now timestamp reported.status).isSome = true ↔
      Storable env reported := by
  rw [Storable,← startAfterOf_isSome_iff retry now]
  cases text : errorOf env reported.data.error with
  | none => simp [Group.update,text]
  | some error =>
    cases start : startAfterOf env retry now reported.status reported.data.startAfter with
    | none => simp [Group.update,start]
    | some startAfter => simp [Group.update,text,start]

/-- The selected reports as `persistEventStatus` groups them. -/
def selectedData (selectedEventMap : List String) (counting : Dict ReportedStatus) : Dict UpdateData :=
  (counting.filter (fun id _ => selectedEventMap.contains id)).map ReportedStatus.data

theorem updatesOf_map : updatesOf env retry now timestamp selectedEventMap (counting.map ReportedStatus.update) =
    (groupUpdates env (selectedData selectedEventMap counting).entries []).bind
      (writeGroups env retry now timestamp) := by
  rw [updatesOf,StatusGrouping.persistChecked_map (fun reported => reported.normalized.2.1)
    ReportedStatus.allowed_data,Option.bind_some,StatusTx.open,Option.bind_map]
  rfl

theorem selectedData_collected {groups : List Group}
    (grouped : groupUpdates env (selectedData selectedEventMap counting).entries [] = some groups) :
    Collected env (selectedData selectedEventMap counting).entries groups := by
  simpa using groupUpdates_collected env _ [] [] groups ⟨by simp,by simp,by simp⟩ grouped

/-- The group of a selected report. -/
theorem group_of_report {groups : List Group}
    (grouped : groupUpdates env (selectedData selectedEventMap counting).entries [] = some groups)
    {entry : String × ReportedStatus}
    (member : entry ∈ (counting.filter (fun id _ => selectedEventMap.contains id)).entries) :
    ∃ group ∈ groups, entry.1 ∈ group.ids ∧ groupKey env entry.2.data = some group.key := by
  have collected := selectedData_collected grouped
  obtain ⟨group,inside,listed⟩ := collected.covered (entry.1,entry.2.data) (List.mem_map_of_mem member)
  obtain ⟨data,found,keyed⟩ := collected.ids group inside entry.1 listed
  have given := Dict.mem_entries.mp (show (entry.1,entry.2) ∈ _ from member)
  rw [selectedData,Dict.mem_entries,Dict.get?_map,given] at found
  exact ⟨group,inside,listed,Option.some.inj found ▸ keyed⟩

theorem find?_selectedData (key : String) :
    (selectedData selectedEventMap counting).entries.find? (fun entry => groupKey env entry.2 = some key) =
      ((counting.filter (fun id _ => selectedEventMap.contains id)).entries.find?
        (fun entry => groupKey env entry.2.data = some key)).map (fun entry => (entry.1,entry.2.data)) := by
  rw [selectedData,Dict.map,List.find?_map]
  rfl

/-- A group carries the data of the first report with its texts. -/
theorem first_of_group {groups : List Group}
    (grouped : groupUpdates env (selectedData selectedEventMap counting).entries [] = some groups)
    {group : Group} (member : group ∈ groups) :
    ∃ first, (counting.filter (fun id _ => selectedEventMap.contains id)).entries.find?
      (fun entry => groupKey env entry.2.data = some group.key) = some first ∧ group.data = first.2.data := by
  rcases StatusGrouping.groupUpdates_first grouped member with ⟨_,none,_⟩ | ⟨_,id,found⟩
  · cases none
  · rw [find?_selectedData,Option.map_eq_some_iff] at found
    obtain ⟨first,found,same⟩ := found
    exact ⟨first,found,(Prod.mk.inj same).2.symm⟩

/-- The updates can be built iff the selected reports are storable together. -/
theorem updatesOf_isSome_iff :
    (updatesOf env retry now timestamp selectedEventMap (counting.map ReportedStatus.update)).isSome = true ↔
      StorableTogether env selectedEventMap counting := by
  rw [updatesOf_map]
  cases grouped : groupUpdates env (selectedData selectedEventMap counting).entries [] with
  | none =>
    obtain ⟨entry,listed,unkeyed⟩ := StatusGrouping.groupUpdates_eq_none _ _ grouped
    obtain ⟨report,member,rfl⟩ := List.mem_map.mp listed
    refine iff_of_false (by simp) (fun storable => ?_)
    obtain ⟨key,keyed,_⟩ := storable report member
    rw [unkeyed] at keyed
    cases keyed
  | some groups =>
    rw [Option.bind_some,StatusGrouping.writeGroups_isSome_iff]
    constructor
    · intro built entry member
      obtain ⟨group,inside,_,keyed⟩ := group_of_report grouped member
      refine ⟨group.key,keyed,fun first found => ?_⟩
      obtain ⟨own,here,same⟩ := first_of_group grouped inside
      rw [found,Option.some.injEq] at here
      subst here
      obtain ⟨key,data,ids⟩ := group
      subst same
      exact (update_isSome_iff first.2 key ids).mp (built _ inside first.2.status first.2.statusNumber)
    · intro storable group inside status numbered
      obtain ⟨first,found,same⟩ := first_of_group grouped inside
      obtain ⟨key,keyed,each⟩ := storable first (List.mem_of_find?_eq_some found)
      have own : groupKey env first.2.data = some group.key := by simpa using List.find?_some found
      rw [own,Option.some.injEq] at keyed
      subst keyed
      obtain ⟨key,data,ids⟩ := group
      subst same
      rw [first.2.statusNumber,Option.some.injEq] at numbered
      subst numbered
      exact (update_isSome_iff first.2 key ids).mpr (each first found)

theorem writeGroups_updates {groups : List Group} {updates : List Update}
    (numbered : ∀ group ∈ groups, group.data.statusNumber.isSome = true)
    (done : writeGroups env retry now timestamp groups = some updates) :
    written updates = groups.flatMap Group.ids ∧ ∀ group ∈ groups, ∃ update ∈ updates,
      update.ids = group.ids ∧ group.data.statusNumber = some update.status := by
  induction groups generalizing updates with
  | nil =>
    cases done
    simp [written]
  | cons group rest ih =>
    obtain ⟨status,known⟩ := Option.isSome_iff_exists.mp (numbered group (by simp))
    simp only [writeGroups,known] at done
    obtain ⟨update,built,done⟩ := Option.bind_eq_some_iff.mp done
    obtain ⟨later,remaining,rfl⟩ := Option.map_eq_some_iff.mp done
    obtain ⟨names,same⟩ := update_spec env retry now timestamp _ _ update built
    obtain ⟨others,each⟩ := ih (fun other member => numbered other (by simp [member])) remaining
    constructor
    · simp only [written,List.flatMap_cons,names] at others ⊢
      rw [others]
    · intro other member
      rcases List.mem_cons.mp member with rfl | inside
      · exact ⟨update,by simp,names,by rw [known,same]⟩
      · obtain ⟨found,here,rest⟩ := each other inside
        exact ⟨found,by simp [here],rest⟩

/-- Each selected report is written once, by the update of its group. -/
theorem updatesOf_groups {updates : List Update}
    (done : updatesOf env retry now timestamp selectedEventMap (counting.map ReportedStatus.update) = some updates) :
    (written updates).Perm (selectedData selectedEventMap counting).keys ∧
      ∃ groups, groupUpdates env (selectedData selectedEventMap counting).entries [] = some groups ∧
        ∀ group ∈ groups, ∃ update ∈ updates,
          update.ids = group.ids ∧ group.data.statusNumber = some update.status := by
  rw [updatesOf_map] at done
  obtain ⟨groups,grouped,done⟩ := Option.bind_eq_some_iff.mp done
  have numbered : ∀ group ∈ groups, group.data.statusNumber.isSome = true := by
    intro group inside
    obtain ⟨first,_,same⟩ := first_of_group grouped inside
    rw [same,first.2.statusNumber]
    rfl
  obtain ⟨names,each⟩ := writeGroups_updates numbered done
  have ids := groupUpdates_ids env _ [] groups List.nodup_nil grouped
  rw [List.flatMap_nil,List.append_nil,← names] at ids
  exact ⟨ids,groups,grouped,each⟩

/-- A selected row gets the status of the report that counts for it. -/
theorem updates_status {updates : List Update}
    (done : updatesOf env retry now timestamp selectedEventMap (counting.map ReportedStatus.update) = some updates)
    (row : StoredRow) (selected : row.ID ∈ selectedEventMap) {reported : ReportedStatus}
    (counts : counting.get? row.ID = some reported) : (updates.foldl applyUpdate row).status = reported.status := by
  obtain ⟨ids,groups,grouped,each⟩ := updatesOf_groups done
  have once : (written updates).Nodup := ids.nodup_iff.mpr (selectedData selectedEventMap counting).nodup
  have member : (row.ID,reported) ∈ (counting.filter (fun id _ => selectedEventMap.contains id)).entries := by
    rw [Dict.mem_entries,Dict.get?_filter,counts]
    simp [selected]
  obtain ⟨group,inside,listed,keyed⟩ := group_of_report grouped member
  obtain ⟨update,here,same,status⟩ := each group inside
  have own : row.ID ∈ update.ids := same ▸ listed
  obtain ⟨first,found,carried⟩ := first_of_group grouped inside
  have joined : groupKey env group.data = some group.key := by
    rw [carried]
    simpa using List.find?_some found
  have equal := groupKey_determines_status env reported.data group.data group.key keyed joined
    reported.allowed_data (carried ▸ first.2.allowed_data)
  rw [reported.statusNumber,status,Option.some.injEq] at equal
  rw [StatusGrouping.foldl_named StatusGrouping.applyUpdate_ID StatusGrouping.applyUpdate_other updates row once here own]
  simp [applyUpdate,Update.apply,own,equal]

/-- A row without a report that counts keeps its status. -/
theorem updates_unreported {updates : List Update}
    (done : updatesOf env retry now timestamp selectedEventMap (counting.map ReportedStatus.update) = some updates)
    (row : StoredRow) (none : counting.get? row.ID = none) : updates.foldl applyUpdate row = row := by
  refine StatusGrouping.foldl_unnamed StatusGrouping.applyUpdate_other updates row (fun listed => ?_)
  obtain ⟨data,found⟩ := Dict.mem_keys.mp ((updatesOf_groups done).1.mem_iff.mp listed)
  simp [selectedData,Dict.get?_filter,none] at found

/-- The updates persist the statuses iff for each selected entry one of its statuses counts. -/
theorem persisted_iff {updates : List Update}
    (done : updatesOf env retry now timestamp selectedEventMap (counting.map ReportedStatus.update) = some updates)
    {statuses : List (String × Nat)} (allowed : ∀ reported ∈ statuses, reported.2 ∈ allowedStatuses) :
    Persisted selectedEventMap statuses updates ↔
      ∀ id ∈ selectedEventMap, (∃ status, (id,status) ∈ statuses) →
        ∃ reported, counting.get? id = some reported ∧ (id,reported.status) ∈ statuses := by
  constructor
  · intro persisted id selected asked
    -- a row whose status no report can ask for
    let row : StoredRow := ⟨⟨id,5,none,0,none⟩,.null⟩
    have ends := persisted row selected asked
    cases counts : counting.get? id with
    | none =>
      rw [updates_unreported done row counts] at ends
      exact absurd (allowed _ ends) (show 5 ∉ allowedStatuses by decide)
    | some reported =>
      rw [updates_status done row selected counts] at ends
      exact ⟨reported,rfl,ends⟩
  · intro counts row selected asked
    obtain ⟨reported,found,listed⟩ := counts row.ID selected asked
    rw [updates_status done row selected found]
    exact listed

theorem processEvent_counted (standard : Chunk.Standard env) (queueEntries : List String) (reply : Reply) :
    processEvent env queueEntries false reply.reaction =
      (counted env queueEntries reply).map ReportedStatus.update := by
  cases reply with
  | thrown error => exact errorStatusMap_eq queueEntries error
  | returned reports =>
    simp only [processEvent,Reply.reaction,counted,Bool.false_eq_true,if_false]
    by_cases accepted : Accepted env reports
    · obtain ⟨ok,kept⟩ := @addReports_standing env reports Dict.empty
      have set := Chunk.setEventStatus_accepted standard queueEntries accepted ok
      rw [if_pos accepted]
      rw [show Dict.empty.map ReportedStatus.update = Dict.empty from rfl] at set kept ok
      rw [set,if_pos ok,kept]
      rfl
    · rw [if_neg accepted,Chunk.setEventStatus_refused queueEntries (by simpa [Accepted] using accepted)]
      exact errorStatusMap_eq queueEntries env.typeError

theorem statuses_allowed (queueEntries : List String) (reply : Reply) :
    ∀ reported ∈ reply.statuses queueEntries, reported.2 ∈ allowedStatuses := by
  intro reported member
  cases reply with
  | thrown error =>
    obtain ⟨id,_,rfl⟩ := List.mem_map.mp member
    exact error_allowed
  | returned reports =>
    obtain ⟨report,_,rfl⟩ := List.mem_map.mp member
    exact report.2.allowed

/-- What is asked of the counting reports: they can be stored, each of them has been reported, and unless a rollback
is requested an error is among them exactly if not all is done. -/
theorem meets_iff (standard : Chunk.Standard env) (queueEntries : List String) (shouldRollbackTransaction : Bool)
    (reply : Reply) :
    Meets (transactionFate env retry now timestamp selectedEventMap queueEntries false shouldRollbackTransaction
        reply.reaction) selectedEventMap (reply.statuses queueEntries) shouldRollbackTransaction ↔
      StorableTogether env selectedEventMap (counted env queueEntries reply) ∧
        (∀ id ∈ selectedEventMap, (∃ status, (id,status) ∈ reply.statuses queueEntries) →
          ∃ reported, (counted env queueEntries reply).get? id = some reported ∧
            (id,reported.status) ∈ reply.statuses queueEntries) ∧
        (shouldRollbackTransaction = true ∨
          ((∃ entry ∈ (counted env queueEntries reply).entries, entry.2.status = EventProcessingStatus.Error) ↔
            ¬AllDone (reply.statuses queueEntries))) := by
  have allowed := statuses_allowed queueEntries reply
  generalize counts : counted env queueEntries reply = counting
  have fate : transactionFate env retry now timestamp selectedEventMap queueEntries false shouldRollbackTransaction
      reply.reaction =
      if counting.entries.any (fun entry => entry.2.status = EventProcessingStatus.Error) || shouldRollbackTransaction then
        ⟨false,updatesOf env retry now timestamp selectedEventMap (counting.map ReportedStatus.update)⟩
      else ⟨(updatesOf env retry now timestamp selectedEventMap (counting.map ReportedStatus.update)).isSome,
        updatesOf env retry now timestamp selectedEventMap (counting.map ReportedStatus.update)⟩ := by
    simp only [transactionFate,processEvent_counted standard,counts,statusMapContainsError_map]
  have contains : counting.entries.any (fun entry => entry.2.status = EventProcessingStatus.Error) = true ↔
      ∃ entry ∈ counting.entries, entry.2.status = EventProcessingStatus.Error := by
    simp [List.any_eq_true]
  rw [← @updatesOf_isSome_iff env retry now timestamp,← contains,fate]
  cases built : updatesOf env retry now timestamp selectedEventMap (counting.map ReportedStatus.update) with
  | none =>
    refine iff_of_false ?_ (by simp)
    rintro ⟨_,updates,same,_⟩
    split at same <;> cases same
  | some updates =>
    rw [← persisted_iff built allowed]
    cases counting.entries.any (fun entry => entry.2.status = EventProcessingStatus.Error) <;>
      cases shouldRollbackTransaction <;> simp [Meets,and_comm]

theorem ofErrors_get? (queueEntries : List String) (error : Value) (id : String) :
    (ofErrors queueEntries error).get? id = if id ∈ queueEntries then some (.ofError error) else none := by
  rw [ofErrors,Dict.get?_setAll,Dict.get?_empty]

theorem ofErrors_error (queueEntries : List String) (error : Value) :
    (∃ entry ∈ (ofErrors queueEntries error).entries, entry.2.status = EventProcessingStatus.Error) ↔
      queueEntries ≠ [] := by
  constructor
  · rintro ⟨entry,member,_⟩ rfl
    cases member
  · intro given
    obtain ⟨id,listed⟩ := List.exists_mem_of_ne_nil queueEntries given
    have found := ofErrors_get? queueEntries error id
    rw [if_pos listed] at found
    exact ⟨_,Dict.mem_entries.mpr found,rfl⟩

theorem ofErrors_storable (selectedEventMap queueEntries : List String) (error : Value) :
    StorableTogether env selectedEventMap (ofErrors queueEntries error) ↔
      ((∃ id ∈ queueEntries, id ∈ selectedEventMap) → (thrownData error).persistable env = true) := by
  have data : (ReportedStatus.ofError error).data = thrownData error := rfl
  have each : ∀ entry ∈ ((ofErrors queueEntries error).filter (fun id _ => selectedEventMap.contains id)).entries,
      entry.2 = .ofError error := by
    intro entry member
    have found := Dict.mem_entries.mp (show (entry.1,entry.2) ∈ _ from member)
    rw [Dict.get?_filter,ofErrors_get?,Option.filter_eq_some_iff] at found
    have given := found.1
    split at given
    · exact (Option.some.inj given).symm
    · cases given
  constructor
  · rintro storable ⟨id,listed,selected⟩
    have member : (id,ReportedStatus.ofError error) ∈
        ((ofErrors queueEntries error).filter (fun id _ => selectedEventMap.contains id)).entries := by
      rw [Dict.mem_entries,Dict.get?_filter,ofErrors_get?,if_pos listed]
      simp [selected]
    obtain ⟨key,keyed,first⟩ := storable _ member
    have there : (((ofErrors queueEntries error).filter (fun id _ => selectedEventMap.contains id)).entries.find?
        (fun other => groupKey env other.2.data = some key)).isSome :=
      List.find?_isSome.mpr ⟨_,member,by simpa using keyed⟩
    obtain ⟨found,here⟩ := Option.isSome_iff_exists.mp there
    have stored := first found here
    rw [each found (List.mem_of_find?_eq_some here)] at stored
    rw [persistable_iff]
    exact ⟨stored.1,rfl,by rw [← data,keyed]; rfl⟩
  · intro persistable entry member
    have found := Dict.mem_entries.mp (show (entry.1,entry.2) ∈ _ from member)
    rw [Dict.get?_filter,ofErrors_get?,Option.filter_eq_some_iff] at found
    have listed : entry.1 ∈ queueEntries := by
      by_contra absent
      rw [if_neg absent] at found
      cases found.1
    obtain ⟨text,_,keyed⟩ := persistable_iff.mp (persistable ⟨entry.1,listed,by simpa using found.2⟩)
    obtain ⟨key,joined⟩ := Option.isSome_iff_exists.mp keyed
    refine ⟨key,by rw [each entry member,data,joined],fun first here => ?_⟩
    rw [each first (List.mem_of_find?_eq_some here)]
    exact ⟨text,fun _ => rfl⟩

/-- The report that counts among those on one id. -/
theorem standing_get? (reports : List (String × ReportedStatus)) (counting : Dict ReportedStatus) (id : String) :
    (reports.foldl stand counting).get? id =
      ((reports.filter (fun report => report.1 = id)).map Prod.snd).foldl
        (fun current next => some (match current with
          | none => next
          | some current => prefer current next)) (counting.get? id) := by
  induction reports generalizing counting with
  | nil => rfl
  | cons report rest ih =>
    rw [List.foldl_cons,ih]
    have stood : (stand counting report).get? id = if id = report.1 then
        some (match counting.get? id with
          | none => report.2
          | some current => prefer current report.2) else counting.get? id := by
      unfold stand
      by_cases same : id = report.1
      · subst same
        cases counting.get? report.1 with
        | none => simp [Dict.get?_set]
        | some current => simp [Dict.get?_set]
      · cases counting.get? report.1 with
        | none => simp [Dict.get?_set,same]
        | some current => simp [Dict.get?_set,same]
    rw [stood]
    by_cases same : id = report.1
    · subst same
      simp
    · simp [same,Ne.symm same]

theorem foldl_prefer (rest : List ReportedStatus) (first : ReportedStatus) :
    rest.foldl (fun current next => some (match current with
        | none => next
        | some current => prefer current next)) (some first) = some (rest.foldl prefer first) := by
  induction rest generalizing first with
  | nil => rfl
  | cons next rest ih => exact ih (prefer first next)

/-- The first report on an id decides whether an error counts, and what counts has been reported. -/
theorem foldl_prefer_spec (rest : List ReportedStatus) (first : ReportedStatus) :
    rest.foldl prefer first ∈ first::rest ∧
      ((rest.foldl prefer first).status = EventProcessingStatus.Error ↔
        first.status = EventProcessingStatus.Error) := by
  induction rest generalizing first with
  | nil => simp
  | cons next rest ih =>
    obtain ⟨member,error⟩ := ih (prefer first next)
    have one : prefer first next = first ∨ prefer first next = next ∧ first.failed = false ∧
        next.status ≤ first.status := by
      unfold prefer
      split
      · exact Or.inl rfl
      · split
        · rename_i sound lower
          exact Or.inr ⟨rfl,by simpa using sound,lower⟩
        · exact Or.inl rfl
    rw [List.foldl_cons]
    rcases one with same | ⟨same,sound,lower⟩
    · rw [same] at member error ⊢
      refine ⟨?_,error⟩
      rcases List.mem_cons.mp member with own | inside
      · exact List.mem_cons.mpr (Or.inl own)
      · exact List.mem_cons_of_mem _ (List.mem_cons_of_mem _ inside)
    · rw [same] at member error ⊢
      refine ⟨List.mem_cons_of_mem _ member,?_⟩
      have kept : first.status ∉ failedStatuses := of_decide_eq_false sound
      have below := not_failed_cases first.allowed kept
      rw [error]
      simp only [EventProcessingStatus.Done,EventProcessingStatus.Error] at *
      omega

theorem standing_spec (reports : List (String × ReportedStatus)) (id : String) :
    (∀ first, reports.find? (fun other => other.1 = id) = some first →
      ∃ counts, (standing reports).get? id = some counts ∧ (id,counts) ∈ reports ∧
        (counts.status = EventProcessingStatus.Error ↔ first.2.status = EventProcessingStatus.Error)) ∧
    (reports.find? (fun other => other.1 = id) = none → (standing reports).get? id = none) := by
  rw [standing,standing_get?,Dict.get?_empty,← List.head?_filter]
  cases own : reports.filter (fun report => report.1 = id) with
  | nil => simp
  | cons first rest =>
    refine ⟨fun other same => ?_,by simp⟩
    rw [List.head?_cons,Option.some.injEq] at same
    subst same
    obtain ⟨member,error⟩ := foldl_prefer_spec (rest.map Prod.snd) first.2
    refine ⟨_,foldl_prefer (rest.map Prod.snd) first.2,?_,error⟩
    obtain ⟨report,inside,same⟩ := List.mem_map.mp (show _ ∈ (first::rest).map Prod.snd from member)
    rw [← own,List.mem_filter,decide_eq_true_eq] at inside
    rw [← same,← inside.2]
    exact inside.1

/-- An error counts iff the first report on some entry is one. -/
theorem standing_error (reports : List (String × ReportedStatus)) :
    (∃ entry ∈ (standing reports).entries, entry.2.status = EventProcessingStatus.Error) ↔ FirstError reports := by
  constructor
  · rintro ⟨entry,member,error⟩
    have found := Dict.mem_entries.mp (show (entry.1,entry.2) ∈ _ from member)
    obtain ⟨present,absent⟩ := standing_spec reports entry.1
    cases first : reports.find? (fun other => other.1 = entry.1) with
    | none =>
      rw [absent first] at found
      cases found
    | some report =>
      obtain ⟨counts,own,_,same⟩ := present report first
      rw [found,Option.some.injEq] at own
      have named : report.1 = entry.1 := by simpa using List.find?_some first
      exact ⟨report,by rw [named,first],same.mp (own ▸ error)⟩
  · rintro ⟨report,first,error⟩
    obtain ⟨counts,own,_,same⟩ := (standing_spec reports report.1).1 report first
    exact ⟨_,Dict.mem_entries.mpr own,same.mpr error⟩

end

section
variable {env : Environment} {setting : Setting} {chunk : Chunk} {index : Nat} {cluster : Cluster}

/-- A chunk in isolated mode keeps the same map for the cluster. -/
theorem report_processEvent (isolated : setting.transactionMode = .isolated)
    (shared : ∀ error, (addReports env chunk.statusMap (errorReports cluster.queueEntries error)).ok = true)
    (reaction : Reaction) : ∃ next : Chunk, chunk.report env setting index cluster reaction.outcome =
      next.setCluster index cluster (.reported (processEvent env cluster.queueEntries false reaction)) := by
  have failed (error : Value) : ∃ next : Chunk, chunk.handleErrorDuringProcessing env setting index cluster error =
      next.setCluster index cluster (.reported (errorStatusMap cluster.queueEntries error)) :=
    ⟨_,by simp only [Chunk.handleErrorDuringProcessing,shared error,isolated,if_true]; rfl⟩
  cases reaction with
  | thrown error => exact failed error
  | returned reports =>
    simp only [Chunk.report,Reaction.outcome,isolated,if_true,processEvent,Bool.false_eq_true,if_false]
    by_cases ok : (setEventStatus env Dict.empty cluster.queueEntries (statusTuple reports)).ok = true
    · rw [if_pos ok,if_pos ok]
      exact ⟨chunk,rfl⟩
    · rw [if_neg ok,if_neg ok]
      exact failed env.typeError

/-- The status transaction that a chunk opens for the cluster writes these updates. -/
theorem settle_updates {now timestamp : Nat} {eventOutdated shouldRollbackTransaction : Bool} {reaction : Reaction}
    {updates : List Update}
    (fate : (transactionFate env setting.retry now timestamp chunk.selectedEventMap cluster.queueEntries eventOutdated
      shouldRollbackTransaction reaction).updates = some updates) :
    ∃ tx : StatusTx, chunk.settle env timestamp index cluster
        (processEvent env cluster.queueEntries eventOutdated reaction) shouldRollbackTransaction true =
        chunk.setCluster index cluster (.writing tx) ∧
      writeGroups env setting.retry now timestamp tx.groups = some updates := by
  unfold transactionFate at fate
  unfold Chunk.settle
  cases contained : statusMapContainsError (processEvent env cluster.queueEntries eventOutdated reaction) with
  | none => simp [contained] at fate
  | some containsError =>
    have built : updatesOf env setting.retry now timestamp chunk.selectedEventMap
        (processEvent env cluster.queueEntries eventOutdated reaction) = some updates := by
      simp only [contained] at fate
      split at fate <;> exact fate
    obtain ⟨tx,opened,written⟩ := Option.bind_eq_some_iff.mp built
    refine ⟨tx,?_,written⟩
    simp [opened]

end

/-- A cluster in isolated mode commits exactly if all is done and no rollback requested, with its statuses persisted
either way, iff its reply is decided on: `statusMapContainsError` looks for errors only, and in the report that counts
for an entry. -/
theorem isolated_transaction_iff {env : Environment} (standard : Chunk.Standard env) (retry : RetryConfig)
    (now timestamp : Nat) (selectedEventMap queueEntries : List String) (shouldRollbackTransaction : Bool)
    (reply : Reply) :
    Meets (transactionFate env retry now timestamp selectedEventMap queueEntries false shouldRollbackTransaction
        reply.reaction) selectedEventMap (reply.statuses queueEntries) shouldRollbackTransaction ↔
      Decided env selectedEventMap queueEntries shouldRollbackTransaction reply := by
  rw [meets_iff standard]
  cases reply with
  | thrown error =>
    have done : AllDone ((Reply.thrown error).statuses queueEntries) ↔ queueEntries = [] := by
      simp [AllDone,Reply.statuses,EventProcessingStatus.Done,EventProcessingStatus.Error,List.eq_nil_iff_forall_not_mem]
    simp only [counted,Decided,ofErrors_storable,ofErrors_error,done,ne_eq,iff_self,or_true,and_true]
    refine and_iff_left (fun id _ asked => ?_)
    obtain ⟨status,listed⟩ := asked
    obtain ⟨other,member,same⟩ := List.mem_map.mp listed
    obtain ⟨rfl,rfl⟩ := Prod.mk.inj same
    exact ⟨_,by rw [ofErrors_get?,if_pos member],listed⟩
  | returned reports =>
    by_cases accepted : Accepted env reports
    · have reported : ∀ id ∈ selectedEventMap, (∃ status, (id,status) ∈ (Reply.returned reports).statuses queueEntries) →
          ∃ counts, (standing reports).get? id = some counts ∧
            (id,counts.status) ∈ (Reply.returned reports).statuses queueEntries := by
        rintro id _ ⟨status,listed⟩
        obtain ⟨report,member,same⟩ := List.mem_map.mp listed
        have named : report.1 = id := (Prod.mk.inj same).1
        obtain ⟨first,found⟩ := Option.isSome_iff_exists.mp (List.find?_isSome.mpr
          (show ∃ other ∈ reports, decide (other.1 = id) = true from ⟨report,member,by simpa using named⟩))
        obtain ⟨counts,own,inside,_⟩ := (standing_spec reports id).1 first found
        exact ⟨counts,own,List.mem_map.mpr ⟨_,inside,rfl⟩⟩
      have errorNotDone : FirstError reports → ¬AllDone ((Reply.returned reports).statuses queueEntries) := by
        rintro ⟨report,first,error⟩ done
        have same := done _ (List.mem_map_of_mem (List.mem_of_find?_eq_some first))
        rw [error] at same
        cases same
      simp only [counted,Decided,if_pos accepted,standing_error]
      constructor
      · rintro ⟨storable,_,decision⟩
        refine ⟨storable,decision.imp_right (fun exact => ?_)⟩
        by_cases done : AllDone ((Reply.returned reports).statuses queueEntries)
        · exact Or.inl done
        · exact Or.inr (exact.mpr done)
      · rintro ⟨storable,decision⟩
        refine ⟨storable,reported,decision.imp_right (fun either => ⟨errorNotDone,fun unfinished => ?_⟩)⟩
        exact either.resolve_left unfinished
    · have typeError : StorableTogether env selectedEventMap (ofErrors queueEntries env.typeError) :=
        (ofErrors_storable selectedEventMap queueEntries env.typeError).mpr (fun _ => standard.typeError)
      simp only [counted,Decided,if_neg accepted,ofErrors_error,typeError,true_and]
      refine and_congr ?_ (or_congr_right ?_)
      · constructor
        · intro counts report member selected
          obtain ⟨own,found,listed⟩ := counts report.1 selected ⟨_,List.mem_map_of_mem member⟩
          rw [ofErrors_get?] at found
          split at found
          · rename_i inside
            cases found
            obtain ⟨other,here,same⟩ := List.mem_map.mp listed
            exact ⟨inside,other,here,(Prod.mk.inj same).1,(Prod.mk.inj same).2⟩
          · cases found
        · rintro errors id selected ⟨status,listed⟩
          obtain ⟨report,member,same⟩ := List.mem_map.mp listed
          obtain ⟨rfl,_⟩ := Prod.mk.inj same
          obtain ⟨inside,other,here,named,error⟩ := errors report member selected
          refine ⟨_,by rw [ofErrors_get?,if_pos inside],List.mem_map.mpr ⟨other,here,?_⟩⟩
          exact Prod.ext named error
      · exact not_iff_not.trans Iff.comm

theorem isolated_transaction_iff_thrown :
    Meets (transactionFate Chunk.json ⟨0,0⟩ 0 0 ["e1"] ["e1"] false false (Reply.thrown (.str "no recipient")).reaction)
      ["e1"] ((Reply.thrown (.str "no recipient")).statuses ["e1"]) false :=
  (isolated_transaction_iff Chunk.standard_json ⟨0,0⟩ 0 0 ["e1"] ["e1"] false (.thrown (.str "no recipient"))).mpr
    (fun _ => by decide)

def reportedOpen : ReportedStatus := ⟨.nat EventProcessingStatus.Open,EventProcessingStatus.Open,open_allowed,Or.inl rfl⟩

/-- An entry that is to be processed again commits what has been done so far. -/
theorem open_committed :
    (transactionFate Chunk.json ⟨0,0⟩ 0 0 ["e1"] ["e1"] false false
      (Reply.returned [("e1",reportedOpen)]).reaction).committed = true ∧
    ¬Meets (transactionFate Chunk.json ⟨0,0⟩ 0 0 ["e1"] ["e1"] false false
        (Reply.returned [("e1",reportedOpen)]).reaction)
      ["e1"] ((Reply.returned [("e1",reportedOpen)]).statuses ["e1"]) false := by
  have committed : (transactionFate Chunk.json ⟨0,0⟩ 0 0 ["e1"] ["e1"] false false
      (Reply.returned [("e1",reportedOpen)]).reaction).committed = true := by decide +kernel
  refine ⟨committed,fun meets => ?_⟩
  have done := (meets.1.mp committed).1 ("e1",EventProcessingStatus.Open) (List.mem_singleton_self _)
  cases done

end EventQueue.ClusterTransaction

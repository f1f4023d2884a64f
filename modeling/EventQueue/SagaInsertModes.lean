import EventQueue.SagaChain
import EventQueue.PersistEventStatus

/-! The successors of one cluster under both values of `insertEventsBeforeCommit`. With `true` they wait in
`nextSagaEvents` for the status write; with `false` they are inserted in the transaction of the cluster at once,
and only some of them are kept for the status write, as that transaction may be rolled back. -/
namespace EventQueue.SagaModes
open Js (Value)
open Saga

inductive Outcome
  | Open
  | Done
  | Error
  deriving DecidableEq

def Outcome.status : Outcome → Nat
  | .Open => EventProcessingStatus.Open
  | .Done => EventProcessingStatus.Done
  | .Error => EventProcessingStatus.Error

structure Reported where
  id : String
  outcome : Outcome
  error : Option Value
  nextData : Option (Dict Value)

def Reported.report (reported : Reported) : Report :=
  ⟨reported.id,.obj (("status",.nat reported.outcome.status)::reported.error.toList.map (fun error => ("error",error))),
    .undefined⟩

/-- A cluster whose service handler has ended. -/
structure Cluster where
  event : String
  data : Dict Value
  queueEntries : List String
  /-- The JSON text of the handler's result and of the first entry. -/
  triggerEvent : String
  reports : List Reported
  /-- `setShouldRollbackTransaction` was called for its key. -/
  shouldRollback : Bool

structure Successor where
  event : String
  data : Dict Value

/-- The services around a cluster: registered handlers and the serialisation of errors. -/
structure Service where
  onHandlers : List String
  error2String : Value → String
  selectedEventMap : List String

variable (env : Environment) (service : Service) (cluster : Cluster)

def Cluster.statuses : List Value := cluster.reports.map (fun reported => .nat reported.outcome.status)

def propagate (data : Dict Value) : Dict Value :=
  if cluster.reports.length = 1 ∧ cluster.queueEntries.length = 1 then
    data.set "triggerEvent" (.str cluster.triggerEvent)
  else data

def withError (reported : Reported) (data : Dict Value) : Dict Value :=
  match reported.error.filter Value.truthy with
  | some error => data.set "error" (.str (service.error2String error))
  | none => data

/-- One `send`: the successor and the data object as it is left. -/
def send (handler : Option String) (applies : Bool) (prepared data : Dict Value) : List Successor × Dict Value :=
  match handler with
  | none => ([],data)
  | some event => if applies then ([⟨event,prepared⟩],prepared) else ([],data)

/-- The loop over the status tuple. Results without `nextData` share the data of the request. -/
def sends (succeeded failed done : Option String) : List Reported → Dict Value → List Successor
  | [],_ => []
  | reported::rest,data =>
    let own := reported.nextData.getD data
    let first := !endsWith cluster.event SAGA_SUCCESS
    let afterSucceeded := send succeeded (decide (reported.outcome = .Done) && first) (propagate cluster own) own
    let afterFailed := send failed (decide (reported.outcome = .Error))
      (propagate cluster (withError service reported afterSucceeded.2)) afterSucceeded.2
    let afterDone := send done first (propagate cluster afterFailed.2) afterFailed.2
    afterSucceeded.1 ++ afterFailed.1 ++ afterDone.1 ++
      sends succeeded failed done rest (if reported.nextData.isSome then data else afterDone.2)

/-- None if `#publishFollowupEvents` returns at once and leaves `nextSagaEvents` alone. -/
def publishFollowupEvents : Option (List Successor) :=
  let succeeded := checkHandlerExists service.onHandlers cluster.event SAGA_SUCCESS
  let failed := checkHandlerExists service.onHandlers cluster.event SAGA_FAILED
  let done := checkHandlerExists service.onHandlers cluster.event SAGA_DONE
  if succeeded.isNone && failed.isNone && done.isNone then none
  else if endsWith cluster.event SAGA_FAILED || endsWith cluster.event SAGA_DONE then none
  else some (sends service cluster succeeded failed done cluster.reports cluster.data)

/-- `hasError`, over the tuple and not over the status map. -/
def hasError : Bool := cluster.reports.any (fun reported => decide (reported.outcome = .Error))

/-- The successors that `insertEventsBeforeCommit: false` inserts once more with the statuses. -/
def kept (successor : Successor) : Bool :=
  decide (some successor.event = checkHandlerExists service.onHandlers cluster.event SAGA_FAILED) ||
    hasError cluster &&
      decide (some successor.event = checkHandlerExists service.onHandlers cluster.event SAGA_DONE)

def nextSagaEvents (insertEventsBeforeCommit : Bool) (sent : List Successor) : List Successor :=
  if insertEventsBeforeCommit then sent else sent.filter (kept service cluster)

/-- `setEventStatus` of the cluster, with a map of its own. -/
def statusMap : Dict Value := (addReports env Dict.empty (cluster.reports.map Reported.report)).statusMap

def rolledBack : Bool := ((statusMapContainsError (statusMap env cluster)).getD true) || cluster.shouldRollback

/-- `persistEventStatus` has something to write; otherwise it returns before the successors are inserted. -/
def statusWritten : Bool :=
  (persistChecked service.selectedEventMap (statusMap env cluster)).any (fun checked => !checked.entries.isEmpty)

/-- The successors in the table once the transactions of the cluster are finished. -/
def inserted (insertEventsBeforeCommit : Bool) : List Successor :=
  match publishFollowupEvents service cluster with
  | none => []
  | some sent =>
    (if insertEventsBeforeCommit || rolledBack env cluster then [] else sent) ++
      (if statusWritten env service cluster then nextSagaEvents service cluster insertEventsBeforeCommit sent else [])

def Sends (saga : String) : Prop :=
  (endsWith cluster.event SAGA_FAILED = false ∧ endsWith cluster.event SAGA_DONE = false) ∧
    ∃ next, Sent service.onHandlers cluster.event cluster.statuses saga next

/-- Some entry is in error: the first report on it says so. -/
def FirstError : Prop :=
  ∃ id, (cluster.reports.find? (fun reported => reported.id = id)).map Reported.outcome = some .Error

def SelectedReport : Prop := ∃ reported ∈ cluster.reports, reported.id ∈ service.selectedEventMap

theorem send_events (handler : Option String) (applies : Bool) (prepared data : Dict Value) :
    (send handler applies prepared data).1.map Successor.event = if applies then handler.toList else [] := by
  cases handler with
  | none => simp [send]
  | some event => cases applies <;> simp [send]

theorem sends_events (succeeded failed done : Option String) (reports : List Reported) (data : Dict Value) :
    (sends service cluster succeeded failed done reports data).map Successor.event =
      (reports.map (fun reported => Value.nat reported.outcome.status)).flatMap
        (followupsOf succeeded failed done cluster.event) := by
  induction reports generalizing data with
  | nil => rfl
  | cons reported rest ih =>
    have isDone : (Value.nat reported.outcome.status).isOneOf [EventProcessingStatus.Done] =
        decide (reported.outcome = .Done) := by cases reported.outcome <;> decide
    have isError : (Value.nat reported.outcome.status).isOneOf [EventProcessingStatus.Error] =
        decide (reported.outcome = .Error) := by cases reported.outcome <;> decide
    simp only [sends,List.map_append,send_events,ih,List.map_cons,List.flatMap_cons,followupsOf,isDone,isError]

theorem publishFollowupEvents_events :
    (publishFollowupEvents service cluster).map (List.map Successor.event) =
      followupEvents service.onHandlers cluster.event cluster.statuses := by
  unfold publishFollowupEvents followupEvents
  simp only
  split
  · rfl
  · split
    · rfl
    · rw [Option.map_some,sends_events]
      rfl

section
variable {service cluster}

theorem sends_of_sent {sent : List Successor} (published : publishFollowupEvents service cluster = some sent)
    (successor : Successor) (member : successor ∈ sent) :
    ∃ saga, Sends service cluster saga ∧ Sent service.onHandlers cluster.event cluster.statuses saga successor.event := by
  have events := publishFollowupEvents_events service cluster
  rw [published,Option.map_some] at events
  have produced : Produces service.onHandlers cluster.event cluster.statuses successor.event :=
    ⟨_,events.symm,List.mem_map.mpr ⟨successor,member,rfl⟩⟩
  obtain ⟨continues,saga,own⟩ := (produces_iff _ _ _ _).mp produced
  exact ⟨saga,⟨continues,_,own⟩,own⟩

theorem sent_of_sends {saga : String} (sends : Sends service cluster saga) :
    ∃ sent, publishFollowupEvents service cluster = some sent ∧
      ∃ successor ∈ sent, Sent service.onHandlers cluster.event cluster.statuses saga successor.event := by
  obtain ⟨continues,next,own⟩ := sends
  obtain ⟨followups,known,listed⟩ := (produces_iff _ _ _ _).mpr ⟨continues,saga,own⟩
  rw [← publishFollowupEvents_events] at known
  obtain ⟨sent,published,rfl⟩ := Option.map_eq_some_iff.mp known
  obtain ⟨successor,member,rfl⟩ := List.mem_map.mp listed
  exact ⟨sent,published,successor,member,own⟩

theorem endsWith_unique {text first second : String} (one : endsWith text first = true)
    (other : endsWith text second = true) : endsWith first second = true ∨ endsWith second first = true := by
  simp only [endsWith,List.isSuffixOf_iff_suffix] at one other ⊢
  exact (List.suffix_or_suffix_of_suffix one other).symm

theorem kept_iff {saga : String} {successor : Successor}
    (sent : Sent service.onHandlers cluster.event cluster.statuses saga successor.event) :
    kept service cluster successor = true ↔ saga = SAGA_FAILED ∨ hasError cluster = true ∧ saga = SAGA_DONE := by
  have suffix := sent.endsWith
  have apart : ∀ kind, endsWith saga kind = false → endsWith kind saga = false →
      some successor.event ≠ checkHandlerExists service.onHandlers cluster.event kind := by
    intro kind notLeft notRight handler
    have both := endsWith_unique suffix (checkHandlerExists_endsWith handler.symm)
    simp [notLeft,notRight] at both
  simp only [kept,Bool.or_eq_true,Bool.and_eq_true,decide_eq_true_eq]
  cases sent with
  | succeeded handler done first =>
    have notFailed := apart SAGA_FAILED (by decide) (by decide)
    have notDone := apart SAGA_DONE (by decide) (by decide)
    have others : SAGA_SUCCESS ≠ SAGA_FAILED ∧ SAGA_SUCCESS ≠ SAGA_DONE := by decide
    simp [notFailed,notDone,others]
  | failed handler error => simp [handler]
  | done handler some first =>
    have notFailed := apart SAGA_FAILED (by decide) (by decide)
    have others : SAGA_DONE ≠ SAGA_FAILED := by decide
    simp [notFailed,handler,others]

theorem all_kept_iff {sent : List Successor} (published : publishFollowupEvents service cluster = some sent) :
    (∀ successor ∈ sent, kept service cluster successor = true) ↔
      ¬ Sends service cluster SAGA_SUCCESS ∧ (hasError cluster = true ∨ ¬ Sends service cluster SAGA_DONE) := by
  constructor
  · intro all
    constructor
    · intro sends
      obtain ⟨_,again,successor,member,own⟩ := sent_of_sends sends
      cases published.symm.trans again
      have named := (kept_iff own).mp (all successor member)
      revert named
      simp [SAGA_SUCCESS,SAGA_FAILED,SAGA_DONE]
    · by_contra neither
      rw [not_or,not_not] at neither
      obtain ⟨_,again,successor,member,own⟩ := sent_of_sends neither.2
      cases published.symm.trans again
      have named := (kept_iff own).mp (all successor member)
      obtain same | ⟨error,_⟩ := named
      · exact absurd same (by decide)
      · exact neither.1 error
  · intro condition successor member
    obtain ⟨saga,sends,own⟩ := sends_of_sent published successor member
    rw [kept_iff own]
    cases own with
    | succeeded handler done first => exact absurd sends condition.1
    | failed handler error => exact Or.inl rfl
    | done handler some first => exact Or.inr ⟨condition.2.resolve_right (not_not_intro sends),rfl⟩

theorem none_kept_iff {sent : List Successor} (published : publishFollowupEvents service cluster = some sent) :
    sent.filter (kept service cluster) = [] ↔ ¬ Sends service cluster SAGA_FAILED ∧
      (hasError cluster = true → ¬ Sends service cluster SAGA_DONE) := by
  simp only [List.filter_eq_nil_iff]
  constructor
  · intro nothing
    constructor
    · intro sends
      obtain ⟨_,again,successor,member,own⟩ := sent_of_sends sends
      cases published.symm.trans again
      exact nothing successor member ((kept_iff own).mpr (Or.inl rfl))
    · intro error sends
      obtain ⟨_,again,successor,member,own⟩ := sent_of_sends sends
      cases published.symm.trans again
      exact nothing successor member ((kept_iff own).mpr (Or.inr ⟨error,rfl⟩))
  · intro condition successor member isKept
    obtain ⟨saga,sends,own⟩ := sends_of_sent published successor member
    obtain rfl | ⟨error,rfl⟩ := (kept_iff own).mp isKept
    · exact condition.1 sends
    · exact condition.2 error sends

theorem nothing_sent_iff {sent : List Successor} (published : publishFollowupEvents service cluster = some sent) :
    sent = [] ↔ ∀ saga, ¬ Sends service cluster saga := by
  constructor
  · intro empty saga sends
    obtain ⟨_,again,successor,member,_⟩ := sent_of_sends sends
    cases published.symm.trans again
    rw [empty] at member
    cases member
  · intro quiet
    rw [List.eq_nil_iff_forall_not_mem]
    intro successor member
    obtain ⟨saga,sends,_⟩ := sends_of_sent published successor member
    exact quiet saga sends

end

def Holds (outcome : Outcome) (value : Value) : Prop :=
  ∃ fields, value = .obj (("status",.nat outcome.status)::fields)

theorem replaces_holds (current : Value) (outcome : Outcome) (holds : Holds outcome current) (reported : Reported) :
    replaces env (some current) reported.report.statusOrUpdateData =
      some (decide (outcome ≠ .Error ∧ reported.outcome.status ≤ outcome.status)) := by
  obtain ⟨fields,rfl⟩ := holds
  simp only [replaces,Reported.report,Value.truthy,if_true,Value.get,Js.field,List.find?_cons]
  cases outcome <;> cases reported.outcome <;> rfl

def Outcomes (map : Dict Value) : Prop := ∀ id value, map.get? id = some value → ∃ outcome, Holds outcome value

def ErrorAt (map : Dict Value) (id : String) : Prop := ∃ value, map.get? id = some value ∧ Holds .Error value

theorem Reported.holds (reported : Reported) : Holds reported.outcome reported.report.statusOrUpdateData := ⟨_,rfl⟩

theorem Holds.unique {first second : Outcome} {value : Value} (one : Holds first value) (other : Holds second value) :
    first = second := by
  obtain ⟨fields,rfl⟩ := one
  obtain ⟨more,same⟩ := other
  simp only [Value.obj.injEq,List.cons.injEq,Prod.mk.injEq,true_and] at same
  have status := nat_injective same.1
  cases first <;> cases second <;> first | rfl | exact absurd status (by decide)

theorem determineAndAdd_reported (map : Dict Value) (outcomes : Outcomes map) (reported : Reported) :
    ∃ next, determineAndAddEventStatusToMap env map reported.id reported.report.statusOrUpdateData .undefined = some next ∧
      Outcomes next ∧ (∀ id, id ≠ reported.id → next.get? id = map.get? id) ∧ (next.get? reported.id).isSome ∧
      (ErrorAt next reported.id ↔ ErrorAt map reported.id ∨ map.get? reported.id = none ∧ reported.outcome = .Error) := by
  rw [determineAndAdd_eq]
  have same : updateDataOf reported.report.statusOrUpdateData .undefined = reported.report.statusOrUpdateData := rfl
  rw [same]
  have placed : Outcomes (map.set reported.id reported.report.statusOrUpdateData) := by
    intro id value found
    rw [Dict.get?_set] at found
    split at found
    · cases found
      exact ⟨_,reported.holds⟩
    · exact outcomes id value found
  have apart : ∀ id, id ≠ reported.id →
      (map.set reported.id reported.report.statusOrUpdateData).get? id = map.get? id := by
    intro id other
    rw [Dict.get?_set,if_neg other]
  have errorPlaced : ErrorAt (map.set reported.id reported.report.statusOrUpdateData) reported.id ↔
      reported.outcome = .Error := by
    simp only [ErrorAt,Dict.get?_set,if_true,Option.some.injEq,exists_eq_left']
    exact ⟨fun holds => reported.holds.unique holds,fun error => error ▸ reported.holds⟩
  cases found : map.get? reported.id with
  | none =>
    refine ⟨map.set reported.id reported.report.statusOrUpdateData,rfl,placed,apart,by simp [Dict.get?_set],?_⟩
    rw [errorPlaced]
    simp [ErrorAt,found]
  | some current =>
    obtain ⟨outcome,holds⟩ := outcomes _ _ found
    have errorBefore : ErrorAt map reported.id ↔ outcome = .Error := by
      simp only [ErrorAt,found,Option.some.injEq,exists_eq_left']
      exact ⟨fun error => holds.unique error,fun error => error ▸ holds⟩
    rw [replaces_holds env current outcome holds reported]
    by_cases replaced : outcome ≠ .Error ∧ reported.outcome.status ≤ outcome.status
    · refine ⟨map.set reported.id reported.report.statusOrUpdateData,by rw [decide_eq_true replaced]; rfl,placed,apart,
        by simp [Dict.get?_set],?_⟩
      rw [errorPlaced,errorBefore]
      have lower : reported.outcome ≠ .Error := by
        intro error
        rw [error] at replaced
        revert replaced
        cases outcome <;> decide
      simp [lower,replaced.1]
    · refine ⟨map,by rw [decide_eq_false replaced]; rfl,outcomes,fun _ _ => rfl,by simp [found],?_⟩
      simp

theorem addReports_reported (reports : List Reported) (map : Dict Value) (outcomes : Outcomes map) :
    let final := (addReports env map (reports.map Reported.report)).statusMap
    Outcomes final ∧
      (∀ id, (final.get? id).isSome ↔ (map.get? id).isSome ∨ ∃ reported ∈ reports, reported.id = id) ∧
      ∀ id, ErrorAt final id ↔ ErrorAt map id ∨ map.get? id = none ∧
        (reports.find? (fun reported => reported.id = id)).map Reported.outcome = some .Error := by
  induction reports generalizing map with
  | nil => simpa [addReports] using outcomes
  | cons reported rest ih =>
    obtain ⟨next,added,kept,others,present,own⟩ := determineAndAdd_reported env map outcomes reported
    have moved : (addReports env map ((reported::rest).map Reported.report)).statusMap =
        (addReports env next (rest.map Reported.report)).statusMap := by
      simp only [List.map_cons,addReports]
      rw [show reported.report.id = reported.id from rfl,show reported.report.error = .undefined from rfl,added]
    obtain ⟨final,listed,errors⟩ := ih next kept
    simp only [moved]
    refine ⟨final,?_,?_⟩
    · intro id
      rw [listed id]
      by_cases same : id = reported.id
      · subst same
        simp [present]
      · simp [others id same,Ne.symm same]
    · intro id
      rw [errors id]
      by_cases same : reported.id = id
      · subst same
        have known : next.get? reported.id ≠ none := Option.isSome_iff_ne_none.mp present
        rw [own]
        simp [known]
      · have away := others id (Ne.symm same)
        simp only [ErrorAt,away,List.find?_cons,same,decide_false]

theorem statusMap_spec : Outcomes (statusMap env cluster) ∧
    (∀ id, ((statusMap env cluster).get? id).isSome ↔ ∃ reported ∈ cluster.reports, reported.id = id) ∧
    ∀ id, ErrorAt (statusMap env cluster) id ↔
      (cluster.reports.find? (fun reported => reported.id = id)).map Reported.outcome = some .Error := by
  have empty : Outcomes Dict.empty := fun _ _ found => by cases found
  obtain ⟨outcomes,listed,errors⟩ := addReports_reported env cluster.reports Dict.empty empty
  refine ⟨outcomes,fun id => ?_,fun id => ?_⟩
  · rw [statusMap,listed id]
    simp
  · rw [statusMap,errors id]
    simp [ErrorAt]

theorem Holds.normalized {outcome : Outcome} {value : Value} (holds : Holds outcome value) :
    ∃ data, normalizeEntry value = some data ∧ data.hasStatus allowedStatuses = true ∧
      (data.hasStatus [EventProcessingStatus.Error] = true ↔ outcome = .Error) := by
  obtain ⟨fields,rfl⟩ := holds
  refine ⟨_,rfl,?_,?_⟩
  · simp only [UpdateData.hasStatus,Js.field,List.find?_cons,beq_self_eq_true,Option.map_some,Js.isOneOf_nat]
    cases outcome <;> decide
  · simp only [UpdateData.hasStatus,Js.field,List.find?_cons,beq_self_eq_true,Option.map_some,Js.isOneOf_nat]
    cases outcome <;> decide

theorem outcomes_normalized {map : Dict Value} (outcomes : Outcomes map) :
    ∃ normalized, normalizeStatusMap map = some normalized := by
  unfold normalizeStatusMap
  refine ⟨_,if_pos (List.all_eq_true.mpr ?_)⟩
  intro entry member
  obtain ⟨outcome,holds⟩ := outcomes entry.1 entry.2 (Dict.mem_entries.mp member)
  obtain ⟨data,known,_⟩ := holds.normalized
  simp [known]

theorem rolledBack_iff : rolledBack env cluster = true ↔ cluster.shouldRollback = true ∨ FirstError cluster := by
  obtain ⟨outcomes,_,errors⟩ := statusMap_spec env cluster
  obtain ⟨normalized,known⟩ := outcomes_normalized outcomes
  have error : (normalized.entries.any (fun entry => entry.2.hasStatus [EventProcessingStatus.Error])) = true ↔
      FirstError cluster := by
    rw [List.any_eq_true]
    constructor
    · intro found
      obtain ⟨⟨id,data⟩,member,isError⟩ := found
      have entry := Dict.mem_entries.mp member
      rw [normalizeStatusMap_get _ _ known] at entry
      obtain ⟨value,present,same⟩ := Option.bind_eq_some_iff.mp entry
      obtain ⟨outcome,holds⟩ := outcomes id value present
      obtain ⟨other,again,_,error⟩ := holds.normalized
      cases same.symm.trans again
      rw [error.mp isError] at holds
      exact ⟨id,(errors id).mp ⟨value,present,holds⟩⟩
    · intro found
      obtain ⟨id,first⟩ := found
      obtain ⟨value,present,holds⟩ := (errors id).mpr first
      obtain ⟨data,same,_,error⟩ := holds.normalized
      refine ⟨(id,data),Dict.mem_entries.mpr ?_,error.mpr rfl⟩
      rw [normalizeStatusMap_get _ _ known,present]
      exact same
  rw [rolledBack,statusMapContainsError,known,Bool.or_eq_true,Option.map_some,Option.getD_some,error,or_comm]

theorem statusWritten_iff : statusWritten env service cluster = true ↔ SelectedReport service cluster := by
  obtain ⟨outcomes,listed,_⟩ := statusMap_spec env cluster
  obtain ⟨normalized,known⟩ := outcomes_normalized outcomes
  have done : persistChecked service.selectedEventMap (statusMap env cluster) = some (ensureEveryStatusIsAllowed
      (ensureOnlySelectedQueueEntries service.selectedEventMap normalized)) := by rw [persistChecked,known]; rfl
  have entry := persistChecked_get _ _ _ done
  rw [statusWritten,done,Option.any_some,Bool.not_eq_true',List.isEmpty_eq_false_iff_exists_mem]
  constructor
  · intro written
    obtain ⟨⟨id,data⟩,member⟩ := written
    obtain ⟨selected,_,found⟩ := (entry id data).mp (Dict.mem_entries.mp member)
    obtain ⟨value,present,_⟩ := Option.bind_eq_some_iff.mp found
    obtain ⟨reported,inside,rfl⟩ := (listed id).mp (by simp [present])
    exact ⟨reported,inside,selected⟩
  · intro selected
    obtain ⟨reported,inside,own⟩ := selected
    obtain ⟨value,present⟩ := Option.isSome_iff_exists.mp ((listed reported.id).mpr ⟨reported,inside,rfl⟩)
    obtain ⟨outcome,holds⟩ := outcomes _ _ present
    obtain ⟨data,same,allowed,_⟩ := holds.normalized
    exact ⟨(reported.id,data),Dict.mem_entries.mpr ((entry _ _).mpr ⟨own,allowed,by rw [present]; exact same⟩)⟩

/-- Both settings leave the same successors in the table iff: a cluster that is rolled back sends no succeeded
event, and done events only with an error; one that is not sends no failed and no done event with an error; and
a cluster without a report on a selected entry is rolled back or sends nothing. -/
theorem insert_modes_agree_iff :
    (inserted env service cluster true).Perm (inserted env service cluster false) ↔
      (cluster.shouldRollback = true ∨ FirstError cluster → SelectedReport service cluster →
        ¬ Sends service cluster SAGA_SUCCESS ∧ (hasError cluster = true ∨ ¬ Sends service cluster SAGA_DONE)) ∧
      (¬ (cluster.shouldRollback = true ∨ FirstError cluster) → SelectedReport service cluster →
        ¬ Sends service cluster SAGA_FAILED ∧ (hasError cluster = true → ¬ Sends service cluster SAGA_DONE)) ∧
      (¬ (cluster.shouldRollback = true ∨ FirstError cluster) → ¬ SelectedReport service cluster →
        ∀ saga, ¬ Sends service cluster saga) := by
  rw [← rolledBack_iff env,← statusWritten_iff env]
  cases published : publishFollowupEvents service cluster with
  | none =>
    have quiet : ∀ saga, ¬ Sends service cluster saga := by
      intro saga sends
      obtain ⟨sent,again,_⟩ := sent_of_sends sends
      rw [published] at again
      cases again
    simp [inserted,published,quiet]
  | some sent =>
    simp only [inserted,published,nextSagaEvents,Bool.true_or,Bool.false_or,if_true,List.nil_append]
    cases rolled : rolledBack env cluster <;> cases written : statusWritten env service cluster
    · simp only [Bool.false_eq_true,if_false,List.append_nil]
      rw [← nothing_sent_iff published,List.nil_perm]
      simp
    · simp only [Bool.false_eq_true,if_false,if_true]
      rw [← none_kept_iff published]
      have twice : sent.Perm (sent ++ sent.filter (kept service cluster)) ↔ sent.filter (kept service cluster) = [] := by
        constructor
        · intro same
          have lengths := same.length_eq
          rw [List.length_append] at lengths
          exact List.eq_nil_of_length_eq_zero (by omega)
        · intro empty
          rw [empty,List.append_nil]
      rw [twice]
      simp
    · simp
    · simp only [Bool.false_eq_true,if_false,if_true,List.nil_append]
      rw [← all_kept_iff published]
      have again : sent.Perm (sent.filter (kept service cluster)) ↔
          ∀ successor ∈ sent, kept service cluster successor = true := by
        constructor
        · intro same
          exact List.length_filter_eq_length_iff.mp same.length_eq.symm
        · intro all
          rw [List.filter_eq_self.mpr all]
      rw [again]
      simp

/-- Two orders in one cluster, one handled and one not. -/
def mixedOrders : Cluster where
  event := "order"
  data := Dict.empty
  queueEntries := ["first","second"]
  triggerEvent := ""
  reports := [⟨"first",.Done,none,none⟩,⟨"second",.Error,none,none⟩]
  shouldRollback := false

def orderService : Service := ⟨["order","order/#succeeded"],fun _ => "",["first","second"]⟩

/-- The successor of the handled order is lost with the rollback. -/
theorem insert_modes_differ_mixed_orders :
    (inserted .plain orderService mixedOrders true).map Successor.event = ["order/#succeeded"] ∧
      inserted .plain orderService mixedOrders false = [] ∧
      ¬ (inserted .plain orderService mixedOrders true).Perm (inserted .plain orderService mixedOrders false) := by
  have before : (inserted .plain orderService mixedOrders true).map Successor.event = ["order/#succeeded"] := by decide
  have without : (inserted .plain orderService mixedOrders false).map Successor.event = [] := by decide
  rw [List.map_eq_nil_iff] at without
  refine ⟨before,without,?_⟩
  intro same
  rw [without,List.perm_nil] at same
  rw [same] at before
  cases before

end EventQueue.SagaModes

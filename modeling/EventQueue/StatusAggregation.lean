import EventQueue.StatusMap
import Mathlib.Data.List.Perm.Basic

/-! What a sequence of status reports on one entry comes to. The map keeps a first
error or exceeded for good, but it compares every other report with `>=` on the status
codes, and both codes are greater than done. -/
namespace EventQueue
open Js (Value)

variable (env : Environment)

def failedStatuses : List Nat := [EventProcessingStatus.Error,EventProcessingStatus.Exceeded]

/-- A report that is a status code or an object with a status, one of the four codes. -/
structure StatusReport where
  statusOrUpdateData : Value
  error : Value
  status : Nat
  allowed : status ∈ allowedStatuses
  reported : statusOrUpdateData = .nat status ∨
    ∃ fields, statusOrUpdateData = .obj fields ∧ Js.field fields "status" = some (.nat status)

namespace StatusReport

def report (id : String) (reported : StatusReport) : Report := ⟨id,reported.statusOrUpdateData,reported.error⟩

def failed (reported : StatusReport) : Bool := reported.status ∈ failedStatuses

def update (reported : StatusReport) : Value := updateDataOf reported.statusOrUpdateData reported.error

def ofStatus (status : Nat) (allowed : status ∈ allowedStatuses) : StatusReport :=
  ⟨.nat status,.undefined,status,allowed,Or.inl rfl⟩

end StatusReport

/-- The status of the value that the map holds for the entry after the reports on it. -/
def aggregatedStatus (id : String) (reports : List StatusReport) : Option Value :=
  (aggregated env (reports.map (StatusReport.report id)) id).bind (Value.get "status")

theorem StatusReport.update_spec (reported : StatusReport) :
    reported.update.truthy = true ∧ reported.update.get "status" = some (.nat reported.status) := by
  unfold update
  obtain plain | ⟨fields,object,found⟩ := reported.reported
  · rw [plain]
    constructor
    · rfl
    · by_cases given : reported.error.truthy
      · simp [updateDataOf,Value.nat,given,Value.get,Js.field]
      · simp [updateDataOf,Value.nat,given,Value.get,Js.field]
  · rw [object]
    by_cases given : reported.error.truthy
    · simp only [updateDataOf,given,if_true]
      refine ⟨rfl,?_⟩
      rw [Value.get,Js.field_append,Js.field_filter (fun _ => rfl),found]
      rfl
    · simp only [updateDataOf,given,Bool.false_eq_true,if_false]
      refine ⟨rfl,?_⟩
      rw [Value.get,found]
      rfl

def worse (current next : Nat) : Nat :=
  if current ∈ failedStatuses then current else if next ≤ current then next else current

theorem determineAndAdd_worse (statusMap : Dict Value) (id : String) (current : Value) (status : Nat)
    (found : statusMap.get? id = some current) (truthy : current.truthy = true)
    (stands : current.get "status" = some (.nat status)) (reported : StatusReport) :
    ∃ next value, determineAndAddEventStatusToMap env statusMap id reported.statusOrUpdateData reported.error =
      some next ∧ next.get? id = some value ∧ value.truthy = true ∧
      value.get "status" = some (.nat (worse status reported.status)) := by
  obtain ⟨object,code⟩ := reported.update_spec
  rw [determineAndAdd_eq]
  simp only [replaces,found,truthy,if_true,stands,Option.bind_eq_bind,Option.bind_some,Js.isOneOf_nat]
  by_cases failed : status ∈ failedStatuses
  · refine ⟨statusMap,current,?_,found,truthy,?_⟩
    · rw [decide_eq_true (show status ∈ [EventProcessingStatus.Error,EventProcessingStatus.Exceeded] from failed)]
      rfl
    · rw [stands,worse,if_pos failed]
  · rw [decide_eq_false (show status ∉ [EventProcessingStatus.Error,EventProcessingStatus.Exceeded] from failed)]
    change (updateDataOf reported.statusOrUpdateData reported.error).get "status" = _ at code
    simp only [Bool.false_eq_true,if_false,code,Option.bind_some,ge_nat,Option.map_some,worse,if_neg failed]
    by_cases lower : reported.status ≤ status
    · refine ⟨_,reported.update,rfl,?_,object,?_⟩
      · simp [lower,Dict.get?_set,StatusReport.update]
      · rw [if_pos lower]
        exact code
    · refine ⟨_,current,rfl,?_,truthy,?_⟩
      · simp [lower,found]
      · rw [if_neg lower,stands]

theorem addReports_worse (id : String) (reports : List StatusReport) (statusMap : Dict Value) (current : Value)
    (status : Nat) (found : statusMap.get? id = some current) (truthy : current.truthy = true)
    (stands : current.get "status" = some (.nat status)) :
    ((addReports env statusMap (reports.map (StatusReport.report id))).statusMap.get? id).bind (Value.get "status") =
      some (.nat ((reports.map StatusReport.status).foldl worse status)) := by
  induction reports generalizing statusMap current status with
  | nil => simp [addReports,found,stands]
  | cons reported rest ih =>
    obtain ⟨next,value,added,present,object,code⟩ :=
      determineAndAdd_worse env statusMap id current status found truthy stands reported
    simp only [List.map_cons,List.foldl_cons,addReports]
    rw [show (reported.report id).id = id from rfl,
      show (reported.report id).statusOrUpdateData = reported.statusOrUpdateData from rfl,
      show (reported.report id).error = reported.error from rfl,added]
    exact ih next value _ present object code

theorem aggregatedStatus_cons (id : String) (first : StatusReport) (rest : List StatusReport) :
    aggregatedStatus env id (first::rest) = some (.nat ((rest.map StatusReport.status).foldl worse first.status)) := by
  have own : ((first::rest).map (StatusReport.report id)).filter (fun report => report.id = id) =
      (first::rest).map (StatusReport.report id) := by
    apply List.filter_eq_self.mpr
    intro report member
    obtain ⟨reported,_,rfl⟩ := List.mem_map.mp member
    simp [StatusReport.report]
  obtain ⟨object,code⟩ := first.update_spec
  have placed : (Dict.empty.set id first.update).get? id = some first.update := by simp [Dict.get?_set]
  rw [aggregatedStatus,aggregated,own,← addReports_worse env id rest _ first.update first.status placed object code]
  rfl

theorem foldl_worse_failed (first : Nat) (failed : first ∈ failedStatuses) (rest : List Nat) :
    rest.foldl worse first = first := by
  induction rest with
  | nil => rfl
  | cons next rest ih => rw [List.foldl_cons,worse,if_pos failed,ih]

theorem not_failed_cases {status : Nat} (allowed : status ∈ allowedStatuses) (sound : status ∉ failedStatuses) :
    status ≤ EventProcessingStatus.Done := by
  simp only [allowedStatuses,failedStatuses,List.mem_cons,List.not_mem_nil,or_false,not_or] at allowed sound
  rcases allowed with rfl | rfl | rfl | rfl
  · decide
  · decide
  · exact absurd rfl sound.1
  · exact absurd rfl sound.2

/-- After a first open or done no later code can make the entry fail. -/
theorem foldl_worse_sound (first : Nat) (sound : first ≤ EventProcessingStatus.Done) (rest : List Nat) :
    some (rest.foldl worse first) = (first::rest).min? := by
  rw [List.min?_cons']
  induction rest generalizing first with
  | nil => rfl
  | cons next rest ih =>
    have kept : first ∉ failedStatuses := by
      simp only [failedStatuses,List.mem_cons,List.not_mem_nil,or_false,not_or]
      simp only [EventProcessingStatus.Done,EventProcessingStatus.Error,EventProcessingStatus.Exceeded] at *
      omega
    have least : worse first next = min first next := by
      rw [worse,if_neg kept,min_def]
      split <;> split <;> omega
    rw [List.foldl_cons,List.foldl_cons,least]
    apply ih
    exact le_trans (min_le_left first next) sound

theorem aggregatedStatus_sound (id : String) (first : StatusReport) (rest : List StatusReport)
    (sound : first.failed = false) :
    aggregatedStatus env id (first::rest) = ((first::rest).map StatusReport.status).min?.map Value.nat := by
  have kept : first.status ∉ failedStatuses := of_decide_eq_false sound
  rw [List.map_cons,← foldl_worse_sound _ (not_failed_cases first.allowed kept),aggregatedStatus_cons]
  rfl

theorem aggregatedStatus_failed (id : String) (first : StatusReport) (rest : List StatusReport) :
    (∃ status ∈ failedStatuses, aggregatedStatus env id (first::rest) = some (.nat status)) ↔ first.failed = true := by
  constructor
  · rintro ⟨status,member,same⟩
    by_contra sound
    rw [Bool.not_eq_true] at sound
    rw [aggregatedStatus_sound env id first rest sound] at same
    obtain ⟨least,found,code⟩ := Option.map_eq_some_iff.mp same
    have below := (List.min?_eq_some_iff.mp found).2 first.status (by simp)
    have bound := not_failed_cases first.allowed (of_decide_eq_false sound)
    have equal : least = status := by simpa [Value.nat] using code
    simp only [failedStatuses,List.mem_cons,List.not_mem_nil,or_false] at member
    simp only [EventProcessingStatus.Done,EventProcessingStatus.Error,EventProcessingStatus.Exceeded] at *
    omega
  · intro failed
    have member : first.status ∈ failedStatuses := of_decide_eq_true failed
    refine ⟨first.status,member,?_⟩
    rw [aggregatedStatus_cons,foldl_worse_failed _ member]

/-- Without a failed report the entry ends with the least code, whichever order they come in. -/
theorem aggregatedStatus_perm (id : String) (reports other : List StatusReport)
    (sound : ∀ reported ∈ reports, reported.failed = false) (permuted : other.Perm reports) :
    aggregatedStatus env id other = aggregatedStatus env id reports := by
  cases reports with
  | nil => rw [permuted.eq_nil]
  | cons first rest =>
    cases other with
    | nil => exact absurd permuted.symm.eq_nil (by simp)
    | cons second remaining =>
      rw [aggregatedStatus_sound env id first rest (sound first (by simp)),
        aggregatedStatus_sound env id second remaining (sound second (permuted.subset (by simp)))]
      congr 1
      ext least
      have same := permuted.map StatusReport.status
      simp only [List.min?_eq_some_iff,same.mem_iff]

/-- The two halves of worst aggregation on a sequence of reports. -/
def WorstAggregation (id : String) (reports : List StatusReport) : Prop :=
  ((∃ status ∈ failedStatuses, aggregatedStatus env id reports = some (.nat status)) ↔
    ∃ reported ∈ reports, reported.failed = true) ∧
  ((∀ reported ∈ reports, reported.failed = false) →
    ∀ other : List StatusReport, other.Perm reports → aggregatedStatus env id other = aggregatedStatus env id reports)

theorem worst_aggregation_iff (id : String) (reports : List StatusReport) (nonempty : reports ≠ []) :
    WorstAggregation env id reports ↔
      (∀ reported ∈ reports, reported.failed = false) ∨ ∃ first ∈ reports.head?, first.failed = true := by
  obtain ⟨first,rest,rfl⟩ := List.exists_cons_of_ne_nil nonempty
  simp only [WorstAggregation,aggregatedStatus_failed,List.head?_cons,Option.mem_some_iff,exists_eq_left']
  constructor
  · rintro ⟨failed,_⟩
    by_cases sound : ∀ reported ∈ first::rest, reported.failed = false
    · exact Or.inl sound
    · right
      apply failed.mpr
      push Not at sound
      obtain ⟨reported,member,bad⟩ := sound
      exact ⟨reported,member,by simpa using bad⟩
  · intro condition
    refine ⟨?_,fun sound other permuted => aggregatedStatus_perm env id (first::rest) other sound permuted⟩
    constructor
    · intro failed
      exact ⟨first,by simp,failed⟩
    · rintro ⟨reported,member,failed⟩
      rcases condition with sound | head
      · rw [sound reported member] at failed
        cases failed
      · exact head

def doneReport : StatusReport := .ofStatus EventProcessingStatus.Done done_allowed
def openReport : StatusReport := .ofStatus EventProcessingStatus.Open open_allowed
def errorReport : StatusReport := .ofStatus EventProcessingStatus.Error error_allowed

theorem worst_aggregation_iff_done_open :
    [doneReport,openReport] ≠ [] ∧ WorstAggregation .plain "a" [doneReport,openReport] := by
  refine ⟨by simp,(worst_aggregation_iff .plain "a" [doneReport,openReport] (by simp)).mpr (Or.inl ?_)⟩
  decide

/-- An error reported after a done is lost, the other way round it stays. -/
theorem error_after_done_lost :
    aggregatedStatus .plain "a" [doneReport,errorReport] = some (.nat EventProcessingStatus.Done) ∧
      aggregatedStatus .plain "a" [errorReport,doneReport] = some (.nat EventProcessingStatus.Error) ∧
      ¬ WorstAggregation .plain "a" [doneReport,errorReport] := by
  refine ⟨?_,?_,?_⟩
  · rw [aggregatedStatus_cons]
    rfl
  · rw [aggregatedStatus_cons]
    rfl
  · rintro ⟨failed,_⟩
    have lost := (aggregatedStatus_failed .plain "a" doneReport [errorReport]).mp
      (failed.mpr ⟨errorReport,by simp,by decide⟩)
    exact absurd lost (by decide)

end EventQueue

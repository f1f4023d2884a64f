import EventQueue.StatusMap
import Mathlib.Data.List.Nodup

/-! How `#determineResultStatus` reads what a CAP handler returns for a cluster of queue
entries. The value is classified by its shape, an array by its first element alone, and
every shape has its own way with properties that are not allowed. -/
namespace EventQueue.HandlerResult
open Js (Value)

abbrev Fields := List (String × Value)

def validStatusValues : List Nat := [EventProcessingStatus.Open,EventProcessingStatus.InProgress,
  EventProcessingStatus.Done,EventProcessingStatus.Error,EventProcessingStatus.Exceeded,EventProcessingStatus.Suspended]

def allowedFieldsEventHandler : List String := ["status","startAfter","error","nextData"]

def allAllowed (fields : Fields) : Bool := fields.all (fun entry => entry.1 ∈ allowedFieldsEventHandler)

def plainDone : Value := .obj [("status",.nat EventProcessingStatus.Done)]

def forAll (queueEntries : List String) (outcome : Value) : List Value :=
  queueEntries.map (fun id => .arr [.str id,outcome])

/-- The `ID` of an outcome object; without one the only entry of the cluster is meant. -/
def resolveID (queueEntries : List String) (entry : Value) : Option Value :=
  let id := (entry.get "ID").getD .undefined
  if id.truthy then some id
  else match queueEntries with
    | [only] => some (.str only)
    | _ => none

def withoutID (entry : Value) : Fields := entry.ownFields.filter (fun property => property.1 ≠ "ID")

def withStatus (fields : Fields) : Fields :=
  if (Js.field fields "status").isSome then fields else fields ++ [("status",.nat EventProcessingStatus.Done)]

def reduceEntry (queueEntries : List String) (entry : Value) : Option (List Value) :=
  if entry.isObject then
    (resolveID queueEntries entry).map (fun id =>
      (if allAllowed (withoutID entry) then [] else [.arr [id,plainDone]]) ++
        [.arr [id,.obj (withStatus (withoutID entry))]])
  else none

/-- `result.some` with the check of the last branch. -/
def someInvalid : List Value → Option Bool
  | [] => some false
  | entry::rest => (destructure entry).bind (fun pair =>
    if pair.2.isOneOf validStatusValues then someInvalid rest else some true)

def tupleOf (entry : Value) : Option Value :=
  (destructure entry).map (fun pair => .arr [pair.1,.obj [("status",pair.2)]])

def determineArrayStatus (items : List Value) (queueEntries : List String) : Option (List Value) :=
  match items with
  | .arr first::_ =>
    let innerResult := first[1]?.getD .undefined
    if innerResult.isObject then
      some (if allAllowed innerResult.ownFields then items else forAll queueEntries plainDone)
    else items.mapM tupleOf
  | _ =>
    if (items.head?.getD .undefined).isObject then (items.mapM (reduceEntry queueEntries)).map List.flatten
    else (someInvalid items).map (fun invalid => if invalid then forAll queueEntries plainDone else items)

/-- None if it throws. -/
def determineResultStatus (result : Value) (queueEntries : List String) : Option (List Value) :=
  if result.isOneOf validStatusValues then some (forAll queueEntries (.obj [("status",result)]))
  else match result with
    | .arr items => determineArrayStatus items queueEntries
    | _ =>
      if result.isObject then
        some (forAll queueEntries (if allAllowed result.ownFields then result else plainDone))
      else some (forAll queueEntries plainDone)

def validStatus (fields : Fields) : Bool := ((Js.field fields "status").getD .undefined).isOneOf validStatusValues

def isReportFor (id : String) (report : Value) : Bool :=
  match destructure report with
  | some (.str text,_) => text = id
  | _ => false

/-- The outcome object that an element of an array is, with the entry it is for. -/
def outcomeOf (queueEntries : List String) : Value → Option (Value × Fields)
  | .arr (id::outcome::_) => if outcome.isObject then some (id,outcome.ownFields) else none
  | .obj fields => some ((resolveID queueEntries (.obj fields)).getD .undefined,withoutID (.obj fields))
  | _ => none

def outcomes (queueEntries : List String) : Value → List (Value × Fields)
  | .obj fields => queueEntries.map (fun id => (.str id,fields))
  | .arr items => items.filterMap (outcomeOf queueEntries)
  | _ => []

/-- The reports on an entry are plain done, and there is one if the cluster has the entry. -/
def ReportedDone (queueEntries : List String) (reports : List Value) (id : Value) : Prop :=
  (∀ entry ∈ queueEntries, id = .str entry → ∃ report ∈ reports, destructure report = some (id,plainDone)) ∧
    ∀ report ∈ reports, ∀ outcome, destructure report = some (id,outcome) → outcome = plainDone

def ValidReport (report : Value) : Prop :=
  ∃ id fields, destructure report = some (id,.obj fields) ∧ validStatus fields = true

structure Interpreted (queueEntries : List String) (result : Value) (reports : List Value) : Prop where
  single : ∀ id ∈ queueEntries, reports.countP (isReportFor id) ≤ 1
  valid : ∀ report ∈ reports, ValidReport report
  plain : ∀ id fields, (id,fields) ∈ outcomes queueEntries result → allAllowed fields = false →
    ReportedDone queueEntries reports id

/-- A tuple with an outcome object that has allowed properties only and a valid status. -/
def isObjectTuple (entry : Value) : Bool :=
  match destructure entry with
  | some (_,.obj fields) => allAllowed fields && validStatus fields
  | _ => false

def isStatusTuple (entry : Value) : Bool :=
  match destructure entry with
  | some (_,status) => status.isOneOf validStatusValues
  | none => false

/-- An outcome object in an array: besides `ID` allowed properties only, and no invalid status. -/
def isOutcome (entry : Value) : Bool :=
  allAllowed (withoutID entry) &&
    (Js.field (withoutID entry) "status").all (fun status => status.isOneOf validStatusValues)

def isOutcomeFor (queueEntries : List String) (id : String) (entry : Value) : Bool :=
  match resolveID queueEntries entry with
  | some (.str text) => text = id
  | _ => false

/-- The returned values that are read completely. -/
def WellShaped (queueEntries : List String) : Value → Prop
  | .function _ => False
  | .date _ => False
  | .obj fields => queueEntries.Nodup ∧ (allAllowed fields = true → validStatus fields = true)
  | .arr [] => True
  | .arr (.arr first::rest) =>
    let innerResult := first[1]?.getD .undefined
    if innerResult.isObject then
      if allAllowed innerResult.ownFields then
        (∀ entry ∈ .arr first::rest, isObjectTuple entry = true) ∧
          ∀ id ∈ queueEntries, (.arr first::rest).countP (isReportFor id) ≤ 1
      else queueEntries.Nodup
    else (∀ entry ∈ .arr first::rest, isStatusTuple entry = true) ∧
      ∀ id ∈ queueEntries, (.arr first::rest).countP (isReportFor id) ≤ 1
  | .arr (first::rest) =>
    if first.isObject then
      (∀ entry ∈ first::rest, isOutcome entry = true) ∧
        ∀ id ∈ queueEntries, (first::rest).countP (isOutcomeFor queueEntries id) ≤ 1
    else queueEntries.Nodup
  | _ => queueEntries.Nodup

variable {queueEntries : List String} {result outcome : Value}

theorem plainDone_valid : validStatus [("status",.nat EventProcessingStatus.Done)] = true := by decide

theorem destructure_pair (first second : Value) : destructure (.arr [first,second]) = some (first,second) := rfl

theorem forAll_single : (∀ id ∈ queueEntries, (forAll queueEntries outcome).countP (isReportFor id) ≤ 1) ↔
    queueEntries.Nodup := by
  have counted : ∀ id, (forAll queueEntries outcome).countP (isReportFor id) = queueEntries.count id := by
    intro id
    rw [forAll,List.countP_map,List.count]
    congr 1
  simp only [counted]
  rw [List.nodup_iff_count_le_one]
  constructor
  · intro single id
    by_cases member : id ∈ queueEntries
    · exact single id member
    · simp [List.count_eq_zero.mpr member]
  · intro single id _
    exact single id

theorem forAll_valid (nonempty : queueEntries ≠ []) :
    (∀ report ∈ forAll queueEntries outcome, ValidReport report) ↔
      ∃ fields, outcome = .obj fields ∧ validStatus fields = true := by
  constructor
  · intro valid
    obtain ⟨id,rest,rfl⟩ := List.exists_cons_of_ne_nil nonempty
    obtain ⟨_,fields,same,status⟩ := valid (.arr [.str id,outcome]) (by simp [forAll])
    rw [destructure_pair,Option.some.injEq,Prod.mk.injEq] at same
    exact ⟨fields,same.2,status⟩
  · rintro ⟨fields,rfl,status⟩ report member
    obtain ⟨id,_,rfl⟩ := List.mem_map.mp member
    exact ⟨.str id,fields,rfl,status⟩

/-- Plain done for every entry is right whatever the outcome objects carry. -/
theorem forAll_done (id : Value) : ReportedDone queueEntries (forAll queueEntries plainDone) id := by
  constructor
  · rintro entry member rfl
    exact ⟨_,List.mem_map.mpr ⟨entry,member,rfl⟩,rfl⟩
  · intro report member outcome same
    obtain ⟨entry,_,rfl⟩ := List.mem_map.mp member
    rw [destructure_pair,Option.some.injEq,Prod.mk.injEq] at same
    exact same.2.symm

theorem done_interpreted (nonempty : queueEntries ≠ []) :
    Interpreted queueEntries result (forAll queueEntries plainDone) ↔ queueEntries.Nodup := by
  constructor
  · intro interpreted
    exact forAll_single.mp interpreted.single
  · intro distinct
    exact ⟨forAll_single.mpr distinct,(forAll_valid nonempty).mpr ⟨_,rfl,plainDone_valid⟩,
      fun id _ _ _ => forAll_done id⟩

theorem interpreted_of_allowed {reports : List Value}
    (allowed : ∀ id fields, (id,fields) ∈ outcomes queueEntries result → allAllowed fields = true)
    (valid : ∀ report ∈ reports, ValidReport report)
    (single : ∀ id ∈ queueEntries, reports.countP (isReportFor id) ≤ 1) : Interpreted queueEntries result reports := by
  refine ⟨single,valid,?_⟩
  intro id fields member more
  rw [allowed id fields member] at more
  cases more

theorem forAll_interpreted (nonempty : queueEntries ≠ [])
    (allowed : ∀ id fields, (id,fields) ∈ outcomes queueEntries result → allAllowed fields = true) :
    Interpreted queueEntries result (forAll queueEntries outcome) ↔
      queueEntries.Nodup ∧ ∃ fields, outcome = .obj fields ∧ validStatus fields = true := by
  constructor
  · intro interpreted
    exact ⟨forAll_single.mp interpreted.single,(forAll_valid nonempty).mp interpreted.valid⟩
  · rintro ⟨distinct,object⟩
    exact interpreted_of_allowed allowed ((forAll_valid nonempty).mpr object) (forAll_single.mpr distinct)

theorem ReportedDone.allowed {reports : List Value} {id report : Value} {fields : Fields}
    (done : ReportedDone queueEntries reports id) (member : report ∈ reports)
    (same : destructure report = some (id,.obj fields)) : allAllowed fields = true := by
  have plain := done.2 report member _ same
  simp only [plainDone,Value.obj.injEq] at plain
  subst plain
  decide

theorem destructure_str {text : String} {pair : Value × Value} (iterable : destructure (.str text) = some pair) :
    pair.2 = .undefined ∨ ∃ letter, pair.2 = .str letter := by
  simp only [destructure,Option.some.injEq] at iterable
  subst iterable
  rw [← List.map_tail]
  cases text.toList.tail with
  | nil => exact Or.inl rfl
  | cons letter rest => exact Or.inr ⟨_,rfl⟩

theorem destructure_object {entry id : Value} {fields : Fields} (pair : destructure entry = some (id,.obj fields)) :
    ∃ rest, entry = .arr (id::.obj fields::rest) := by
  cases entry with
  | arr items =>
    rcases items with _ | ⟨first,_ | ⟨second,rest⟩⟩
    · simp [destructure] at pair
    · simp [destructure] at pair
    · simp only [destructure,List.headD_cons,List.tail_cons,Option.some.injEq,Prod.mk.injEq] at pair
      exact ⟨rest,by rw [pair.1,pair.2]⟩
  | str text =>
    rcases destructure_str pair with absent | ⟨letter,same⟩
    · cases absent
    · cases same
  | _ => simp [destructure] at pair

theorem outcomeOf_cases {entry id : Value} {fields : Fields} (found : outcomeOf queueEntries entry = some (id,fields)) :
    (∃ outcome rest, entry = .arr (id::outcome::rest) ∧ outcome.isObject = true ∧ fields = outcome.ownFields) ∨
      ∃ own, entry = .obj own ∧ fields = withoutID entry := by
  unfold outcomeOf at found
  split at found
  · rename_i first outcome rest
    by_cases object : outcome.isObject = true
    · rw [if_pos object,Option.some.injEq,Prod.mk.injEq] at found
      exact Or.inl ⟨outcome,rest,by rw [found.1],object,found.2.symm⟩
    · simp [object] at found
  · rename_i own
    rw [Option.some.injEq,Prod.mk.injEq] at found
    exact Or.inr ⟨own,rfl,found.2.symm⟩
  · cases found

/-- An array of tuples with outcome objects comes back as it is. -/
theorem tuples_interpreted {items : List Value} : Interpreted queueEntries (.arr items) items ↔
    (∀ entry ∈ items, isObjectTuple entry = true) ∧ ∀ id ∈ queueEntries, items.countP (isReportFor id) ≤ 1 := by
  constructor
  · intro interpreted
    refine ⟨?_,interpreted.single⟩
    intro entry member
    obtain ⟨id,fields,pair,status⟩ := interpreted.valid entry member
    have allowed : allAllowed fields = true := by
      by_contra more
      obtain ⟨rest,rfl⟩ := destructure_object pair
      refine more (ReportedDone.allowed (interpreted.plain id fields ?_ (by simpa using more)) member pair)
      exact List.mem_filterMap.mpr ⟨_,member,rfl⟩
    simp [isObjectTuple,pair,allowed,status]
  · rintro ⟨tuples,single⟩
    have valid : ∀ entry ∈ items, ∃ id fields, destructure entry = some (id,.obj fields) ∧
        allAllowed fields = true ∧ validStatus fields = true := by
      intro entry member
      have tuple := tuples entry member
      unfold isObjectTuple at tuple
      split at tuple
      · rename_i id fields pair
        rw [Bool.and_eq_true] at tuple
        exact ⟨id,fields,pair,tuple⟩
      · cases tuple
    refine interpreted_of_allowed ?_ ?_ single
    · intro id fields member
      obtain ⟨entry,member,found⟩ := List.mem_filterMap.mp member
      obtain ⟨_,own,pair,allowed,_⟩ := valid entry member
      rcases outcomeOf_cases found with ⟨outcome,rest,rfl,_,rfl⟩ | ⟨other,rfl,_⟩
      · simp only [destructure,List.headD_cons,List.tail_cons,Option.some.injEq,Prod.mk.injEq] at pair
        rw [pair.2]
        exact allowed
      · simp [destructure] at pair
    · intro entry member
      obtain ⟨id,fields,pair,_,status⟩ := valid entry member
      exact ⟨id,fields,pair,status⟩

theorem mapM_forall {α β : Type} {f : α → Option β} {items : List α} {results : List β}
    (mapped : items.mapM f = some results) : List.Forall₂ (fun item result => f item = some result) items results := by
  induction items generalizing results with
  | nil =>
    rw [List.mapM_nil,Option.pure_def,Option.some.injEq] at mapped
    subst mapped
    exact List.Forall₂.nil
  | cons item rest ih =>
    rw [List.mapM_cons] at mapped
    obtain ⟨result,first,more⟩ := Option.bind_eq_some_iff.mp mapped
    obtain ⟨others,rests,joined⟩ := Option.bind_eq_some_iff.mp more
    rw [Option.pure_def,Option.some.injEq] at joined
    subst joined
    exact List.Forall₂.cons first (ih rests)

theorem tupleOf_spec {entry report : Value} (tuple : tupleOf entry = some report) :
    (ValidReport report ↔ isStatusTuple entry = true) ∧ ∀ id, isReportFor id report = isReportFor id entry := by
  obtain ⟨⟨first,status⟩,pair,rfl⟩ := Option.map_eq_some_iff.mp tuple
  constructor
  · unfold ValidReport isStatusTuple
    rw [pair,destructure_pair]
    constructor
    · rintro ⟨id,fields,same,valid⟩
      simp only [Option.some.injEq,Prod.mk.injEq,Value.obj.injEq] at same
      rw [← same.2] at valid
      exact valid
    · intro valid
      exact ⟨first,_,rfl,valid⟩
  · intro id
    unfold isReportFor
    rw [pair,destructure_pair]
    cases first <;> rfl

/-- The number of a tuple becomes the status of its outcome. -/
theorem statusTuples_interpreted {items reports : List Value} (mapped : items.mapM tupleOf = some reports) :
    Interpreted queueEntries (.arr items) reports ↔
      (∀ entry ∈ items, isStatusTuple entry = true) ∧ ∀ id ∈ queueEntries, items.countP (isReportFor id) ≤ 1 := by
  have related := mapM_forall mapped
  have counted : ∀ id, reports.countP (isReportFor id) = items.countP (isReportFor id) := by
    intro id
    clear mapped
    induction related with
    | nil => rfl
    | cons first _ ih => rw [List.countP_cons,List.countP_cons,ih,(tupleOf_spec first).2 id]
  have valid : (∀ report ∈ reports, ValidReport report) ↔ ∀ entry ∈ items, isStatusTuple entry = true := by
    clear mapped counted
    induction related with
    | nil => simp
    | cons first _ ih => rw [List.forall_mem_cons,List.forall_mem_cons,ih,(tupleOf_spec first).1]
  constructor
  · intro interpreted
    refine ⟨valid.mp interpreted.valid,?_⟩
    intro id member
    rw [← counted id]
    exact interpreted.single id member
  · rintro ⟨tuples,single⟩
    refine interpreted_of_allowed ?_ (valid.mpr tuples) (fun id member => counted id ▸ single id member)
    intro id fields member
    obtain ⟨entry,member,found⟩ := List.mem_filterMap.mp member
    have tuple := tuples entry member
    rcases outcomeOf_cases found with ⟨outcome,rest,rfl,object,rfl⟩ | ⟨own,rfl,_⟩
    · simp only [isStatusTuple,destructure,List.tail_cons,List.headD_cons] at tuple
      obtain ⟨number,_,rfl⟩ := Js.isOneOf_exists tuple
      cases object
    · simp [isStatusTuple,destructure] at tuple

theorem reduceEntry_spec {entry : Value} {added : List Value} (reduced : reduceEntry queueEntries entry = some added) :
    ∃ id, resolveID queueEntries entry = some id ∧ added =
      (if allAllowed (withoutID entry) then [] else [.arr [id,plainDone]]) ++
        [.arr [id,.obj (withStatus (withoutID entry))]] := by
  unfold reduceEntry at reduced
  split at reduced
  · obtain ⟨id,resolved,same⟩ := Option.map_eq_some_iff.mp reduced
    exact ⟨id,resolved,same.symm⟩
  · cases reduced

theorem validStatus_withStatus (fields : Fields) : validStatus (withStatus fields) =
    (Js.field fields "status").all (fun status => status.isOneOf validStatusValues) := by
  unfold validStatus withStatus
  cases found : Js.field fields "status" with
  | none =>
    rw [Option.isSome_none,if_neg Bool.false_ne_true,Js.field_append,found]
    decide
  | some status =>
    rw [Option.isSome_some,if_pos rfl,found]
    rfl

theorem allAllowed_withStatus {fields : Fields} (allowed : allAllowed (withStatus fields) = true) :
    allAllowed fields = true := by
  unfold withStatus at allowed
  split at allowed
  · exact allowed
  · rw [allAllowed,List.all_append,Bool.and_eq_true] at allowed
    exact allowed.1

/-- Only a plain object can name its entry. -/
theorem resolveID_only {entry id : Value} (resolved : resolveID queueEntries entry = some id)
    (other : ∀ fields, entry ≠ .obj fields) : ∃ only, queueEntries = [only] ∧ id = .str only := by
  have unnamed : (entry.get "ID").getD .undefined = .undefined := by
    cases entry with
    | obj fields => exact absurd rfl (other fields)
    | _ => rfl
  unfold resolveID at resolved
  simp only [unnamed,Value.truthy,Bool.false_eq_true,if_false] at resolved
  split at resolved
  · rename_i only
    exact ⟨only,rfl,(Option.some.injEq _ _ ▸ resolved).symm⟩
  · cases resolved

theorem isReportFor_resolved {entry id : Value} (resolved : resolveID queueEntries entry = some id) (name : String) :
    isReportFor name (.arr [id,outcome]) = isOutcomeFor queueEntries name entry := by
  unfold isReportFor isOutcomeFor
  rw [resolved,destructure_pair]
  cases id <;> rfl

theorem mem_flatten_reduced {items : List Value} {added : List (List Value)}
    (related : List.Forall₂ (fun entry reports => reduceEntry queueEntries entry = some reports) items added)
    {entry : Value} (member : entry ∈ items) :
    ∃ reports, reduceEntry queueEntries entry = some reports ∧ reports.Sublist added.flatten := by
  induction related with
  | nil => cases member
  | cons first _ ih =>
    rename_i head reports rest others _
    rw [List.flatten_cons]
    rcases List.mem_cons.mp member with rfl | later
    · exact ⟨reports,first,List.sublist_append_left _ _⟩
    · obtain ⟨found,reduced,inside⟩ := ih later
      exact ⟨found,reduced,inside.trans (List.sublist_append_right _ _)⟩

theorem mem_of_reduced {items : List Value} {added : List (List Value)}
    (related : List.Forall₂ (fun entry reports => reduceEntry queueEntries entry = some reports) items added)
    {reports : List Value} (member : reports ∈ added) :
    ∃ entry ∈ items, reduceEntry queueEntries entry = some reports := by
  induction related with
  | nil => cases member
  | cons first _ ih =>
    rcases List.mem_cons.mp member with rfl | later
    · exact ⟨_,List.mem_cons_self,first⟩
    · obtain ⟨entry,listed,reduced⟩ := ih later
      exact ⟨entry,List.mem_cons_of_mem _ listed,reduced⟩

/-- An outcome object with further properties is reported twice, as done and as it is. -/
theorem reduced_allowed {items : List Value} {reports : List Value} {entry id : Value}
    (interpreted : Interpreted queueEntries (.arr items) reports) (member : entry ∈ items)
    (resolved : resolveID queueEntries entry = some id)
    (inside : ([.arr [id,plainDone],.arr [id,.obj (withStatus (withoutID entry))]] : List Value).Sublist reports) :
    allAllowed (withoutID entry) = true := by
  by_contra more
  by_cases object : ∃ fields, entry = .obj fields
  · obtain ⟨fields,rfl⟩ := object
    have done := interpreted.plain id (withoutID (.obj fields))
      (List.mem_filterMap.mpr ⟨_,member,by simp [outcomeOf,resolved]⟩) (by simpa using more)
    apply more
    apply allAllowed_withStatus
    exact ReportedDone.allowed done (inside.subset (List.mem_cons_of_mem _ (List.mem_singleton.mpr rfl))) rfl
  · push Not at object
    obtain ⟨only,rfl,rfl⟩ := resolveID_only resolved object
    have twice := inside.countP_le (p := isReportFor only)
    have once := interpreted.single only (by simp)
    simp only [List.countP_cons,List.countP_nil,isReportFor,destructure_pair,decide_true,if_true] at twice
    omega

/-- The indices of an array are no allowed properties. -/
theorem indexed_more (first : Value) (rest : List Value) : ¬ allAllowed (withoutID (.arr (first::rest))) = true := by
  intro allowed
  have zero : toString 0 ≠ "ID" ∧ toString 0 ∉ allowedFieldsEventHandler := by decide
  have member : (toString 0,first) ∈ withoutID (.arr (first::rest)) := by
    rw [withoutID,List.mem_filter]
    exact ⟨by simp [Value.ownFields],decide_eq_true zero.1⟩
  exact zero.2 (of_decide_eq_true (List.all_eq_true.mp allowed _ member))

theorem objects_interpreted {items : List Value} {added : List (List Value)}
    (mapped : items.mapM (reduceEntry queueEntries) = some added) :
    Interpreted queueEntries (.arr items) added.flatten ↔
      (∀ entry ∈ items, isOutcome entry = true) ∧
        ∀ id ∈ queueEntries, items.countP (isOutcomeFor queueEntries id) ≤ 1 := by
  have related := mapM_forall mapped
  have counted : (∀ entry ∈ items, isOutcome entry = true) → ∀ id,
      added.flatten.countP (isReportFor id) = items.countP (isOutcomeFor queueEntries id) := by
    intro regular id
    clear mapped
    induction related with
    | nil => rfl
    | cons first _ ih =>
      rename_i entry reports rest others _
      obtain ⟨name,resolved,rfl⟩ := reduceEntry_spec first
      have allowed : allAllowed (withoutID entry) = true := by
        have own := regular entry (by simp)
        rw [isOutcome,Bool.and_eq_true] at own
        exact own.1
      rw [List.flatten_cons,List.countP_append,List.countP_cons,
        ih (fun other member => regular other (List.mem_cons_of_mem entry member)),if_pos allowed,List.nil_append,
        List.countP_cons,List.countP_nil,isReportFor_resolved resolved id]
      omega
  constructor
  · intro interpreted
    have regular : ∀ entry ∈ items, isOutcome entry = true := by
      intro entry member
      obtain ⟨reports,reduced,inside⟩ := mem_flatten_reduced related member
      obtain ⟨id,resolved,rfl⟩ := reduceEntry_spec reduced
      have allowed : allAllowed (withoutID entry) = true := by
        by_contra more
        rw [if_neg more] at inside
        exact more (reduced_allowed interpreted member resolved inside)
      obtain ⟨_,fields,same,status⟩ := interpreted.valid (.arr [id,.obj (withStatus (withoutID entry))])
        (inside.subset (by simp))
      rw [destructure_pair,Option.some.injEq,Prod.mk.injEq,Value.obj.injEq] at same
      rw [← same.2,validStatus_withStatus] at status
      rw [isOutcome,allowed,status]
      rfl
    refine ⟨regular,?_⟩
    intro id member
    rw [← counted regular id]
    exact interpreted.single id member
  · rintro ⟨regular,single⟩
    refine interpreted_of_allowed ?_ ?_ (fun id member => counted regular id ▸ single id member)
    · intro id fields member
      obtain ⟨entry,member,found⟩ := List.mem_filterMap.mp member
      have own := regular entry member
      rw [isOutcome,Bool.and_eq_true] at own
      rcases outcomeOf_cases found with ⟨outcome,rest,rfl,_,rfl⟩ | ⟨_,_,rfl⟩
      · exact absurd own.1 (indexed_more id _)
      · exact own.1
    · intro report member
      obtain ⟨reports,inside,member⟩ := List.mem_flatten.mp member
      obtain ⟨entry,listed,reduced⟩ := mem_of_reduced related inside
      have own := regular entry listed
      rw [isOutcome,Bool.and_eq_true] at own
      obtain ⟨id,_,rfl⟩ := reduceEntry_spec reduced
      rw [if_pos own.1,List.nil_append,List.mem_singleton] at member
      subst member
      exact ⟨id,_,rfl,(validStatus_withStatus _).trans own.2⟩

/-- A text that is taken for a tuple has no valid status. -/
theorem someInvalid_first {first : Value} {rest : List Value} {invalid : Bool} (primitive : first.isObject = false)
    (found : someInvalid (first::rest) = some invalid) : invalid = true := by
  obtain ⟨pair,iterable,checked⟩ := Option.bind_eq_some_iff.mp found
  have status : pair.2.isOneOf validStatusValues = false := by
    cases first with
    | str text =>
      rcases destructure_str iterable with absent | ⟨letter,same⟩
      · rw [absent]
        rfl
      · rw [same]
        rfl
    | arr items => cases primitive
    | _ => simp [destructure] at iterable
  simpa [status] using checked.symm

theorem array_interpreted {items reports : List Value} (nonempty : queueEntries ≠ [])
    (returns : determineArrayStatus items queueEntries = some reports) :
    Interpreted queueEntries (.arr items) reports ↔ WellShaped queueEntries (.arr items) := by
  rcases items with _ | ⟨first,rest⟩
  · simp only [determineArrayStatus,List.head?_nil,Option.getD_none,Value.isObject,Bool.false_eq_true,if_false,
      someInvalid,Option.map_some,Option.some.injEq] at returns
    subst returns
    exact iff_of_true ⟨by simp,by simp,by simp [outcomes]⟩ trivial
  · by_cases tuple : ∃ pair, first = .arr pair
    · obtain ⟨pair,rfl⟩ := tuple
      simp only [determineArrayStatus] at returns
      simp only [WellShaped]
      split at returns
      · rename_i object
        rw [if_pos object]
        rw [Option.some.injEq] at returns
        subst returns
        split
        · exact tuples_interpreted
        · exact done_interpreted nonempty
      · rename_i plain
        rw [if_neg plain]
        exact statusTuples_interpreted returns
    · push Not at tuple
      have shaped : WellShaped queueEntries (.arr (first::rest)) ↔ if first.isObject then
          (∀ entry ∈ first::rest, isOutcome entry = true) ∧
            ∀ id ∈ queueEntries, (first::rest).countP (isOutcomeFor queueEntries id) ≤ 1
          else queueEntries.Nodup := by
        cases first with
        | arr pair => exact absurd rfl (tuple pair)
        | _ => rfl
      have branch : determineArrayStatus (first::rest) queueEntries = if first.isObject then
          ((first::rest).mapM (reduceEntry queueEntries)).map List.flatten
          else (someInvalid (first::rest)).map
            (fun invalid => if invalid then forAll queueEntries plainDone else first::rest) := by
        cases first with
        | arr pair => exact absurd rfl (tuple pair)
        | _ => rfl
      rw [branch] at returns
      rw [shaped]
      split at returns
      · rename_i object
        rw [if_pos object]
        obtain ⟨added,mapped,rfl⟩ := Option.map_eq_some_iff.mp returns
        exact objects_interpreted mapped
      · rename_i primitive
        rw [if_neg primitive]
        obtain ⟨invalid,found,rfl⟩ := Option.map_eq_some_iff.mp returns
        rw [someInvalid_first (by simpa using primitive) found,if_pos rfl]
        exact done_interpreted nonempty

theorem interpreted_completely_iff (result : Value) (queueEntries : List String) (nonempty : queueEntries ≠ [])
    (reports : List Value) (returns : determineResultStatus result queueEntries = some reports) :
    Interpreted queueEntries result reports ↔ WellShaped queueEntries result := by
  unfold determineResultStatus at returns
  split at returns
  · rename_i valid
    rw [Option.some.injEq] at returns
    subst returns
    obtain ⟨number,_,rfl⟩ := Js.isOneOf_exists valid
    rw [forAll_interpreted nonempty (by simp [Value.nat,outcomes])]
    exact and_iff_left ⟨_,rfl,valid⟩
  · cases result with
    | arr items => exact array_interpreted nonempty returns
    | obj fields =>
      change some (forAll queueEntries (if allAllowed fields then .obj fields else plainDone)) = some reports at returns
      rw [Option.some.injEq] at returns
      subst returns
      by_cases allowed : allAllowed fields = true
      · rw [if_pos allowed,forAll_interpreted nonempty]
        · simp [WellShaped,allowed]
        · intro id own member
          obtain ⟨_,_,same⟩ := List.mem_map.mp member
          rw [Prod.mk.injEq] at same
          exact same.2 ▸ allowed
      · rw [if_neg allowed,done_interpreted nonempty]
        simp [WellShaped,allowed]
    | function tag =>
      simp only [Value.isObject,if_true,Value.ownFields,allAllowed,List.all_nil,Option.some.injEq] at returns
      subst returns
      rw [forAll_interpreted nonempty (by simp [outcomes])]
      simp [WellShaped]
    | date time =>
      simp only [Value.isObject,if_true,Value.ownFields,allAllowed,List.all_nil,Option.some.injEq] at returns
      subst returns
      rw [forAll_interpreted nonempty (by simp [outcomes])]
      simp [WellShaped]
    | _ =>
      simp only [Value.isObject,Bool.false_eq_true,if_false,Option.some.injEq] at returns
      subst returns
      exact done_interpreted nonempty

/-- An error for each of two entries, as an array of objects. -/
def twoErrors : Value := .arr [.obj [("ID",.str "a"),("status",.nat EventProcessingStatus.Error)],
  .obj [("ID",.str "b"),("status",.nat EventProcessingStatus.Error)]]

theorem interpreted_completely_iff_errors :
    determineResultStatus twoErrors ["a","b"] = some [
      .arr [.str "a",.obj [("status",.nat EventProcessingStatus.Error)]],
      .arr [.str "b",.obj [("status",.nat EventProcessingStatus.Error)]]] ∧
    Interpreted ["a","b"] twoErrors [.arr [.str "a",.obj [("status",.nat EventProcessingStatus.Error)]],
      .arr [.str "b",.obj [("status",.nat EventProcessingStatus.Error)]]] := by
  refine ⟨rfl,(interpreted_completely_iff twoErrors ["a","b"] (by simp) _ rfl).mpr ?_⟩
  refine ⟨?_,by decide⟩
  intro entry member
  rcases List.mem_cons.mp member with rfl | member
  · decide
  · rw [List.mem_singleton.mp member]
    decide

/-- An error with a further property: it is reported as done and as the error it is. -/
def errorAndMore : Value := .arr [.obj [("ID",.str "a"),("status",.nat EventProcessingStatus.Error),("abc",.nat 123)]]

theorem further_property_reported_twice :
    determineResultStatus errorAndMore ["a"] = some [.arr [.str "a",plainDone],
      .arr [.str "a",.obj [("status",.nat EventProcessingStatus.Error),("abc",.nat 123)]]] ∧
    ¬ Interpreted ["a"] errorAndMore [.arr [.str "a",plainDone],
      .arr [.str "a",.obj [("status",.nat EventProcessingStatus.Error),("abc",.nat 123)]]] := by
  refine ⟨rfl,?_⟩
  intro interpreted
  have once := interpreted.single "a" (by simp)
  exact absurd once (by decide)

end EventQueue.HandlerResult

import EventQueue.Constants
import EventQueue.Lib.Value
import EventQueue.Lib.Dict

/-! The status maps of `EventQueueProcessorBase`: reported values are aggregated with
`#determineAndAddEventStatusToMap`, normalised, checked and grouped into updates. -/
namespace EventQueue
open Js (Value)

/-- Language services on values the code does not look into. A call that throws has no result. -/
structure Environment where
  /-- `JSON.stringify` in the debug log of `setEventStatus`. -/
  stringify : Value → Option String
  /-- The callback arguments of a `forEach` that is not the one of arrays, and whether it ends without an error. -/
  forEach : Value → List (Value × Value) × Bool
  propertyKey : Value → Option String
  /-- `>=` where one operand is not a number. -/
  greaterOrEqual : Value → Value → Option Bool
  /-- The text of an element in `Array.prototype.join`. -/
  text : Value → Option String
  text_nat : ∀ number : Nat, text (.nat number) = some (toString number)
  error2String : Value → Option Value
  /-- The error object of a language operation that throws. -/
  typeError : Value
  /-- `new Date(value)`, none if invalid. -/
  parseDate : Value → Option Int

variable (env : Environment)

def Environment.ge : Value → Value → Option Bool
  | .num left,.num right => some (left.ge right)
  | left,right => env.greaterOrEqual left right

/-- `typeof data === "number"` becomes `{ status: data }`, a truthy error is added to the object. -/
def updateDataOf (statusOrUpdateData error : Value) : Value :=
  match statusOrUpdateData with
  | .num number => .obj (("status",.num number)::if error.truthy then [("error",error)] else [])
  | .obj fields =>
    if error.truthy then .obj (fields.filter (fun field => field.1 != "error") ++ [("error",error)])
    else .obj fields
  | other => other

/-- `#determineAndAddEventStatusToMap`: error and exceeded stay, otherwise the lower status wins. -/
def determineAndAddEventStatusToMap (statusMap : Dict Value) (id : String)
    (statusOrUpdateData error : Value) : Option (Dict Value) :=
  let update := updateDataOf statusOrUpdateData error
  match statusMap.get? id with
  | none => some (statusMap.set id update)
  | some current =>
    if current.truthy then do
      let status ← current.get "status"
      if status.isOneOf [EventProcessingStatus.Error,EventProcessingStatus.Exceeded] then some statusMap
      else do
        let reported ← update.get "status"
        let lower ← env.ge status reported
        some (if lower then statusMap.set id update else statusMap)
    else some (statusMap.set id update)

structure Report where
  id : String
  statusOrUpdateData : Value
  error : Value

/-- A status map after some reports: the map, the reports added to it, and whether nothing threw. -/
structure Added where
  statusMap : Dict Value
  reports : List Report
  ok : Bool

/-- Adds reports in order and stops at the first one that throws. -/
def addReports (statusMap : Dict Value) : List Report → Added
  | [] => ⟨statusMap,[],true⟩
  | report::rest =>
    match determineAndAddEventStatusToMap env statusMap report.id report.statusOrUpdateData report.error with
    | none => ⟨statusMap,[],false⟩
    | some next =>
      let added := addReports next rest
      {added with reports := report::added.reports}

def Added.andThen (first : Added) (reports : List Report) : Added :=
  let second := addReports env first.statusMap reports
  {second with reports := first.reports ++ second.reports}

def errorReports (queueEntries : List String) (error : Value) : List Report :=
  queueEntries.map (fun id => ⟨id,.nat EventProcessingStatus.Error,error⟩)

/-- `([id, processingStatus])` applied to one element; what is not iterable throws. -/
def destructure : Value → Option (Value × Value)
  | .arr items => some (items.headD .undefined,items.tail.headD .undefined)
  | .str text => some ((text.toList.map (fun char => Value.str (String.ofList [char]))).headD .undefined,
      (text.toList.map (fun char => Value.str (String.ofList [char]))).tail.headD .undefined)
  | _ => none

/-- The pairs the loop over a returned value reaches, and whether it reaches its end. -/
def tuples : Value → List (Value × Value) × Bool
  | .arr items => ((items.map destructure).takeWhile Option.isSome |>.filterMap id,
      (items.map destructure).all Option.isSome)
  | .obj fields => env.forEach (.obj fields)
  | _ => ([],false)

/-- Property keys of the pairs, up to the first id that has none. -/
def keyed : List (Value × Value) → List Report × Bool
  | [] => ([],true)
  | (id,status)::rest =>
    match env.propertyKey id with
    | none => ([],false)
    | some key => (⟨key,status,.undefined⟩::(keyed rest).1,(keyed rest).2)

/-- The reports of a returned value and whether the loop over it ends without an error of its own. -/
def reportsOf (statusTuple : Value) : List Report × Bool :=
  ((keyed env (tuples env statusTuple).1).1,(keyed env (tuples env statusTuple).1).2 && (tuples env statusTuple).2)

/-- `setEventStatus` on the given map: a value of another structure sets all entries to error. -/
def setEventStatus (statusMap : Dict Value) (queueEntries : List String) (statusTuple : Value) : Added :=
  if (env.stringify statusTuple).isNone then ⟨statusMap,[],false⟩
  else if statusTuple.truthy then
    let added := addReports env statusMap (reportsOf env statusTuple).1
    if added.ok && (reportsOf env statusTuple).2 then added
    else added.andThen env (errorReports queueEntries .undefined)
  else addReports env statusMap (errorReports queueEntries .undefined)

def errorStatusMap (queueEntries : List String) (error : Value) : Dict Value :=
  queueEntries.foldl (fun statusMap id =>
    statusMap.set id (.obj [("status",.nat EventProcessingStatus.Error),("error",error)])) Dict.empty

/-- The fields of `ALLOWED_FIELDS_FOR_UPDATE`; an absent field is none. -/
structure UpdateData where
  status : Option Value
  startAfter : Option Value
  error : Option Value
  nextData : Option Value

def UpdateData.ofStatus (status : Nat) : UpdateData := ⟨some (.nat status),none,none,none⟩

/-- One entry of `#normalizeStatusMap`; the `in` operator throws on null. -/
def normalizeEntry : Value → Option UpdateData
  | .null => none
  | .num number => some ⟨some (.num number),none,none,none⟩
  | .obj fields => some ⟨Js.field fields "status",Js.field fields "startAfter",Js.field fields "error",
      Js.field fields "nextData"⟩
  | _ => some ⟨none,none,none,none⟩

def normalizeStatusMap (statusMap : Dict Value) : Option (Dict UpdateData) :=
  if statusMap.entries.all (fun entry => (normalizeEntry entry.2).isSome) then
    some (statusMap.map (fun value => (normalizeEntry value).getD ⟨none,none,none,none⟩))
  else none

def UpdateData.hasStatus (data : UpdateData) (candidates : List Nat) : Bool :=
  match data.status with
  | some status => status.isOneOf candidates
  | none => false

/-- `statusMapContainsError`; it normalises the map in place, which a second normalisation keeps. -/
def statusMapContainsError (statusMap : Dict Value) : Option Bool :=
  (normalizeStatusMap statusMap).map (fun normalized =>
    normalized.entries.any (fun entry => entry.2.hasStatus [EventProcessingStatus.Error]))

def ensureOnlySelectedQueueEntries (selectedEventMap : List String) (statusMap : Dict UpdateData) :
    Dict UpdateData :=
  statusMap.filter (fun id _ => selectedEventMap.contains id)

def allowedStatuses : List Nat :=
  [EventProcessingStatus.Open,EventProcessingStatus.Done,EventProcessingStatus.Error,EventProcessingStatus.Exceeded]

theorem open_allowed : EventProcessingStatus.Open ∈ allowedStatuses := by simp [allowedStatuses]

theorem done_allowed : EventProcessingStatus.Done ∈ allowedStatuses := by simp [allowedStatuses]

theorem error_allowed : EventProcessingStatus.Error ∈ allowedStatuses := by simp [allowedStatuses]

def ensureEveryStatusIsAllowed (statusMap : Dict UpdateData) : Dict UpdateData :=
  statusMap.filter (fun _ data => data.hasStatus allowedStatuses)

/-- `#ensureEveryQueueEntryHasStatus`: an entry in none of the three maps counts as done. -/
def ensureEveryQueueEntryHasStatus (queueEntries commited outdated : List String) (statusMap : Dict UpdateData) :
    Dict UpdateData :=
  queueEntries.foldl (fun statusMap id =>
    if statusMap.contains id || commited.contains id || outdated.contains id then statusMap
    else statusMap.set id (.ofStatus EventProcessingStatus.Done)) statusMap

/-- Whether a report replaces the current value of its entry; none if looking at them throws. -/
def replaces (current : Option Value) (update : Value) : Option Bool :=
  match current with
  | none => some true
  | some current =>
    if current.truthy then do
      let status ← current.get "status"
      if status.isOneOf [EventProcessingStatus.Error,EventProcessingStatus.Exceeded] then some false
      else do
        let reported ← update.get "status"
        env.ge status reported
    else some true

theorem ge_nat (left right : Nat) : env.ge (.nat left) (.nat right) = some (decide (right ≤ left)) := by
  simp only [Environment.ge,Value.nat,Js.Number.ge,Option.some.injEq]
  exact decide_eq_decide.mpr Rat.natCast_le_natCast

theorem determineAndAdd_eq (statusMap : Dict Value) (id : String) (statusOrUpdateData error : Value) :
    determineAndAddEventStatusToMap env statusMap id statusOrUpdateData error =
      (replaces env (statusMap.get? id) (updateDataOf statusOrUpdateData error)).map (fun replaced =>
        if replaced then statusMap.set id (updateDataOf statusOrUpdateData error) else statusMap) := by
  unfold determineAndAddEventStatusToMap replaces
  cases statusMap.get? id with
  | none => rfl
  | some current =>
    simp only
    split
    · cases current.get "status" with
      | none => rfl
      | some status =>
        simp only [Option.bind_eq_bind,Option.bind_some]
        split
        · rfl
        · cases (updateDataOf statusOrUpdateData error).get "status" with
          | none => rfl
          | some reported =>
            simp only [Option.bind_some]
            cases env.ge status reported <;> rfl
    · rfl

theorem determineAndAdd_get (statusMap next : Dict Value) (id : String) (statusOrUpdateData error : Value)
    (added : determineAndAddEventStatusToMap env statusMap id statusOrUpdateData error = some next) :
    next = statusMap ∧ (statusMap.get? id).isSome ∨ next = statusMap.set id (updateDataOf statusOrUpdateData error) := by
  rw [determineAndAdd_eq] at added
  obtain ⟨replaced,known,rfl⟩ := Option.map_eq_some_iff.mp added
  cases replaced with
  | true => exact Or.inr rfl
  | false =>
    refine Or.inl ⟨rfl,?_⟩
    cases found : statusMap.get? id with
    | none => simp [replaces,found] at known
    | some current => rfl

theorem addReports_get (statusMap : Dict Value) (reports : List Report) (id : String) (value : Value)
    (found : (addReports env statusMap reports).statusMap.get? id = some value) :
    statusMap.get? id = some value ∨
      ∃ report ∈ reports, report.id = id ∧ value = updateDataOf report.statusOrUpdateData report.error := by
  induction reports generalizing statusMap with
  | nil => exact Or.inl found
  | cons report rest ih =>
    simp only [addReports] at found
    split at found
    · exact Or.inl found
    · rename_i next added
      rcases ih next found with old | ⟨later,member,same⟩
      · rcases determineAndAdd_get env statusMap next _ _ _ added with ⟨rfl,_⟩ | rfl
        · exact Or.inl old
        · rw [Dict.get?_set] at old
          split at old
          · rename_i same
            cases old
            exact Or.inr ⟨report,by simp,same.symm,rfl⟩
          · exact Or.inl old
      · exact Or.inr ⟨later,by simp [member],same⟩

theorem addReports_keeps (statusMap : Dict Value) (reports : List Report) (id : String)
    (present : (statusMap.get? id).isSome) : ((addReports env statusMap reports).statusMap.get? id).isSome := by
  induction reports generalizing statusMap with
  | nil => exact present
  | cons report rest ih =>
    simp only [addReports]
    split
    · exact present
    · rename_i next added
      apply ih next
      rcases determineAndAdd_get env statusMap next _ _ _ added with ⟨rfl,_⟩ | rfl
      · exact present
      · rw [Dict.get?_set]
        split
        · rfl
        · exact present

theorem determineAndAdd_other (statusMap next : Dict Value) (report : Report) (id : String)
    (added : determineAndAddEventStatusToMap env statusMap report.id report.statusOrUpdateData report.error = some next)
    (other : id ≠ report.id) : next.get? id = statusMap.get? id := by
  rcases determineAndAdd_get env statusMap next _ _ _ added with ⟨rfl,_⟩ | rfl
  · rfl
  · rw [Dict.get?_set,if_neg other]

theorem addReports_other (statusMap : Dict Value) (reports : List Report) (id : String)
    (other : ∀ report ∈ reports, report.id ≠ id) :
    (addReports env statusMap reports).statusMap.get? id = statusMap.get? id := by
  induction reports generalizing statusMap with
  | nil => rfl
  | cons report rest ih =>
    simp only [addReports]
    split
    · rfl
    · rename_i next added
      refine (ih next (fun later member => other later (by simp [member]))).trans ?_
      exact determineAndAdd_other env statusMap next report id added (fun same => other report (by simp) same.symm)

theorem addReports_present (statusMap : Dict Value) (reports : List Report)
    (ok : (addReports env statusMap reports).ok = true) (report : Report) (member : report ∈ reports) :
    ((addReports env statusMap reports).statusMap.get? report.id).isSome := by
  induction reports generalizing statusMap with
  | nil => cases member
  | cons first rest ih =>
    simp only [addReports] at ok ⊢
    split at ok
    · cases ok
    · rename_i next added
      rcases List.mem_cons.mp member with rfl | later
      · apply addReports_keeps
        rcases determineAndAdd_get env statusMap next _ _ _ added with ⟨rfl,present⟩ | rfl
        · exact present
        · simp [Dict.get?_set]
      · exact ih next ok later

def Stands (status : Nat) (value : Value) : Prop :=
  ∃ data, normalizeEntry value = some data ∧ data.status = some (.nat status)

theorem stands_updateDataOf (status : Nat) (error : Value) : Stands status (updateDataOf (.nat status) error) := by
  unfold Stands updateDataOf Value.nat
  by_cases given : error.truthy
  · simp [given,normalizeEntry,Js.field]
  · simp [given,normalizeEntry,Js.field]

theorem errorReports_value {queueEntries : List String} {error value : Value} {id : String} {report : Report}
    (member : report ∈ errorReports queueEntries error) (same : report.id = id)
    (given : value = updateDataOf report.statusOrUpdateData report.error) :
    id ∈ queueEntries ∧ Stands EventProcessingStatus.Error value := by
  obtain ⟨entry,listed,rfl⟩ := List.mem_map.mp member
  subst same given
  exact ⟨listed,stands_updateDataOf _ _⟩

theorem setEventStatus_value (statusMap : Dict Value) (queueEntries : List String) (statusTuple : Value)
    (id : String) (value : Value)
    (found : (setEventStatus env statusMap queueEntries statusTuple).statusMap.get? id = some value) :
    statusMap.get? id = some value ∨ id ∈ queueEntries ∧ Stands EventProcessingStatus.Error value ∨
      ∃ report ∈ (reportsOf env statusTuple).1, report.id = id ∧
        value = updateDataOf report.statusOrUpdateData report.error := by
  unfold setEventStatus at found
  split at found
  · exact Or.inl found
  · split at found
    · simp only at found
      split at found
      · rcases addReports_get env _ _ _ _ found with old | reported
        · exact Or.inl old
        · exact Or.inr (Or.inr reported)
      · rcases addReports_get env _ _ _ _ found with old | ⟨report,member,same,given⟩
        · rcases addReports_get env _ _ _ _ old with older | reported
          · exact Or.inl older
          · exact Or.inr (Or.inr reported)
        · exact Or.inr (Or.inl (errorReports_value member same given))
    · rcases addReports_get env _ _ _ _ found with old | ⟨report,member,same,given⟩
      · exact Or.inl old
      · exact Or.inr (Or.inl (errorReports_value member same given))

theorem setEventStatus_get (statusMap : Dict Value) (queueEntries : List String) (statusTuple : Value)
    (id : String) (value : Value)
    (found : (setEventStatus env statusMap queueEntries statusTuple).statusMap.get? id = some value) :
    statusMap.get? id = some value ∨ id ∈ queueEntries ∨
      ∃ report ∈ (reportsOf env statusTuple).1, report.id = id := by
  rcases setEventStatus_value env statusMap queueEntries statusTuple id value found with old | own | ⟨report,member,same,_⟩
  · exact Or.inl old
  · exact Or.inr (Or.inl own.1)
  · exact Or.inr (Or.inr ⟨report,member,same⟩)

theorem errorStatusMap_get (queueEntries : List String) (error : Value) (id : String) (value : Value)
    (found : (errorStatusMap queueEntries error).get? id = some value) :
    id ∈ queueEntries ∧ Stands EventProcessingStatus.Error value := by
  rw [errorStatusMap,Dict.get?_setAll] at found
  split at found
  · rename_i listed
    cases found
    exact ⟨listed,_,rfl,rfl⟩
  · cases found

theorem addReports_accepted (statusMap : Dict Value) (reports : List Report) :
    addReports env statusMap (addReports env statusMap reports).reports =
      ⟨(addReports env statusMap reports).statusMap,(addReports env statusMap reports).reports,true⟩ := by
  induction reports generalizing statusMap with
  | nil => rfl
  | cons report rest ih =>
    simp only [addReports]
    split
    · rfl
    · rename_i next added
      simp only [addReports,added,ih next]

theorem addReports_append (statusMap middle : Dict Value) (first second : List Report)
    (complete : addReports env statusMap first = ⟨middle,first,true⟩) :
    addReports env statusMap (first ++ second) =
      {addReports env middle second with reports := first ++ (addReports env middle second).reports} := by
  induction first generalizing statusMap with
  | nil =>
    cases complete
    rfl
  | cons report rest ih =>
    simp only [addReports] at complete
    split at complete
    · cases complete
    · rename_i next added
      simp only [Added.mk.injEq,List.cons.injEq,true_and] at complete
      have tail : addReports env next rest = ⟨middle,rest,true⟩ := by
        obtain ⟨same,all,ok⟩ := complete
        rw [← same,← ok]
        exact congrArg (fun reports => Added.mk _ reports _) all
      simp only [List.cons_append,addReports,added,ih next tail]

def Logged (reports : List Report) (statusMap : Dict Value) : Prop :=
  addReports env Dict.empty reports = ⟨statusMap,reports,true⟩

theorem Logged.add {reports : List Report} {statusMap : Dict Value} (logged : Logged env reports statusMap)
    (more : List Report) :
    Logged env (reports ++ (addReports env statusMap more).reports) (addReports env statusMap more).statusMap := by
  unfold Logged
  rw [addReports_append env Dict.empty statusMap reports _ logged,addReports_accepted]

theorem Logged.setEventStatus {reports : List Report} {statusMap : Dict Value}
    (logged : Logged env reports statusMap) (queueEntries : List String) (statusTuple : Value) :
    Logged env (reports ++ (setEventStatus env statusMap queueEntries statusTuple).reports)
      (setEventStatus env statusMap queueEntries statusTuple).statusMap := by
  unfold EventQueue.setEventStatus
  split
  · simpa using logged
  · split
    · simp only
      split
      · exact logged.add env _
      · have both := (logged.add env (reportsOf env statusTuple).1).add env (errorReports queueEntries .undefined)
        simpa [Added.andThen] using both
    · exact logged.add env _

def aggregated (reports : List Report) (id : String) : Option Value :=
  (addReports env Dict.empty (reports.filter (fun report => report.id = id))).statusMap.get? id

theorem determineAndAdd_same (first second next : Dict Value) (id : String) (statusOrUpdateData error : Value)
    (same : first.get? id = second.get? id)
    (added : determineAndAddEventStatusToMap env first id statusOrUpdateData error = some next) :
    ∃ result, determineAndAddEventStatusToMap env second id statusOrUpdateData error = some result ∧
      result.get? id = next.get? id := by
  rw [determineAndAdd_eq] at added ⊢
  obtain ⟨replaced,known,rfl⟩ := Option.map_eq_some_iff.mp added
  refine ⟨_,by rw [← same,known]; rfl,?_⟩
  cases replaced with
  | true => simp [Dict.get?_set]
  | false => exact same.symm

theorem Logged.get {reports : List Report} {statusMap : Dict Value} (logged : Logged env reports statusMap)
    (id : String) : statusMap.get? id = aggregated env reports id := by
  have general : ∀ (rest : List Report) (first second final : Dict Value), first.get? id = second.get? id →
      addReports env first rest = ⟨final,rest,true⟩ →
      final.get? id = (addReports env second (rest.filter (fun report => report.id = id))).statusMap.get? id := by
    intro rest
    induction rest with
    | nil =>
      intro first second final same complete
      cases complete
      exact same
    | cons report rest ih =>
      intro first second final same complete
      have split : ∃ next, determineAndAddEventStatusToMap env first report.id report.statusOrUpdateData report.error =
          some next ∧ addReports env next rest = ⟨final,rest,true⟩ := by
        simp only [addReports] at complete
        split at complete
        · cases complete
        · rename_i next added
          simp only [Added.mk.injEq,List.cons.injEq,true_and] at complete
          obtain ⟨last,all,ok⟩ := complete
          refine ⟨next,added,?_⟩
          rw [← last,← ok]
          exact congrArg (fun reports => Added.mk _ reports _) all
      obtain ⟨next,added,remaining⟩ := split
      by_cases own : report.id = id
      · subst own
        obtain ⟨result,again,equal⟩ := determineAndAdd_same env first second next _ _ _ same added
        simp only [List.filter_cons,decide_true,if_true,addReports,again]
        exact ih next result final equal.symm remaining
      · have kept := determineAndAdd_other env first next report id added (fun equal => own equal.symm)
        simp only [List.filter_cons,own,decide_false,Bool.false_eq_true,if_false]
        exact ih next second final (kept.trans same) remaining
  exact general reports Dict.empty Dict.empty statusMap rfl logged

/-- Services that agree with the language on strings, whole numbers and plain arrays. -/
def Environment.plain : Environment where
  stringify _ := some ""
  forEach _ := ([],false)
  propertyKey
    | .str text => some text
    | _ => none
  greaterOrEqual _ _ := some false
  text
    | .num (.finite number) => some (toString number.num.toNat)
    | .str text => some text
    | _ => none
  text_nat number := by simp [Value.nat]
  error2String error := some error
  typeError := .obj []
  parseDate _ := none

end EventQueue

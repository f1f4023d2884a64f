import EventQueue.PersistEventStatus

/-! Status data whose update can be built. Its grouping key, its error text and its start date all
exist, so a map of such data opens its transaction and every group of it can be written. -/
namespace EventQueue
open Js (Value)

variable {env : Environment}

def invalidDate : Option Value → Bool
  | some (.date none) => true
  | _ => false

/-- An error value that has no text, or a start date that is an invalid `Date`. -/
def UpdateData.malformed (env : Environment) (data : UpdateData) : Bool :=
  (errorOf env data.error).isNone || invalidDate data.startAfter

def UpdateData.persistable (env : Environment) (data : UpdateData) : Bool :=
  !data.malformed env && (groupKey env data).isSome

theorem startAfterOf_isSome (retry : RetryConfig) (now status : Nat) {startAfter : Option Value}
    (valid : invalidDate startAfter = false) : (startAfterOf env retry now status startAfter).isSome = true := by
  unfold startAfterOf
  split
  · split
    · rfl
    · rename_i invalid
      obtain ⟨value,given,normal⟩ := Option.bind_eq_some_iff.mp invalid
      obtain ⟨rfl,_⟩ := Option.filter_eq_some_iff.mp given
      cases value with
      | date time =>
        cases normal
        cases valid
      | str text => simp [normalizeDate] at normal
      | num number => simp [normalizeDate] at normal
      | _ => cases normal
    · rfl
  · rfl

/-- Only an invalid date that is to be kept throws. -/
theorem startAfterOf_isSome_iff (retry : RetryConfig) (now status : Nat) (startAfter : Option Value) :
    (startAfterOf env retry now status startAfter).isSome = true ↔
      (status = EventProcessingStatus.Open ∨ status = EventProcessingStatus.Error → invalidDate startAfter = false) := by
  by_cases kept : status = EventProcessingStatus.Open ∨ status = EventProcessingStatus.Error
  · refine ⟨fun given _ => ?_,fun valid => startAfterOf_isSome retry now status (valid kept)⟩
    by_contra invalid
    unfold invalidDate at invalid
    split at invalid
    · simp [startAfterOf,kept,Option.filter,Value.truthy,normalizeDate] at given
    · exact invalid rfl
  · simp [startAfterOf,kept]

theorem persistable_iff {data : UpdateData} : data.persistable env = true ↔
    (errorOf env data.error).isSome = true ∧ invalidDate data.startAfter = false ∧ (groupKey env data).isSome = true := by
  simp [UpdateData.persistable,UpdateData.malformed,Option.isSome_iff_ne_none,and_assoc]

theorem update_isSome (retry : RetryConfig) (now timestamp status : Nat) {group : Group}
    (persistable : group.data.persistable env = true) :
    (group.update env retry now timestamp status).isSome = true := by
  obtain ⟨error,date,_⟩ := persistable_iff.mp persistable
  obtain ⟨text,known⟩ := Option.isSome_iff_exists.mp error
  obtain ⟨start,given⟩ := Option.isSome_iff_exists.mp (@startAfterOf_isSome env retry now status _ date)
  simp [Group.update,known,given]

theorem writeNext_persistable (retry : RetryConfig) (now : Nat) {tx : StatusTx} (more : tx.groups ≠ [])
    (persistable : ∀ group ∈ tx.groups, group.data.persistable env = true) :
    ∃ next, tx.writeNext env retry now = some next ∧ next.groups ⊆ tx.groups := by
  obtain ⟨timestamp,groups,updates⟩ := tx
  cases groups with
  | nil => exact absurd rfl more
  | cons group rest =>
    simp only [StatusTx.writeNext]
    cases numbered : group.data.statusNumber with
    | none => exact ⟨_,rfl,List.subset_cons_self group rest⟩
    | some status =>
      obtain ⟨update,built⟩ := Option.isSome_iff_exists.mp
        (update_isSome retry now timestamp status (persistable group (by simp)))
      simp only [built,Option.map_some]
      exact ⟨_,rfl,List.subset_cons_self group rest⟩

theorem groupUpdates_isSome (entries : List (String × UpdateData)) (groups : List Group)
    (keyed : ∀ entry ∈ entries, (groupKey env entry.2).isSome = true) :
    (groupUpdates env entries groups).isSome = true := by
  induction entries generalizing groups with
  | nil => rfl
  | cons entry rest ih =>
    obtain ⟨key,known⟩ := Option.isSome_iff_exists.mp (keyed entry (by simp))
    simp only [groupUpdates,known,Option.bind_some]
    exact ih _ (fun other member => keyed other (by simp [member]))

theorem persistable_ofStatus (status : Nat) : (UpdateData.ofStatus status).persistable env = true := by
  have text : fieldText env (some (Value.nat status)) = some (toString status) := env.text_nat status
  have absent : fieldText env none = some "" := rfl
  rw [persistable_iff]
  refine ⟨rfl,rfl,?_⟩
  simp only [groupKey,UpdateData.ofStatus,text,absent]
  rfl

theorem open_persistable (now : Nat) {checked : Dict UpdateData}
    (persistable : ∀ id data, checked.get? id = some data → data.persistable env = true) :
    ∃ tx, StatusTx.open env now checked = some tx ∧ ∀ group ∈ tx.groups, group.data.persistable env = true := by
  have grouped : (groupUpdates env checked.entries []).isSome = true := by
    apply groupUpdates_isSome
    intro entry member
    exact (persistable_iff.mp (persistable entry.1 entry.2 (Dict.mem_entries.mp member))).2.2
  obtain ⟨groups,joined⟩ := Option.isSome_iff_exists.mp grouped
  have collected := groupUpdates_collected env checked.entries [] [] groups ⟨by simp,by simp,by simp⟩ joined
  refine ⟨⟨now,groups,[]⟩,by simp [StatusTx.open,joined],?_⟩
  intro group member
  obtain ⟨id,here,_⟩ := collected.data group member
  exact persistable id group.data (Dict.mem_entries.mp (by simpa using here))

/-- An object with this status whose update can be built. -/
structure Persists (env : Environment) (status : Nat) (value : Value) : Prop where
  truthy : value.truthy = true
  code : value.get "status" = some (.nat status)
  allowed : status ∈ allowedStatuses
  data : ∃ data, normalizeEntry value = some data ∧ data.status = some (.nat status) ∧ data.persistable env = true

theorem Persists.stands {status : Nat} {value : Value} (persists : Persists env status value) : Stands status value := by
  obtain ⟨data,normal,same,_⟩ := persists.data
  exact ⟨data,normal,same⟩

/-- What an error of this value stores for an entry. -/
def thrownData (error : Value) : UpdateData := ⟨some (.nat EventProcessingStatus.Error),none,some error,none⟩

theorem persists_status {status : Nat} (allowed : status ∈ allowedStatuses) :
    Persists env status (updateDataOf (.nat status) .undefined) :=
  ⟨rfl,rfl,allowed,_,rfl,rfl,persistable_ofStatus status⟩

theorem persists_error {error : Value} (persistable : (thrownData error).persistable env = true) :
    Persists env EventProcessingStatus.Error
      (.obj [("status",.nat EventProcessingStatus.Error),("error",error)]) :=
  ⟨rfl,rfl,error_allowed,_,rfl,rfl,persistable⟩

theorem persists_thrown {error : Value} (persistable : (thrownData error).persistable env = true) :
    Persists env EventProcessingStatus.Error (updateDataOf (.nat EventProcessingStatus.Error) error) := by
  by_cases given : error.truthy
  · simpa [updateDataOf,Value.nat,given] using persists_error persistable
  · have plain : updateDataOf (.nat EventProcessingStatus.Error) error =
        updateDataOf (.nat EventProcessingStatus.Error) .undefined := by
      simp [updateDataOf,Value.nat,given,show Value.undefined.truthy = false from rfl]
    rw [plain]
    exact persists_status error_allowed

def reportedStatus (value : Value) : Option Nat := (normalizeEntry value).bind UpdateData.statusNumber

theorem persists_reported {status : Nat} {value : Value} {data : UpdateData} (normal : normalizeEntry value = some data)
    (numbered : data.statusNumber = some status) (persistable : data.persistable env = true) :
    Persists env status (updateDataOf value .undefined) := by
  obtain ⟨allowed,same⟩ := (statusNumber_iff data status).mp numbered
  cases value with
  | num number =>
    cases normal
    cases same
    exact ⟨rfl,rfl,allowed,_,rfl,rfl,persistable⟩
  | obj fields =>
    cases normal
    refine ⟨rfl,?_,allowed,_,rfl,same,persistable⟩
    rw [show (updateDataOf (.obj fields) .undefined) = .obj fields from rfl,Value.get,
      show Js.field fields "status" = some (.nat status) from same]
    rfl
  | null => cases normal
  | _ =>
    cases normal
    cases same

section
variable {meant : String → Nat → Prop}

/-- Every value of the map can be written and has a status meant for its entry. -/
def SoundMap (env : Environment) (meant : String → Nat → Prop) (statusMap : Dict Value) : Prop :=
  ∀ id value, statusMap.get? id = some value → ∃ status, Persists env status value ∧ meant id status

def SoundReports (env : Environment) (meant : String → Nat → Prop) (reports : List Report) : Prop :=
  ∀ report ∈ reports, ∃ status, Persists env status (updateDataOf report.statusOrUpdateData report.error) ∧
    meant report.id status

theorem replaces_isSome {current update : Value} {status reported : Nat} (present : Persists env status current)
    (new : Persists env reported update) : (replaces env (some current) update).isSome = true := by
  simp only [replaces,present.truthy,if_true,present.code,Option.bind_eq_bind,Option.bind_some]
  split
  · rfl
  · simp [new.code,ge_nat]

theorem addReports_ok {statusMap : Dict Value} {reports : List Report} (known : SoundMap env meant statusMap)
    (given : SoundReports env meant reports) : (addReports env statusMap reports).ok = true := by
  induction reports generalizing statusMap with
  | nil => rfl
  | cons report rest ih =>
    obtain ⟨reported,new,wanted⟩ := given report (by simp)
    have replaced : (replaces env (statusMap.get? report.id)
        (updateDataOf report.statusOrUpdateData report.error)).isSome = true := by
      cases found : statusMap.get? report.id with
      | none => rfl
      | some current =>
        obtain ⟨status,present,_⟩ := known report.id current found
        exact replaces_isSome present new
    obtain ⟨decision,decided⟩ := Option.isSome_iff_exists.mp replaced
    have added := determineAndAdd_eq env statusMap report.id report.statusOrUpdateData report.error
    rw [decided,Option.map_some] at added
    simp only [addReports,added]
    refine ih ?_ (fun other member => given other (by simp [member]))
    intro id value found
    split at found
    · rw [Dict.get?_set] at found
      split at found
      · rename_i same
        cases found
        exact ⟨reported,new,same ▸ wanted⟩
      · exact known id value found
    · exact known id value found

theorem addReports_sound {statusMap : Dict Value} {reports : List Report} (known : SoundMap env meant statusMap)
    (given : SoundReports env meant reports) : SoundMap env meant (addReports env statusMap reports).statusMap := by
  intro id value found
  rcases addReports_get env _ _ _ _ found with old | ⟨report,member,rfl,rfl⟩
  · exact known id value old
  · exact given report member

/-- A transaction whose groups can all be written and whose writes are meant. -/
structure SoundTx (env : Environment) (meant : String → Nat → Prop) (tx : StatusTx) : Prop where
  groups : ∀ group ∈ tx.groups, group.data.persistable env = true
  writes : ∀ id status, (id,status) ∈ tx.writes → meant id status

theorem normalizeStatusMap_sound {statusMap : Dict Value} (sound : SoundMap env meant statusMap) :
    ∃ normalized, normalizeStatusMap statusMap = some normalized := by
  have all : statusMap.entries.all (fun entry => (normalizeEntry entry.2).isSome) = true := by
    rw [List.all_eq_true]
    intro entry member
    obtain ⟨status,persists,_⟩ := sound entry.1 entry.2 (Dict.mem_entries.mp member)
    obtain ⟨data,normal,_⟩ := persists.data
    rw [normal]
    rfl
  exact ⟨_,if_pos all⟩

theorem SoundMap.entry {statusMap : Dict Value} (sound : SoundMap env meant statusMap) {id : String} {data : UpdateData}
    (found : (statusMap.get? id).bind normalizeEntry = some data) :
    ∃ status, data.statusNumber = some status ∧ data.persistable env = true ∧ meant id status := by
  obtain ⟨value,present,normal⟩ := Option.bind_eq_some_iff.mp found
  obtain ⟨status,persists,wanted⟩ := sound id value present
  obtain ⟨known,again,same,persistable⟩ := persists.data
  rw [normal,Option.some.injEq] at again
  subst again
  exact ⟨status,(statusNumber_iff data status).mpr ⟨persists.allowed,same⟩,persistable,wanted⟩

/-- A sound map opens its transaction, which writes every selected entry of the map. -/
theorem SoundMap.opens {statusMap : Dict Value} (sound : SoundMap env meant statusMap) (now : Nat)
    (selectedEventMap : List String) :
    ∃ tx, (persistChecked selectedEventMap statusMap).bind (StatusTx.open env now) = some tx ∧ SoundTx env meant tx ∧
      ∀ id ∈ selectedEventMap, (statusMap.get? id).isSome = true → ∃ status, (id,status) ∈ tx.writes := by
  obtain ⟨normalized,known⟩ := normalizeStatusMap_sound sound
  obtain ⟨checked,done⟩ : ∃ checked, persistChecked selectedEventMap statusMap = some checked := by
    simp [persistChecked,known]
  have spec := persistChecked_get _ _ _ done
  obtain ⟨tx,opened,groups⟩ := open_persistable now (fun id data found => by
    obtain ⟨_,_,persistable,_⟩ := sound.entry ((spec id data).mp found).2.2
    exact persistable)
  have writes := open_writes env now checked tx (fun id data found => ((spec id data).mp found).2.1) opened
  refine ⟨tx,by rw [done,Option.bind_some,opened],⟨groups,?_⟩,?_⟩
  · intro id status planned
    obtain ⟨data,found,numbered⟩ := (writes id status).mp planned
    obtain ⟨own,same,_,wanted⟩ := sound.entry ((spec id data).mp found).2.2
    rw [numbered,Option.some.injEq] at same
    exact same ▸ wanted
  · intro id listed present
    obtain ⟨value,found⟩ := Option.isSome_iff_exists.mp present
    obtain ⟨_,persists,_⟩ := sound id value found
    obtain ⟨data,normal,_⟩ := persists.data
    have bound : (statusMap.get? id).bind normalizeEntry = some data := by rw [found,Option.bind_some,normal]
    obtain ⟨status,numbered,_⟩ := sound.entry bound
    exact ⟨status,(writes id status).mpr ⟨data,(spec id data).mpr ⟨listed,
      (hasStatus_allowed_iff data).mpr ⟨status,numbered⟩,bound⟩,numbered⟩⟩

/-- The same for the final transaction, which also writes the entries without a status. -/
theorem SoundMap.fills {statusMap : Dict Value} (sound : SoundMap env meant statusMap) (now : Nat)
    {selectedEventMap queueEntries commited outdated : List String} (selected : queueEntries ⊆ selectedEventMap)
    (filled : ∀ id ∈ queueEntries, statusMap.get? id = none → id ∉ commited → meant id EventProcessingStatus.Done) :
    ∃ tx, (persistFilled selectedEventMap queueEntries commited outdated statusMap).bind (StatusTx.open env now) =
      some tx ∧ SoundTx env meant tx := by
  obtain ⟨normalized,known⟩ := normalizeStatusMap_sound sound
  obtain ⟨checked,done⟩ : ∃ checked, persistFilled selectedEventMap queueEntries commited outdated statusMap =
      some checked := by
    simp [persistFilled,known]
  have spec := persistFilled_get _ _ _ _ _ _ done selected
  have entry : ∀ id data, checked.get? id = some data →
      ∃ status, data.statusNumber = some status ∧ data.persistable env = true ∧ meant id status := by
    intro id data found
    rcases (spec id data).mp found with ⟨_,_,bound⟩ | ⟨absent,listed,fresh,_,rfl⟩
    · exact sound.entry bound
    · refine ⟨EventProcessingStatus.Done,?_,persistable_ofStatus _,filled id listed absent fresh⟩
      exact (statusNumber_iff _ _).mpr ⟨done_allowed,rfl⟩
  obtain ⟨tx,opened,groups⟩ := open_persistable now (fun id data found => by
    obtain ⟨_,_,persistable,_⟩ := entry id data found
    exact persistable)
  have writes := open_writes env now checked tx (fun id data found => by
    obtain ⟨status,numbered,_⟩ := entry id data found
    exact (hasStatus_allowed_iff data).mpr ⟨status,numbered⟩) opened
  refine ⟨tx,by rw [done,Option.bind_some,opened],groups,?_⟩
  intro id status planned
  obtain ⟨data,found,numbered⟩ := (writes id status).mp planned
  obtain ⟨own,same,_,wanted⟩ := entry id data found
  rw [numbered,Option.some.injEq] at same
  exact same ▸ wanted

theorem SoundTx.writeNext {tx : StatusTx} (sound : SoundTx env meant tx) (retry : RetryConfig) (now : Nat)
    (more : tx.groups ≠ []) : ∃ next, tx.writeNext env retry now = some next ∧ SoundTx env meant next := by
  obtain ⟨next,moved,fewer⟩ := writeNext_persistable retry now more sound.groups
  refine ⟨next,moved,fun group member => sound.groups group (fewer member),?_⟩
  rw [writeNext_writes env retry now tx next moved]
  exact sound.writes

end

end EventQueue

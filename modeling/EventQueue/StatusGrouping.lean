import EventQueue.EventTable

/-! `persistEventStatus` on a whole status map beside `persistEventStatus` on each of its entries alone. Entries are
grouped by the joined texts of their fields, and a group writes what its first entry says. -/
namespace EventQueue.StatusGrouping
open Js (Value)

inductive StartAfter
  /-- A `Date` object; an invalid one has no time. -/
  | date (time : Option Int)
  | text (value : String)
  | number (value : Js.Number)

def StartAfter.value : StartAfter → Value
  | .date time => .date time
  | .text value => .str value
  | .number value => .num value

structure Reported where
  status : Nat
  allowed : status ∈ allowedStatuses
  startAfter : Option StartAfter
  error : Option Value

def Reported.value (reported : Reported) : Value :=
  .obj (("status",.nat reported.status)::
    (reported.startAfter.toList.map (fun startAfter => ("startAfter",startAfter.value)) ++
      reported.error.toList.map (fun error => ("error",error))))

def Reported.data (reported : Reported) : UpdateData :=
  ⟨some (.nat reported.status),reported.startAfter.map StartAfter.value,reported.error,none⟩

/-- The columns that status updates touch. -/
structure StoredRow extends Row where
  error : Value

/-- Undefined is written as null. -/
def stored : Value → Value
  | .undefined => .null
  | value => value

def applyUpdate (row : StoredRow) (update : Update) : StoredRow :=
  ⟨update.apply row.toRow,if row.ID ∈ update.ids then (update.error.map stored).getD row.error else row.error⟩

section
variable (env : Environment) (retry : RetryConfig) (now timestamp : Nat)

/-- The loop over the groups; none if building an update throws. -/
def writeGroups : List Group → Option (List Update)
  | [] => some []
  | group::rest =>
    match group.data.statusNumber with
    | none => writeGroups rest
    | some status => (group.update env retry now timestamp status).bind (fun update =>
        (writeGroups rest).map (fun updates => update::updates))

/-- The updates of `persistEventStatus` with `skipChecks`; none if it throws. -/
def updatesOf (selectedEventMap : List String) (statusMap : Dict Value) : Option (List Update) :=
  ((persistChecked selectedEventMap statusMap).bind (StatusTx.open env timestamp)).bind (fun tx =>
    writeGroups env retry now timestamp tx.groups)

/-- The table after the transaction; one that throws is rolled back. -/
def persistEventStatus (selectedEventMap : List String) (statusMap : Dict Value) (table : List StoredRow) :
    List StoredRow :=
  match updatesOf env retry now timestamp selectedEventMap statusMap with
  | none => table
  | some updates => table.map (fun row => updates.foldl applyUpdate row)

def single (id : String) (value : Value) : Dict Value := ⟨[(id,value)],List.nodup_singleton _⟩

def persistEach (selectedEventMap : List String) (statusMap : Dict Value) (table : List StoredRow) : List StoredRow :=
  statusMap.entries.foldl (fun table entry =>
    persistEventStatus env retry now timestamp selectedEventMap (single entry.1 entry.2) table) table

/-- What an entry sets on its own: `startAfter` and the serialised error; none if its text, its date or its
serialisation throws. -/
def changeOf (reported : Reported) : Option (Option Int × Option Value) :=
  (groupKey env reported.data).bind (fun _ => (errorOf env reported.error).bind (fun error =>
    (startAfterOf env retry now reported.status reported.data.startAfter).map (fun startAfter =>
      (startAfter,error.map stored))))

/-- Either no entry can be written, or all can be and those with one key set the same. -/
def Compatible (reports : Dict Reported) : Prop :=
  (∀ entry ∈ reports.entries, changeOf env retry now entry.2 = none) ∨
    (∀ entry ∈ reports.entries, (changeOf env retry now entry.2).isSome) ∧
      ∀ entry ∈ reports.entries, ∀ other ∈ reports.entries,
        groupKey env entry.2.data = groupKey env other.2.data →
          changeOf env retry now entry.2 = changeOf env retry now other.2

end

def StoredRow.write (row : StoredRow) (timestamp status : Nat) (change : Option Int × Option Value) : StoredRow :=
  ⟨⟨row.ID,status,some timestamp,if status = EventProcessingStatus.Open then row.attempts - 1 else row.attempts,
    change.1.or row.startAfter⟩,change.2.getD row.error⟩

theorem Reported.normalized (reported : Reported) : normalizeEntry reported.value = some reported.data := by
  cases start : reported.startAfter <;> cases error : reported.error <;>
    simp [Reported.value,Reported.data,normalizeEntry,Js.field,start,error]

theorem Reported.statusNumber (reported : Reported) : reported.data.statusNumber = some reported.status :=
  (statusNumber_iff _ _).mpr ⟨reported.allowed,rfl⟩

section
variable {env : Environment} {retry : RetryConfig} {now timestamp : Nat}

theorem update_thrown (timestamp : Nat) (key : String) (ids : List String) (reported : Reported)
    (thrown : (Group.mk key reported.data ids).update env retry now timestamp reported.status = none) :
    changeOf env retry now reported = none := by
  simp only [Group.update,Option.bind_eq_bind,Option.bind_eq_none_iff] at thrown
  simp only [changeOf,Option.bind_eq_none_iff,Option.map_eq_none_iff]
  intro _ _ error serialised
  cases start : startAfterOf env retry now reported.status reported.data.startAfter with
  | none => rfl
  | some startAfter => cases thrown error serialised startAfter start

theorem update_written {timestamp : Nat} {key : String} {ids : List String} {reported : Reported} {update : Update}
    (keyed : groupKey env reported.data = some key)
    (built : (Group.mk key reported.data ids).update env retry now timestamp reported.status = some update) :
    ∃ change, changeOf env retry now reported = some change ∧
      ∀ row, applyUpdate row update = if row.ID ∈ ids then row.write timestamp reported.status change else row := by
  obtain ⟨error,serialised,built⟩ := Option.bind_eq_some_iff.mp built
  obtain ⟨startAfter,start,built⟩ := Option.bind_eq_some_iff.mp built
  cases built
  have serialised : errorOf env reported.error = some error := serialised
  refine ⟨(startAfter,error.map stored),by simp [changeOf,keyed,serialised,start],?_⟩
  intro row
  by_cases listed : row.ID ∈ ids
  · simp [applyUpdate,Update.apply,StoredRow.write,listed]
  · simp [applyUpdate,Update.apply,listed]

theorem normalizeStatusMap_map {α : Type} {value : α → Value} {data : α → UpdateData}
    (normal : ∀ item, normalizeEntry (value item) = some (data item)) (items : Dict α) :
    normalizeStatusMap (items.map value) = some (items.map data) := by
  unfold normalizeStatusMap
  rw [if_pos]
  · simp only [Option.some.injEq,Dict.map,Dict.mk.injEq,List.map_map]
    apply List.map_congr_left
    intro entry _
    simp [normal]
  · simp [Dict.map,normal]

/-- Of a map with allowed statuses only the selected entries are left. -/
theorem persistChecked_map {α : Type} {value : α → Value} {data : α → UpdateData}
    (normal : ∀ item, normalizeEntry (value item) = some (data item))
    (allowed : ∀ item, (data item).hasStatus allowedStatuses = true) (selectedEventMap : List String)
    (items : Dict α) : persistChecked selectedEventMap (items.map value) =
      some ((items.filter (fun id _ => selectedEventMap.contains id)).map data) := by
  rw [persistChecked,normalizeStatusMap_map normal,Option.map_some,Option.some.injEq]
  simp [ensureEveryStatusIsAllowed,ensureOnlySelectedQueueEntries,Dict.filter,Dict.map,List.filter_map,
    Function.comp_def,allowed]

theorem Reported.allowed_data (reported : Reported) : reported.data.hasStatus allowedStatuses = true :=
  (hasStatus_allowed_iff _).mpr ⟨_,reported.statusNumber⟩

theorem persistChecked_reports (reports : Dict Reported) (selectedEventMap : List String)
    (selected : ∀ id ∈ reports.keys, id ∈ selectedEventMap) :
    persistChecked selectedEventMap (reports.map Reported.value) = some (reports.map Reported.data) := by
  have whole : reports.filter (fun id _ => selectedEventMap.contains id) = reports := by
    obtain ⟨entries,nodup⟩ := reports
    simp only [Dict.filter,Dict.mk.injEq]
    refine List.filter_eq_self.mpr (fun entry member => ?_)
    simpa using selected entry.1 (List.mem_map_of_mem member)
  rw [persistChecked_map Reported.normalized Reported.allowed_data,whole]

theorem key_status {first second : Reported} {key : String} (one : groupKey env first.data = some key)
    (other : groupKey env second.data = some key) : first.status = second.status := by
  have numbers := groupKey_determines_status env first.data second.data key one other
    first.allowed_data second.allowed_data
  rw [first.statusNumber,second.statusNumber] at numbers
  exact Option.some.inj numbers

variable (env) in
def Carries (entries : List (String × Reported)) (group : Group) (reported : Reported) : Prop :=
  (∃ id, (id,reported) ∈ entries) ∧ group.data = reported.data ∧ groupKey env reported.data = some group.key

/-- The groups of a status map: none iff the text of some entry throws. -/
theorem groupUpdates_eq_none (entries : List (String × UpdateData)) (before : List Group)
    (thrown : groupUpdates env entries before = none) : ∃ entry ∈ entries, groupKey env entry.2 = none := by
  induction entries generalizing before with
  | nil => cases thrown
  | cons entry rest ih =>
    cases keyed : groupKey env entry.2 with
    | none => exact ⟨entry,by simp,keyed⟩
    | some key =>
      simp only [groupUpdates,keyed,Option.bind_some] at thrown
      obtain ⟨other,member,none⟩ := ih _ thrown
      exact ⟨other,by simp [member],none⟩

theorem mem_addToGroup {groups : List Group} {key id : String} {data : UpdateData} {group : Group}
    (member : group ∈ addToGroup groups key id data) :
    (∃ old ∈ groups, old.key = group.key ∧ old.data = group.data) ∨
      ((∀ old ∈ groups, old.key ≠ key) ∧ group.key = key ∧ group.data = data) := by
  unfold addToGroup at member
  split at member
  · obtain ⟨old,inside,rfl⟩ := List.mem_map.mp member
    refine Or.inl ⟨old,inside,?_⟩
    split <;> exact ⟨rfl,rfl⟩
  · rename_i absent
    rcases List.mem_append.mp member with inside | last
    · exact Or.inl ⟨group,inside,rfl,rfl⟩
    · obtain rfl := List.mem_singleton.mp last
      refine Or.inr ⟨fun old inside same => absent ?_,rfl,rfl⟩
      exact List.any_eq_true.mpr ⟨old,inside,by simp [same]⟩

theorem addToGroup_named (groups : List Group) (key id : String) (data : UpdateData) :
    (∃ group ∈ addToGroup groups key id data, group.key = key) ∧
      ∀ old ∈ groups, ∃ group ∈ addToGroup groups key id data, group.key = old.key := by
  unfold addToGroup
  split
  · rename_i present
    have kept (old : Group) (inside : old ∈ groups) :
        ∃ group ∈ groups.map (fun group => if group.key = key then {group with ids := group.ids ++ [id]} else group),
          group.key = old.key := by
      refine ⟨_,List.mem_map_of_mem inside,?_⟩
      split <;> rfl
    obtain ⟨old,inside,same⟩ := List.any_eq_true.mp present
    obtain ⟨group,member,named⟩ := kept old inside
    exact ⟨⟨group,member,named.trans (by simpa using same)⟩,kept⟩
  · exact ⟨⟨⟨key,data,[id]⟩,by simp,rfl⟩,fun old inside => ⟨old,by simp [inside],rfl⟩⟩

/-- A new group carries the data of the first entry with its key. -/
theorem groupUpdates_first {entries : List (String × UpdateData)} {before groups : List Group}
    (grouped : groupUpdates env entries before = some groups) {group : Group} (member : group ∈ groups) :
    (∃ old ∈ before, old.key = group.key ∧ old.data = group.data) ∨
      ((∀ old ∈ before, old.key ≠ group.key) ∧
        ∃ id, entries.find? (fun entry => groupKey env entry.2 = some group.key) = some (id,group.data)) := by
  induction entries generalizing before with
  | nil =>
    cases grouped
    exact Or.inl ⟨group,member,rfl,rfl⟩
  | cons entry rest ih =>
    obtain ⟨key,joined,remaining⟩ := Option.bind_eq_some_iff.mp grouped
    obtain ⟨⟨own,listed,named⟩,kept⟩ := addToGroup_named before key entry.1 entry.2
    rcases ih remaining with ⟨old,inside,sameKey,sameData⟩ | ⟨absent,id,found⟩
    · rcases mem_addToGroup inside with ⟨older,earlier,olderKey,olderData⟩ | ⟨new,newKey,newData⟩
      · exact Or.inl ⟨older,earlier,olderKey.trans sameKey,olderData.trans sameData⟩
      · have here : groupKey env entry.2 = some group.key := by rw [joined,← newKey,sameKey]
        refine Or.inr ⟨fun older earlier same => new older earlier (same.trans (sameKey.symm.trans newKey)),entry.1,?_⟩
        rw [List.find?_cons_of_pos (by simpa using here),← sameData,newData]
    · have other : groupKey env entry.2 ≠ some group.key := by
        rw [joined]
        intro same
        exact absent own listed (named.trans (Option.some.inj same))
      refine Or.inr ⟨fun old inside same => ?_,id,?_⟩
      · obtain ⟨again,listed,named⟩ := kept old inside
        exact absent again listed (named.trans same)
      · rw [List.find?_cons_of_neg (by simpa using other),found]

theorem writeGroups_isSome_iff (groups : List Group) :
    (writeGroups env retry now timestamp groups).isSome = true ↔ ∀ group ∈ groups, ∀ status,
      group.data.statusNumber = some status → (group.update env retry now timestamp status).isSome = true := by
  induction groups with
  | nil => simp [writeGroups]
  | cons group rest ih =>
    rw [List.forall_mem_cons,← ih,writeGroups]
    cases numbered : group.data.statusNumber with
    | none => simp
    | some status =>
      simp only [Option.some.injEq,forall_eq']
      cases group.update env retry now timestamp status with
      | none => simp
      | some update => simp

theorem groupUpdates_keys (entries : List (String × UpdateData)) (before groups : List Group)
    (distinct : (before.map Group.key).Nodup) (grouped : groupUpdates env entries before = some groups) :
    (groups.map Group.key).Nodup := by
  induction entries generalizing before with
  | nil =>
    cases grouped
    exact distinct
  | cons entry rest ih =>
    obtain ⟨key,_,remaining⟩ := Option.bind_eq_some_iff.mp grouped
    exact ih _ (addToGroup_keys before key entry.1 entry.2 distinct) remaining

theorem changeOf_unkeyed {reported : Reported} (thrown : groupKey env reported.data = none) :
    changeOf env retry now reported = none := by
  rw [changeOf,thrown,Option.bind_none]

theorem writeGroups_none {entries : List (String × Reported)} {groups : List Group}
    (carried : ∀ group ∈ groups, ∃ reported, Carries env entries group reported)
    (thrown : writeGroups env retry now timestamp groups = none) :
    ∃ entry ∈ entries, changeOf env retry now entry.2 = none := by
  induction groups with
  | nil => cases thrown
  | cons group rest ih =>
    obtain ⟨reported,⟨id,listed⟩,same,_⟩ := carried group (by simp)
    obtain ⟨key,data,ids⟩ := group
    subst same
    simp only [writeGroups,reported.statusNumber,Option.bind_eq_none_iff,Option.map_eq_none_iff] at thrown
    cases built : (Group.mk key reported.data ids).update env retry now timestamp reported.status with
    | none => exact ⟨(id,reported),listed,update_thrown timestamp key ids reported built⟩
    | some update => exact ih (fun other member => carried other (by simp [member])) (thrown update built)

/-- The update of a group: it sets a change of the entry the group carries. -/
structure Wrote (env : Environment) (retry : RetryConfig) (now timestamp : Nat) (entries : List (String × Reported))
    (group : Group) (update : Update) (change : Option Int × Option Value) : Prop where
  ids : update.ids = group.ids
  rows : ∃ reported, Carries env entries group reported ∧ changeOf env retry now reported = some change ∧
    ∀ row, applyUpdate row update = if row.ID ∈ group.ids then row.write timestamp reported.status change else row

theorem writeGroups_some {entries : List (String × Reported)} {groups : List Group}
    (carried : ∀ group ∈ groups, ∃ reported, Carries env entries group reported) {updates : List Update}
    (done : writeGroups env retry now timestamp groups = some updates) :
    written updates = groups.flatMap Group.ids ∧ ∀ group ∈ groups, ∃ update ∈ updates, ∃ change,
      Wrote env retry now timestamp entries group update change := by
  induction groups generalizing updates with
  | nil =>
    cases done
    simp [written]
  | cons group rest ih =>
    obtain ⟨reported,listed,same,keyed⟩ := carried group (by simp)
    obtain ⟨key,data,ids⟩ := group
    subst same
    simp only [writeGroups,reported.statusNumber] at done
    obtain ⟨update,built,done⟩ := Option.bind_eq_some_iff.mp done
    obtain ⟨later,remaining,rfl⟩ := Option.map_eq_some_iff.mp done
    obtain ⟨change,changed,rows⟩ := update_written keyed built
    obtain ⟨names,_⟩ := update_spec env retry now timestamp _ _ update built
    obtain ⟨others,each⟩ := ih (fun other member => carried other (by simp [member])) remaining
    constructor
    · simp only [written,List.flatMap_cons,names] at others ⊢
      rw [others]
    · intro group member
      rcases List.mem_cons.mp member with rfl | inside
      · exact ⟨update,by simp,change,names,reported,⟨listed,rfl,keyed⟩,changed,rows⟩
      · obtain ⟨found,here,rest⟩ := each group inside
        exact ⟨found,by simp [here],rest⟩

theorem changes_of_groups {entries : List (String × Reported)} {groups : List Group} {updates : List Update}
    (distinct : (groups.map Group.key).Nodup)
    (each : ∀ group ∈ groups, ∃ update ∈ updates, ∃ change, Wrote env retry now timestamp entries group update change) :
    ∃ changes : String → Option Int × Option Value, ∀ group ∈ groups, ∃ update ∈ updates,
      Wrote env retry now timestamp entries group update (changes group.key) := by
  have byKey : ∀ key, ∃ change, ∀ group ∈ groups, group.key = key → ∃ update ∈ updates,
      Wrote env retry now timestamp entries group update change := by
    intro key
    by_cases present : ∃ group ∈ groups, group.key = key
    · obtain ⟨group,member,named⟩ := present
      obtain ⟨update,here,change,wrote⟩ := each group member
      refine ⟨change,?_⟩
      intro other inside same
      rw [List.inj_on_of_nodup_map distinct inside member (same.trans named.symm)]
      exact ⟨update,here,wrote⟩
    · exact ⟨(none,none),fun group member named => absurd ⟨group,member,named⟩ present⟩
  choose changes spec using byKey
  exact ⟨changes,fun group member => spec group.key group member rfl⟩

/-- A status transaction that writes group by group arrives at the updates of the loop. -/
theorem writeGroups_step {tx next : StatusTx} (moved : tx.writeNext env retry now = some next) :
    (writeGroups env retry now next.timestamp next.groups).map (fun later => next.updates ++ later) =
      (writeGroups env retry now tx.timestamp tx.groups).map (fun later => tx.updates ++ later) := by
  obtain ⟨timestamp,groups,updates⟩ := tx
  cases groups with
  | nil => cases moved
  | cons group rest =>
    simp only [StatusTx.writeNext] at moved
    split at moved
    · rename_i absent
      cases moved
      simp [writeGroups,absent]
    · rename_i status present
      obtain ⟨update,built,rfl⟩ := Option.map_eq_some_iff.mp moved
      simp [writeGroups,present,built,Function.comp_def]

theorem writeGroups_stuck {tx : StatusTx} (stuck : tx.writeNext env retry now = none) :
    tx.groups = [] ∨ writeGroups env retry now tx.timestamp tx.groups = none := by
  obtain ⟨timestamp,groups,updates⟩ := tx
  cases groups with
  | nil => exact Or.inl rfl
  | cons group rest =>
    right
    simp only [StatusTx.writeNext] at stuck
    split at stuck
    · cases stuck
    · rename_i status present
      simp [writeGroups,present,Option.map_eq_none_iff.mp stuck]

theorem applyUpdate_ID (row : StoredRow) (update : Update) : (applyUpdate row update).ID = row.ID :=
  apply_ID [update] row.toRow

theorem applyUpdate_other (row : StoredRow) (update : Update) (other : row.ID ∉ update.ids) :
    applyUpdate row update = row := by
  simp [applyUpdate,Update.apply,other]

section
variable {Writer : Type} {names : Writer → List String} {write : StoredRow → Writer → StoredRow}

theorem foldl_unnamed (skips : ∀ row writer, row.ID ∉ names writer → write row writer = row) (writers : List Writer)
    (row : StoredRow) (other : row.ID ∉ writers.flatMap names) : writers.foldl write row = row := by
  induction writers with
  | nil => rfl
  | cons writer rest ih =>
    rw [List.flatMap_cons,List.mem_append,not_or] at other
    rw [List.foldl_cons,skips row writer other.1]
    exact ih other.2

theorem foldl_named (keeps : ∀ row writer, (write row writer).ID = row.ID)
    (skips : ∀ row writer, row.ID ∉ names writer → write row writer = row) (writers : List Writer) (row : StoredRow)
    (once : (writers.flatMap names).Nodup) {writer : Writer} (member : writer ∈ writers)
    (listed : row.ID ∈ names writer) : writers.foldl write row = write row writer := by
  induction writers with
  | nil => cases member
  | cons first rest ih =>
    rw [List.flatMap_cons] at once
    obtain ⟨_,later,apart⟩ := List.nodup_append.mp once
    rw [List.foldl_cons]
    rcases List.mem_cons.mp member with rfl | inside
    · apply foldl_unnamed skips
      rw [keeps]
      intro again
      exact apart _ listed _ again rfl
    · have skipped : row.ID ∉ names first := by
        intro here
        exact apart _ here _ (List.mem_flatMap.mpr ⟨writer,inside,listed⟩) rfl
      rw [skips row first skipped]
      exact ih later inside

end

theorem groups_carry {reports : Dict Reported} {groups : List Group}
    (collected : Collected env (reports.map Reported.data).entries groups) :
    ∀ group ∈ groups, ∃ reported, Carries env reports.entries group reported := by
  intro group member
  obtain ⟨id,listed,keyed⟩ := collected.data group member
  obtain ⟨given,inside,same⟩ := List.mem_map.mp listed
  obtain ⟨rfl,data⟩ := Prod.mk.inj same
  exact ⟨given.2,⟨given.1,inside⟩,data.symm,data ▸ keyed⟩

theorem group_of_entry {reports : Dict Reported} {groups : List Group}
    (collected : Collected env (reports.map Reported.data).entries groups) {entry : String × Reported}
    (member : entry ∈ reports.entries) :
    ∃ group ∈ groups, entry.1 ∈ group.ids ∧ groupKey env entry.2.data = some group.key := by
  obtain ⟨group,inside,listed⟩ := collected.covered _ (List.mem_map_of_mem member)
  obtain ⟨data,found,keyed⟩ := collected.ids group inside entry.1 listed
  have given : reports.get? entry.1 = some entry.2 := Dict.mem_entries.mp member
  rw [Dict.mem_entries,Dict.get?_map,given] at found
  exact ⟨group,inside,listed,Option.some.inj found ▸ keyed⟩

/-- What the updates of a whole map do: a row it names gets the change of an entry with the key of its own. -/
structure ByKey (env : Environment) (retry : RetryConfig) (now timestamp : Nat) (reports : Dict Reported)
    (updates : List Update) (changes : String → Option Int × Option Value) : Prop where
  others : ∀ row : StoredRow, row.ID ∉ reports.keys → updates.foldl applyUpdate row = row
  named : ∀ entry ∈ reports.entries, ∃ key, groupKey env entry.2.data = some key ∧
    (∃ other ∈ reports.entries, groupKey env other.2.data = some key ∧
      changeOf env retry now other.2 = some (changes key)) ∧
    ∀ row : StoredRow, row.ID = entry.1 →
      updates.foldl applyUpdate row = row.write timestamp entry.2.status (changes key)

theorem writeGroups_byKey {reports : Dict Reported} {groups : List Group} {updates : List Update}
    (grouped : groupUpdates env (reports.map Reported.data).entries [] = some groups)
    (collected : Collected env (reports.map Reported.data).entries groups)
    (done : writeGroups env retry now timestamp groups = some updates) :
    ∃ changes, ByKey env retry now timestamp reports updates changes := by
  have ids := groupUpdates_ids env _ [] groups List.nodup_nil grouped
  have keys : (reports.map Reported.data).entries.map Prod.fst = reports.keys := by
    simp [Dict.map,Dict.keys]
  rw [List.flatMap_nil,List.append_nil,keys] at ids
  obtain ⟨names,each⟩ := writeGroups_some (groups_carry collected) done
  have once : (written updates).Nodup := names ▸ ids.nodup_iff.mpr reports.nodup
  obtain ⟨changes,spec⟩ := changes_of_groups (groupUpdates_keys _ [] groups List.nodup_nil grouped) each
  refine ⟨changes,?_,?_⟩
  · intro row absent
    apply foldl_unnamed applyUpdate_other
    intro named
    exact absent (ids.mem_iff.mp (names ▸ named))
  · intro entry member
    obtain ⟨group,inside,listed,keyed⟩ := group_of_entry collected member
    obtain ⟨update,here,same,reported,⟨⟨id,source⟩,_,key⟩,changed,rows⟩ := spec group inside
    refine ⟨group.key,keyed,⟨(id,reported),source,key,changed⟩,?_⟩
    intro row named
    have own : row.ID ∈ group.ids := named ▸ listed
    rw [foldl_named applyUpdate_ID applyUpdate_other updates row once here (same ▸ own),rows row,if_pos own,
      key_status key keyed]

/-- The whole map either fails for some entry of it or is written key by key. -/
theorem updatesOf_cases (reports : Dict Reported) (selectedEventMap : List String)
    (selected : ∀ id ∈ reports.keys, id ∈ selectedEventMap) :
    (updatesOf env retry now timestamp selectedEventMap (reports.map Reported.value) = none ∧
      ∃ entry ∈ reports.entries, changeOf env retry now entry.2 = none) ∨
    ∃ updates changes, updatesOf env retry now timestamp selectedEventMap (reports.map Reported.value) = some updates ∧
      ByKey env retry now timestamp reports updates changes := by
  rw [updatesOf,persistChecked_reports reports selectedEventMap selected,Option.bind_some,StatusTx.open]
  cases grouped : groupUpdates env (reports.map Reported.data).entries [] with
  | none =>
    obtain ⟨entry,member,thrown⟩ := groupUpdates_eq_none _ _ grouped
    obtain ⟨given,listed,rfl⟩ := List.mem_map.mp member
    exact Or.inl ⟨rfl,given,listed,changeOf_unkeyed thrown⟩
  | some groups =>
    have collected : Collected env (reports.map Reported.data).entries groups := by
      simpa using groupUpdates_collected env _ [] [] groups ⟨by simp,by simp,by simp⟩ grouped
    simp only [Option.map_some,Option.bind_some]
    cases done : writeGroups env retry now timestamp groups with
    | none => exact Or.inl ⟨rfl,writeGroups_none (groups_carry collected) done⟩
    | some updates =>
      obtain ⟨changes,byKey⟩ := writeGroups_byKey grouped collected done
      exact Or.inr ⟨updates,changes,rfl,byKey⟩

variable (env retry now timestamp) in
def alone (row : StoredRow) (entry : String × Reported) : StoredRow :=
  match changeOf env retry now entry.2 with
  | none => row
  | some change => if row.ID = entry.1 then row.write timestamp entry.2.status change else row

theorem persist_single (selectedEventMap : List String) (entry : String × Reported)
    (selected : entry.1 ∈ selectedEventMap) (table : List StoredRow) :
    persistEventStatus env retry now timestamp selectedEventMap (single entry.1 entry.2.value) table =
      table.map (fun row => alone env retry now timestamp row entry) := by
  let reports : Dict Reported := ⟨[entry],List.nodup_singleton _⟩
  have named : ∀ id ∈ reports.keys, id ∈ selectedEventMap := by simpa [reports,Dict.keys] using selected
  have same : reports.map Reported.value = single entry.1 entry.2.value := rfl
  unfold persistEventStatus
  rw [← same]
  rcases @updatesOf_cases env retry now timestamp reports selectedEventMap named with
    ⟨thrown,other,member,unwritable⟩ | ⟨updates,changes,built,byKey⟩
  · rw [List.mem_singleton] at member
    subst member
    simp [thrown,alone,unwritable]
  · obtain ⟨key,_,⟨other,member,_,changed⟩,rows⟩ := byKey.named entry (by simp [reports])
    rw [List.mem_singleton] at member
    subst member
    rw [built]
    apply List.map_congr_left
    intro row _
    by_cases named : row.ID = other.1
    · rw [rows row named]
      simp [alone,changed,named]
    · rw [byKey.others row (by simpa [reports,Dict.keys] using named)]
      simp [alone,changed,named]

theorem alone_ID (row : StoredRow) (entry : String × Reported) :
    (alone env retry now timestamp row entry).ID = row.ID := by
  unfold alone
  split
  · rfl
  · split <;> rfl

theorem alone_other (row : StoredRow) (entry : String × Reported) (other : row.ID ∉ [entry.1]) :
    alone env retry now timestamp row entry = row := by
  rw [List.mem_singleton] at other
  unfold alone
  split <;> simp [other]

theorem persistEach_eq (selectedEventMap : List String) (reports : Dict Reported)
    (selected : ∀ id ∈ reports.keys, id ∈ selectedEventMap) (table : List StoredRow) :
    persistEach env retry now timestamp selectedEventMap (reports.map Reported.value) table =
      table.map (fun row => reports.entries.foldl (alone env retry now timestamp) row) := by
  obtain ⟨entries,nodup⟩ := reports
  simp only [persistEach,Dict.map,List.foldl_map]
  simp only [Dict.keys] at selected
  clear nodup
  induction entries generalizing table with
  | nil => simp
  | cons entry rest ih =>
    rw [List.foldl_cons,persist_single selectedEventMap entry (selected _ (by simp)),
      ih _ (fun id member => selected id (by simp [member])),List.map_map]
    rfl

theorem foldl_alone_other {reports : Dict Reported} {row : StoredRow} (other : row.ID ∉ reports.keys) :
    reports.entries.foldl (alone env retry now timestamp) row = row := by
  apply foldl_unnamed alone_other
  rw [← List.map_eq_flatMap]
  exact other

theorem foldl_alone_named {reports : Dict Reported} {row : StoredRow} {entry : String × Reported}
    (member : entry ∈ reports.entries) (named : row.ID = entry.1) :
    reports.entries.foldl (alone env retry now timestamp) row = alone env retry now timestamp row entry := by
  have once : (reports.entries.flatMap (fun entry => [entry.1])).Nodup := by
    rw [← List.map_eq_flatMap]
    exact reports.nodup
  exact foldl_named alone_ID alone_other reports.entries row once member (by simp [named])

theorem write_injective {timestamp status : Nat} {first second : Option Int × Option Value} {id : String}
    (same : ∀ row : StoredRow, row.ID = id → row.write timestamp status first = row.write timestamp status second) :
    first = second := by
  have blank := same ⟨⟨id,0,none,0,none⟩,.null⟩ rfl
  have marked := same ⟨⟨id,0,none,0,none⟩,.bool true⟩ rfl
  simp only [StoredRow.write,StoredRow.mk.injEq,Row.mk.injEq,Option.or_none,true_and] at blank marked
  apply Prod.ext
  · exact blank.1
  · have blank := blank.2
    have marked := marked.2
    revert blank marked
    cases first.2 <;> cases second.2 <;> simp <;> intro one other <;> cases one <;> cases other

theorem agree_iff_rows (selectedEventMap : List String) (reports : Dict Reported)
    (selected : ∀ id ∈ reports.keys, id ∈ selectedEventMap) :
    (∀ table, persistEventStatus env retry now timestamp selectedEventMap (reports.map Reported.value) table =
      persistEach env retry now timestamp selectedEventMap (reports.map Reported.value) table) ↔
    ∀ row : StoredRow, (match updatesOf env retry now timestamp selectedEventMap (reports.map Reported.value) with
      | none => row
      | some updates => updates.foldl applyUpdate row) = reports.entries.foldl (alone env retry now timestamp) row := by
  simp only [persistEach_eq selectedEventMap reports selected,persistEventStatus]
  constructor
  · intro same row
    have one := same [row]
    split
    · rename_i thrown
      simpa [thrown] using one
    · rename_i updates built
      simpa [built] using one
  · intro same table
    split
    · rename_i thrown
      simp only [thrown] at same
      calc table = table.map id := (List.map_id table).symm
        _ = _ := List.map_congr_left (fun row _ => same row)
    · rename_i updates built
      simp only [built] at same
      exact List.map_congr_left (fun row _ => same row)

theorem rows_of_compatible {selectedEventMap : List String} {reports : Dict Reported}
    (selected : ∀ id ∈ reports.keys, id ∈ selectedEventMap) (compatible : Compatible env retry now reports)
    (row : StoredRow) :
    (match updatesOf env retry now timestamp selectedEventMap (reports.map Reported.value) with
      | none => row
      | some updates => updates.foldl applyUpdate row) = reports.entries.foldl (alone env retry now timestamp) row := by
  by_cases named : row.ID ∈ reports.keys
  · obtain ⟨entry,member,same⟩ := List.mem_map.mp named
    rw [foldl_alone_named member same.symm]
    rcases @updatesOf_cases env retry now timestamp reports selectedEventMap selected with
      ⟨thrown,other,inside,unwritable⟩ | ⟨updates,changes,built,byKey⟩
    · rcases compatible with none | ⟨all,_⟩
      · simp [thrown,alone,none entry member]
      · simpa [unwritable] using all other inside
    · obtain ⟨key,keyed,⟨other,inside,its,changed⟩,rows⟩ := byKey.named entry member
      rw [built]
      rcases compatible with none | ⟨_,agree⟩
      · rw [none other inside] at changed
        cases changed
      · have own := (agree entry member other inside (keyed.trans its.symm)).trans changed
        simp [rows row same.symm,alone,own,same]
  · rw [foldl_alone_other named]
    rcases @updatesOf_cases env retry now timestamp reports selectedEventMap selected with
      ⟨thrown,_⟩ | ⟨updates,changes,built,byKey⟩
    · rw [thrown]
    · rw [built]
      exact byKey.others row named

def untried (id : String) : StoredRow := ⟨⟨id,EventProcessingStatus.Open,none,0,none⟩,.null⟩

theorem compatible_of_rows {selectedEventMap : List String} {reports : Dict Reported}
    (selected : ∀ id ∈ reports.keys, id ∈ selectedEventMap)
    (same : ∀ row : StoredRow, (match updatesOf env retry now timestamp selectedEventMap (reports.map Reported.value) with
      | none => row
      | some updates => updates.foldl applyUpdate row) = reports.entries.foldl (alone env retry now timestamp) row) :
    Compatible env retry now reports := by
  have own : ∀ entry ∈ reports.entries, ∀ row : StoredRow, row.ID = entry.1 →
      reports.entries.foldl (alone env retry now timestamp) row = alone env retry now timestamp row entry :=
    fun _ member _ named => foldl_alone_named member named
  rcases @updatesOf_cases env retry now timestamp reports selectedEventMap selected with
    ⟨thrown,_⟩ | ⟨updates,changes,built,byKey⟩
  · left
    intro entry member
    have kept := (same (untried entry.1)).trans (own entry member _ rfl)
    cases changed : changeOf env retry now entry.2 with
    | none => rfl
    | some change =>
      rw [thrown] at kept
      simp [alone,changed,untried,StoredRow.write] at kept
  · have change : ∀ entry ∈ reports.entries, ∃ key, groupKey env entry.2.data = some key ∧
        changeOf env retry now entry.2 = some (changes key) := by
      intro entry member
      obtain ⟨key,keyed,_,rows⟩ := byKey.named entry member
      refine ⟨key,keyed,?_⟩
      rw [built] at same
      cases changed : changeOf env retry now entry.2 with
      | none =>
        have kept := (rows (untried entry.1) rfl).symm.trans ((same _).trans (own entry member _ rfl))
        simp [alone,changed,untried,StoredRow.write] at kept
      | some change =>
        congr 1
        apply write_injective
        intro row named
        have equal := (rows row named).symm.trans ((same row).trans (own entry member row named))
        simpa [alone,changed,named] using equal.symm
    right
    constructor
    · intro entry member
      obtain ⟨key,_,changed⟩ := change entry member
      simp [changed]
    · intro entry member other inside keys
      obtain ⟨key,keyed,changed⟩ := change entry member
      obtain ⟨name,named,altered⟩ := change other inside
      rw [keyed,named,Option.some.injEq] at keys
      rw [changed,altered,keys]

theorem grouped_updates_equal_single_updates_iff (env : Environment) (retry : RetryConfig) (now timestamp : Nat)
    (selectedEventMap : List String) (reports : Dict Reported)
    (selected : ∀ id ∈ reports.keys, id ∈ selectedEventMap) :
    (∀ table, persistEventStatus env retry now timestamp selectedEventMap (reports.map Reported.value) table =
      persistEach env retry now timestamp selectedEventMap (reports.map Reported.value) table) ↔
    Compatible env retry now reports := by
  rw [agree_iff_rows selectedEventMap reports selected]
  constructor
  · intro same
    exact compatible_of_rows selected same
  · intro compatible
    exact rows_of_compatible selected compatible

end

/-- Services that agree with the language also on objects: every text is the same, the serialisations differ. -/
def services : Environment where
  stringify := Environment.plain.stringify
  forEach := Environment.plain.forEach
  propertyKey := Environment.plain.propertyKey
  greaterOrEqual := Environment.plain.greaterOrEqual
  text
    | .obj _ => some "[object Object]"
    | value => Environment.plain.text value
  text_nat number := Environment.plain.text_nat number
  error2String
    | .obj [(name,.num (.finite number))] =>
      some (.str ("\x7b\"" ++ name ++ "\":" ++ toString number.num ++ "\x7d"))
    | _ => none
  typeError := Environment.plain.typeError
  parseDate := Environment.plain.parseDate

def failed (code : Nat) : Reported :=
  ⟨EventProcessingStatus.Error,by decide,none,some (.obj [("code",.nat code)])⟩

def done : Reported := ⟨EventProcessingStatus.Done,by decide,none,none⟩

theorem grouped_updates_equal_single_updates_two_statuses :
    let reports : Dict Reported := ⟨[("first",done),("second",failed 1)],by decide⟩
    Compatible services ⟨1000,2000⟩ 50 reports ∧
      ∀ table, persistEventStatus services ⟨1000,2000⟩ 50 40 ["first","second"] (reports.map Reported.value) table =
        persistEach services ⟨1000,2000⟩ 50 40 ["first","second"] (reports.map Reported.value) table := by
  intro reports
  have compatible : Compatible services ⟨1000,2000⟩ 50 reports := by
    refine Or.inr ⟨?_,?_⟩
    · intro entry member
      simp only [reports,List.mem_cons,List.not_mem_nil,or_false] at member
      rcases member with rfl | rfl
      · rfl
      · rfl
    · intro entry member other inside
      simp only [reports,List.mem_cons,List.not_mem_nil,or_false] at member inside
      rcases member with rfl | rfl <;> rcases inside with rfl | rfl
      · intro _
        rfl
      · intro same
        exact absurd same (by decide)
      · intro same
        exact absurd same (by decide)
      · intro _
        rfl
  exact ⟨compatible,(grouped_updates_equal_single_updates_iff services ⟨1000,2000⟩ 50 40 ["first","second"] reports
    (by decide)).mpr compatible⟩

theorem grouped_updates_mix_up_errors :
    let statusMap := Dict.map ⟨[("first",failed 1),("second",failed 2)],by decide⟩ Reported.value
    let table := [untried "first",untried "second"]
    (persistEventStatus services ⟨1000,2000⟩ 50 40 ["first","second"] statusMap table).map StoredRow.error =
        [.str "\x7b\"code\":1\x7d",.str "\x7b\"code\":1\x7d"] ∧
      (persistEach services ⟨1000,2000⟩ 50 40 ["first","second"] statusMap table).map StoredRow.error =
        [.str "\x7b\"code\":1\x7d",.str "\x7b\"code\":2\x7d"] ∧
      persistEventStatus services ⟨1000,2000⟩ 50 40 ["first","second"] statusMap table ≠
        persistEach services ⟨1000,2000⟩ 50 40 ["first","second"] statusMap table := by
  intro statusMap table
  have together : (persistEventStatus services ⟨1000,2000⟩ 50 40 ["first","second"] statusMap table).map
      StoredRow.error = [.str "\x7b\"code\":1\x7d",.str "\x7b\"code\":1\x7d"] := rfl
  have apart : (persistEach services ⟨1000,2000⟩ 50 40 ["first","second"] statusMap table).map
      StoredRow.error = [.str "\x7b\"code\":1\x7d",.str "\x7b\"code\":2\x7d"] := rfl
  refine ⟨together,apart,?_⟩
  intro same
  rw [same,apart] at together
  simp at together

end EventQueue.StatusGrouping

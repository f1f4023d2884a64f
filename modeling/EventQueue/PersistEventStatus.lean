import EventQueue.StatusMap
import Mathlib.Tactic

/-! `persistEventStatus`: entries with equal update data share one update. A status
transaction first checks the map, then writes group by group and finally commits. -/
namespace EventQueue
open Js (Value)

variable (env : Environment)

structure Group where
  key : String
  data : UpdateData
  ids : List String

/-- The text of a field in the joined key; what is missing is the empty string. -/
def fieldText : Option Value → Option String
  | none => some ""
  | some .undefined => some ""
  | some .null => some ""
  | some value => env.text value

def groupKey (data : UpdateData) : Option String := do
  let status ← fieldText env data.status
  let startAfter ← fieldText env data.startAfter
  let error ← fieldText env data.error
  let nextData ← fieldText env data.nextData
  some ("##".intercalate ["status",status,"startAfter",startAfter,"error",error,"nextData",nextData])

def addToGroup (groups : List Group) (key id : String) (data : UpdateData) : List Group :=
  if groups.any (fun group => group.key == key) then
    groups.map (fun group => if group.key = key then {group with ids := group.ids ++ [id]} else group)
  else groups ++ [⟨key,data,[id]⟩]

def groupUpdates : List (String × UpdateData) → List Group → Option (List Group)
  | [],groups => some groups
  | (id,data)::rest,groups => (groupKey env data).bind (fun key => groupUpdates rest (addToGroup groups key id data))

def UpdateData.statusNumber (data : UpdateData) : Option Nat :=
  allowedStatuses.find? (fun status => data.hasStatus [status])

structure Update where
  ids : List String
  status : Nat
  startAfter : Option Int
  error : Option Value
  nextData : Option Value
  /-- `attempts: { "-=": 1 }`. -/
  attemptTakenBack : Bool
  lastAttemptTimestamp : Nat

structure RetryConfig where
  retryFailedAfter : Nat
  retryOpenAfter : Nat

/-- `#normalizeDate`: none for null, an inner none for an invalid `Date` object. -/
def normalizeDate : Value → Option (Option Int)
  | .date time => some time
  | .str text => (env.parseDate (.str text)).map some
  | .num number => (env.parseDate (.num number)).map some
  | _ => none

/-- The `startAfter` an update sets; scheduling an invalid date throws. -/
def startAfterOf (retry : RetryConfig) (now status : Nat) (startAfter : Option Value) : Option (Option Int) :=
  if status = EventProcessingStatus.Open ∨ status = EventProcessingStatus.Error then
    match (startAfter.filter Value.truthy).bind (normalizeDate env) with
    | none => some (some (now +
        (if status = EventProcessingStatus.Error then retry.retryFailedAfter else retry.retryOpenAfter)))
    | some none => none
    | some (some time) => some (some time)
  else some none

def errorOf : Option Value → Option (Option Value)
  | none => some none
  | some error => if error.truthy then (env.error2String error).map some else some (some error)

/-- The `SET` clause built for one group; none if building it throws. -/
def Group.update (retry : RetryConfig) (now timestamp status : Nat) (group : Group) : Option Update := do
  let error ← errorOf env group.data.error
  let startAfter ← startAfterOf env retry now status group.data.startAfter
  some ⟨group.ids,status,startAfter,error,group.data.nextData,
    decide (status = EventProcessingStatus.Open),timestamp⟩

/-- A status transaction under way: groups still to write and updates written. -/
structure StatusTx where
  timestamp : Nat
  groups : List Group
  updates : List Update

/-- The checks of `persistEventStatus` with `skipChecks`, up to the grouped updates. -/
def persistChecked (selectedEventMap : List String) (statusMap : Dict Value) : Option (Dict UpdateData) :=
  (normalizeStatusMap statusMap).map (fun normalized =>
    ensureEveryStatusIsAllowed (ensureOnlySelectedQueueEntries selectedEventMap normalized))

/-- The checks of the final `persistEventStatus`, which also fills in missing entries. -/
def persistFilled (selectedEventMap queueEntries commited outdated : List String) (statusMap : Dict Value) :
    Option (Dict UpdateData) :=
  (normalizeStatusMap statusMap).map (fun normalized =>
    ensureEveryStatusIsAllowed (ensureEveryQueueEntryHasStatus queueEntries commited outdated
      (ensureOnlySelectedQueueEntries selectedEventMap normalized)))

def StatusTx.open (timestamp : Nat) (checked : Dict UpdateData) : Option StatusTx :=
  (groupUpdates env checked.entries []).map (fun groups => ⟨timestamp,groups,[]⟩)

/-- What a group or an update sets: each of its ids with the status. -/
def Group.writes (group : Group) : List (String × Nat) :=
  match group.data.statusNumber with
  | some status => group.ids.map (fun id => (id,status))
  | none => []

def Update.writes (update : Update) : List (String × Nat) := update.ids.map (fun id => (id,update.status))

/-- All status changes of a transaction, written or still to come. -/
def StatusTx.writes (tx : StatusTx) : List (String × Nat) :=
  tx.updates.flatMap Update.writes ++ tx.groups.flatMap Group.writes

/-- The ids whose bookkeeping the next group changes; a group without status is passed over. -/
def StatusTx.nextIds (tx : StatusTx) : List String :=
  match tx.groups with
  | [] => []
  | group::_ => if group.data.statusNumber.isSome then group.ids else []

/-- Writes the next group; none if building its update throws. -/
def StatusTx.writeNext (retry : RetryConfig) (now : Nat) (tx : StatusTx) : Option StatusTx :=
  match tx.groups with
  | [] => none
  | group::rest =>
    match group.data.statusNumber with
    | none => some {tx with groups := rest}
    | some status => (group.update env retry now tx.timestamp status).map
        (fun update => {tx with groups := rest,updates := tx.updates ++ [update]})

def written (updates : List Update) : List String := updates.flatMap Update.ids

theorem mem_written_append (first second : List Update) (id : String) :
    id ∈ written (first ++ second) ↔ id ∈ written first ∨ id ∈ written second := by
  simp [written]

theorem mem_written_iff (tx : StatusTx) (done : tx.groups = []) (id : String) :
    id ∈ written tx.updates ↔ ∃ status, (id,status) ∈ tx.writes := by
  simp [written,StatusTx.writes,done,Update.writes]

theorem written_writes (tx : StatusTx) (id : String) (listed : id ∈ written tx.updates) :
    ∃ status, (id,status) ∈ tx.writes := by
  obtain ⟨update,member,inside⟩ := List.mem_flatMap.mp listed
  exact ⟨update.status,List.mem_append_left _ (List.mem_flatMap.mpr ⟨update,member,List.mem_map_of_mem inside⟩)⟩

theorem mem_writes_of_update {tx : StatusTx} {update : Update} {id : String} (member : update ∈ tx.updates)
    (listed : id ∈ update.ids) : (id,update.status) ∈ tx.writes := by
  refine List.mem_append_left _ (List.mem_flatMap.mpr ⟨update,member,?_⟩)
  exact List.mem_map_of_mem listed

theorem hasStatus_iff (data : UpdateData) (candidates : List Nat) :
    data.hasStatus candidates = true ↔ ∃ status ∈ candidates, data.status = some (.nat status) := by
  unfold UpdateData.hasStatus
  split
  · rename_i value present
    constructor
    · intro included
      obtain ⟨status,member,rfl⟩ := Js.isOneOf_exists included
      exact ⟨status,member,present⟩
    · rintro ⟨status,member,same⟩
      rw [present] at same
      cases same
      simp [Js.isOneOf_nat,member]
  · rename_i absent
    simp [absent]

theorem nat_injective {first second : Nat} (same : Value.nat first = Value.nat second) : first = second := by
  simpa [Value.nat] using same

theorem statusNumber_iff (data : UpdateData) (status : Nat) :
    data.statusNumber = some status ↔ status ∈ allowedStatuses ∧ data.status = some (.nat status) := by
  unfold UpdateData.statusNumber
  constructor
  · intro found
    have matched : data.hasStatus [status] = true := by simpa using List.find?_some found
    obtain ⟨other,single,present⟩ := (hasStatus_iff data [status]).mp matched
    rw [List.mem_singleton] at single
    exact ⟨List.mem_of_find?_eq_some found,single ▸ present⟩
  · rintro ⟨member,present⟩
    have included : (allowedStatuses.find? (fun other => data.hasStatus [other])).isSome := by
      rw [List.find?_isSome]
      exact ⟨status,member,(hasStatus_iff _ _).mpr ⟨status,by simp,present⟩⟩
    obtain ⟨other,found⟩ := Option.isSome_iff_exists.mp included
    have matched : data.hasStatus [other] = true := by simpa using List.find?_some found
    obtain ⟨number,single,same⟩ := (hasStatus_iff data [other]).mp matched
    rw [List.mem_singleton] at single
    subst single
    rw [present] at same
    rw [found,nat_injective (Option.some.inj same)]

theorem hasStatus_allowed_iff (data : UpdateData) :
    data.hasStatus allowedStatuses = true ↔ ∃ status, data.statusNumber = some status := by
  simp only [hasStatus_iff,statusNumber_iff]

theorem groupKey_status (data : UpdateData) (key : String) (status : Nat)
    (joined : groupKey env data = some key) (numbered : data.statusNumber = some status) :
    key.toList[8]? = (toString status).toList[0]? := by
  obtain ⟨allowed,present⟩ := (statusNumber_iff data status).mp numbered
  have text : fieldText env data.status = some (toString status) := by
    rw [present]
    exact env.text_nat status
  simp only [groupKey,text,Option.bind_eq_bind,Option.bind_some] at joined
  obtain ⟨startAfter,_,joined⟩ := Option.bind_eq_some_iff.mp joined
  obtain ⟨error,_,joined⟩ := Option.bind_eq_some_iff.mp joined
  obtain ⟨nextData,_,joined⟩ := Option.bind_eq_some_iff.mp joined
  cases joined
  simp only [allowedStatuses,List.mem_cons,List.not_mem_nil,or_false] at allowed
  rcases allowed with rfl | rfl | rfl | rfl <;> simp [String.intercalate_cons_cons,String.toList_append] <;> rfl

theorem groupKey_determines_status (first second : UpdateData) (key : String)
    (one : groupKey env first = some key) (other : groupKey env second = some key)
    (left : first.hasStatus allowedStatuses = true) (right : second.hasStatus allowedStatuses = true) :
    first.statusNumber = second.statusNumber := by
  obtain ⟨status,numbered⟩ := (hasStatus_allowed_iff first).mp left
  obtain ⟨number,counted⟩ := (hasStatus_allowed_iff second).mp right
  have texts := (groupKey_status env first key status one numbered).symm.trans
    (groupKey_status env second key number other counted)
  have members := ((statusNumber_iff first status).mp numbered).1
  have others := ((statusNumber_iff second number).mp counted).1
  rw [numbered,counted]
  revert texts
  simp only [allowedStatuses,List.mem_cons,List.not_mem_nil,or_false] at members others
  rcases members with rfl | rfl | rfl | rfl <;> rcases others with rfl | rfl | rfl | rfl <;> decide

/-- The groups collect exactly the given entries, each under the key of its data. -/
structure Collected (entries : List (String × UpdateData)) (groups : List Group) : Prop where
  ids : ∀ group ∈ groups, ∀ id ∈ group.ids, ∃ data, (id,data) ∈ entries ∧ groupKey env data = some group.key
  data : ∀ group ∈ groups, ∃ id, (id,group.data) ∈ entries ∧ groupKey env group.data = some group.key
  covered : ∀ entry ∈ entries, ∃ group ∈ groups, entry.1 ∈ group.ids

theorem Collected.add {entries : List (String × UpdateData)} {groups : List Group}
    (collected : Collected env entries groups) (key id : String) (data : UpdateData)
    (joined : groupKey env data = some key) :
    Collected env (entries ++ [(id,data)]) (addToGroup groups key id data) := by
  unfold addToGroup
  split
  · rename_i present
    refine ⟨?_,?_,?_⟩
    · intro group member name listed
      obtain ⟨other,inside,rfl⟩ := List.mem_map.mp member
      split at listed
      · rename_i same
        rcases List.mem_append.mp listed with old | new
        · obtain ⟨found,here,its⟩ := collected.ids other inside name old
          exact ⟨found,List.mem_append_left _ here,by simpa [same] using its⟩
        · rw [List.mem_singleton] at new
          exact ⟨data,by simp [new],by simp [same,joined]⟩
      · rename_i differ
        obtain ⟨found,here,its⟩ := collected.ids other inside name listed
        exact ⟨found,List.mem_append_left _ here,by simpa [differ] using its⟩
    · intro group member
      obtain ⟨other,inside,rfl⟩ := List.mem_map.mp member
      obtain ⟨name,here,its⟩ := collected.data other inside
      refine ⟨name,?_,?_⟩
      · split <;> exact List.mem_append_left _ here
      · split <;> exact its
    · intro entry member
      rcases List.mem_append.mp member with old | new
      · obtain ⟨group,inside,listed⟩ := collected.covered entry old
        refine ⟨_,List.mem_map_of_mem inside,?_⟩
        split
        · exact List.mem_append_left _ listed
        · exact listed
      · rw [List.mem_singleton] at new
        obtain ⟨group,inside,same⟩ := List.any_eq_true.mp present
        refine ⟨_,List.mem_map_of_mem inside,?_⟩
        simp [beq_iff_eq.mp same,new]
  · refine ⟨?_,?_,?_⟩
    · intro group member name listed
      rcases List.mem_append.mp member with old | new
      · obtain ⟨found,here,its⟩ := collected.ids group old name listed
        exact ⟨found,List.mem_append_left _ here,its⟩
      · rw [List.mem_singleton] at new
        subst new
        exact ⟨data,by simp [List.mem_singleton.mp listed],joined⟩
    · intro group member
      rcases List.mem_append.mp member with old | new
      · obtain ⟨name,here,its⟩ := collected.data group old
        exact ⟨name,List.mem_append_left _ here,its⟩
      · rw [List.mem_singleton] at new
        subst new
        exact ⟨id,by simp,joined⟩
    · intro entry member
      rcases List.mem_append.mp member with old | new
      · obtain ⟨group,inside,listed⟩ := collected.covered entry old
        exact ⟨group,List.mem_append_left _ inside,listed⟩
      · rw [List.mem_singleton] at new
        exact ⟨⟨key,data,[id]⟩,by simp,by simp [new]⟩

theorem groupUpdates_collected (rest done : List (String × UpdateData)) (before groups : List Group)
    (collected : Collected env done before) (grouped : groupUpdates env rest before = some groups) :
    Collected env (done ++ rest) groups := by
  induction rest generalizing done before with
  | nil =>
    cases grouped
    simpa using collected
  | cons entry rest ih =>
    obtain ⟨key,joined,remaining⟩ := Option.bind_eq_some_iff.mp grouped
    have more := ih _ _ (collected.add env key entry.1 entry.2 joined) remaining
    simpa using more

theorem open_writes (timestamp : Nat) (checked : Dict UpdateData) (tx : StatusTx)
    (allowed : ∀ id data, checked.get? id = some data → data.hasStatus allowedStatuses = true)
    (opened : StatusTx.open env timestamp checked = some tx) (id : String) (status : Nat) :
    (id,status) ∈ tx.writes ↔ ∃ data, checked.get? id = some data ∧ data.statusNumber = some status := by
  obtain ⟨groups,grouped,rfl⟩ := Option.map_eq_some_iff.mp opened
  have collected : Collected env checked.entries groups := by
    simpa using groupUpdates_collected env checked.entries [] [] groups ⟨by simp,by simp,by simp⟩ grouped
  have uniform : ∀ group ∈ groups, ∀ name ∈ group.ids, ∃ data,
      checked.get? name = some data ∧ data.statusNumber = group.data.statusNumber := by
    intro group member name listed
    obtain ⟨data,here,joined⟩ := collected.ids group member name listed
    obtain ⟨other,there,same⟩ := collected.data group member
    exact ⟨data,Dict.mem_entries.mp here,groupKey_determines_status env data group.data group.key joined same
      (allowed name data (Dict.mem_entries.mp here)) (allowed other _ (Dict.mem_entries.mp there))⟩
  simp only [StatusTx.writes,List.flatMap_nil,List.nil_append,List.mem_flatMap]
  constructor
  · rintro ⟨group,member,written⟩
    unfold Group.writes at written
    split at written
    · rename_i number numbered
      obtain ⟨name,listed,same⟩ := List.mem_map.mp written
      cases same
      obtain ⟨data,found,equal⟩ := uniform group member id listed
      exact ⟨data,found,equal.trans numbered⟩
    · cases written
  · rintro ⟨data,found,numbered⟩
    obtain ⟨group,member,listed⟩ := collected.covered (id,data) (Dict.mem_entries.mpr found)
    obtain ⟨other,same,equal⟩ := uniform group member id listed
    rw [found] at same
    cases same
    refine ⟨group,member,?_⟩
    simp only [Group.writes,← equal,numbered]
    exact List.mem_map_of_mem listed

theorem addToGroup_keys (groups : List Group) (key id : String) (data : UpdateData)
    (distinct : (groups.map Group.key).Nodup) : ((addToGroup groups key id data).map Group.key).Nodup := by
  unfold addToGroup
  split
  · have kept : (groups.map (fun group => if group.key = key then {group with ids := group.ids ++ [id]} else group)).map
        Group.key = groups.map Group.key := by
      rw [List.map_map]
      apply List.map_congr_left
      intro group _
      simp only [Function.comp_apply]
      split <;> rfl
    rw [kept]
    exact distinct
  · rename_i absent
    rw [List.map_append]
    refine List.nodup_append.mpr ⟨distinct,by simp,?_⟩
    intro other listed name single
    rw [List.map_cons,List.map_nil,List.mem_singleton] at single
    subst single
    rintro rfl
    obtain ⟨group,member,same⟩ := List.mem_map.mp listed
    exact absent (List.any_eq_true.mpr ⟨group,member,by simp [same]⟩)

theorem addToGroup_ids (groups : List Group) (key id : String) (data : UpdateData)
    (distinct : (groups.map Group.key).Nodup) :
    ((addToGroup groups key id data).flatMap Group.ids).Perm (id::groups.flatMap Group.ids) := by
  unfold addToGroup
  split
  · rename_i present
    induction groups with
    | nil => simp at present
    | cons group rest ih =>
      obtain ⟨fresh,remaining⟩ := List.nodup_cons.mp distinct
      by_cases same : group.key = key
      · have others : ∀ other ∈ rest,
            (if other.key = key then {other with ids := other.ids ++ [id]} else other) = other := by
          intro other member
          exact if_neg (fun equal => fresh (List.mem_map.mpr ⟨other,member,equal.trans same.symm⟩))
        rw [List.map_cons,List.map_congr_left others,List.map_id']
        simp only [same,if_true,List.flatMap_cons,List.append_assoc,List.singleton_append]
        exact List.perm_middle
      · have later : rest.any (fun group => group.key == key) = true := by simpa [same] using present
        simp only [List.map_cons,same,if_false,List.flatMap_cons]
        exact ((ih remaining later).append_left group.ids).trans List.perm_middle
  · simp

theorem groupUpdates_ids (entries : List (String × UpdateData)) (before groups : List Group)
    (distinct : (before.map Group.key).Nodup) (grouped : groupUpdates env entries before = some groups) :
    (groups.flatMap Group.ids).Perm (entries.map Prod.fst ++ before.flatMap Group.ids) := by
  induction entries generalizing before with
  | nil =>
    cases grouped
    exact List.Perm.refl _
  | cons entry rest ih =>
    obtain ⟨key,_,remaining⟩ := Option.bind_eq_some_iff.mp grouped
    refine (ih _ (addToGroup_keys before key entry.1 entry.2 distinct) remaining).trans ?_
    refine ((addToGroup_ids before key entry.1 entry.2 distinct).append_left _).trans ?_
    exact List.perm_middle

theorem open_once {timestamp : Nat} {checked : Dict UpdateData} {tx : StatusTx}
    (opened : StatusTx.open env timestamp checked = some tx) : (tx.writes.map Prod.fst).Nodup := by
  obtain ⟨groups,grouped,rfl⟩ := Option.map_eq_some_iff.mp opened
  have ids : (groups.flatMap Group.ids).Nodup := by
    refine (groupUpdates_ids env checked.entries [] groups List.nodup_nil grouped).nodup_iff.mpr ?_
    simpa using checked.nodup
  have part : ((groups.flatMap Group.writes).map Prod.fst).Sublist (groups.flatMap Group.ids) := by
    clear grouped ids opened
    induction groups with
    | nil => exact List.Sublist.refl _
    | cons group rest ih =>
      simp only [List.flatMap_cons,List.map_append]
      refine List.Sublist.append ?_ ih
      unfold Group.writes
      split
      · simp [Function.comp_def]
      · exact List.nil_sublist _
  simpa [StatusTx.writes] using ids.sublist part

theorem update_spec (retry : RetryConfig) (now timestamp status : Nat) (group : Group) (update : Update)
    (built : group.update env retry now timestamp status = some update) :
    update.ids = group.ids ∧ update.status = status := by
  obtain ⟨error,_,built⟩ := Option.bind_eq_some_iff.mp built
  obtain ⟨startAfter,_,built⟩ := Option.bind_eq_some_iff.mp built
  cases built
  exact ⟨rfl,rfl⟩

theorem update_attemptTakenBack (retry : RetryConfig) (now timestamp status : Nat) (group : Group) (update : Update)
    (built : group.update env retry now timestamp status = some update) :
    update.attemptTakenBack = decide (update.status = EventProcessingStatus.Open) := by
  obtain ⟨error,_,built⟩ := Option.bind_eq_some_iff.mp built
  obtain ⟨startAfter,_,built⟩ := Option.bind_eq_some_iff.mp built
  cases built
  rfl

theorem writeNext_writes (retry : RetryConfig) (now : Nat) (tx next : StatusTx)
    (written : tx.writeNext env retry now = some next) : next.writes = tx.writes := by
  obtain ⟨timestamp,groups,updates⟩ := tx
  cases groups with
  | nil => cases written
  | cons group rest =>
    simp only [StatusTx.writeNext] at written
    split at written
    · rename_i absent
      cases written
      simp [StatusTx.writes,Group.writes,absent]
    · rename_i status present
      obtain ⟨update,built,rfl⟩ := Option.map_eq_some_iff.mp written
      obtain ⟨ids,same⟩ := update_spec env retry now timestamp status group update built
      simp [StatusTx.writes,Group.writes,present,Update.writes,ids,same]

theorem open_updates {timestamp : Nat} {checked : Dict UpdateData} {tx : StatusTx}
    (opened : StatusTx.open env timestamp checked = some tx) : tx.updates = [] := by
  obtain ⟨groups,_,rfl⟩ := Option.map_eq_some_iff.mp opened
  rfl

theorem writeNext_written (retry : RetryConfig) (now : Nat) (tx next : StatusTx)
    (moved : tx.writeNext env retry now = some next) (id : String) :
    id ∈ written next.updates ↔ id ∈ written tx.updates ∨ id ∈ tx.nextIds := by
  obtain ⟨timestamp,groups,updates⟩ := tx
  cases groups with
  | nil => cases moved
  | cons group rest =>
    simp only [StatusTx.writeNext] at moved
    split at moved
    · rename_i absent
      cases moved
      simp [StatusTx.nextIds,absent]
    · rename_i status present
      obtain ⟨update,built,rfl⟩ := Option.map_eq_some_iff.mp moved
      obtain ⟨ids,_⟩ := update_spec env _ _ _ _ group update built
      simp [StatusTx.nextIds,present,written,ids]

theorem normalizeStatusMap_total (statusMap : Dict Value) (normalized : Dict UpdateData)
    (done : normalizeStatusMap statusMap = some normalized) (id : String) (value : Value)
    (found : statusMap.get? id = some value) : ∃ data, normalizeEntry value = some data := by
  unfold normalizeStatusMap at done
  split at done
  · rename_i total
    exact Option.isSome_iff_exists.mp (List.all_eq_true.mp total (id,value) (Dict.mem_entries.mpr found))
  · cases done

theorem normalizeStatusMap_get (statusMap : Dict Value) (normalized : Dict UpdateData)
    (done : normalizeStatusMap statusMap = some normalized) (id : String) :
    normalized.get? id = (statusMap.get? id).bind normalizeEntry := by
  have total := normalizeStatusMap_total statusMap normalized done id
  unfold normalizeStatusMap at done
  split at done
  · cases done
    rw [Dict.get?_map]
    cases found : statusMap.get? id with
    | none => rfl
    | some value =>
      obtain ⟨data,same⟩ := total value found
      simp only [Option.map_some,Option.bind_some,same,Option.getD_some]
  · cases done

theorem ensureEveryQueueEntryHasStatus_get (queueEntries commited outdated : List String)
    (statusMap : Dict UpdateData) (id : String) :
    (ensureEveryQueueEntryHasStatus queueEntries commited outdated statusMap).get? id =
      (statusMap.get? id).or (if id ∈ queueEntries ∧ id ∉ commited ∧ id ∉ outdated
        then some (.ofStatus EventProcessingStatus.Done) else none) := by
  unfold ensureEveryQueueEntryHasStatus
  induction queueEntries generalizing statusMap with
  | nil => simp
  | cons entry rest ih =>
    rw [List.foldl_cons,ih]
    by_cases same : id = entry
    · subst same
      by_cases known : statusMap.contains id = true
      · obtain ⟨value,found⟩ := Option.isSome_iff_exists.mp (Dict.contains_iff.mp known)
        simp [known,found]
      · have absent : statusMap.get? id = none := by
          simpa using fun present => known (Dict.contains_iff.mpr (Option.isSome_iff_ne_none.mpr present))
        by_cases written : id ∈ commited
        · simp [written]
        · by_cases old : id ∈ outdated
          · simp [old]
          · simp [known,written,old,Dict.get?_set,absent]
    · split
      · simp [same]
      · simp [same,Dict.get?_set]

theorem persistChecked_get (selectedEventMap : List String) (statusMap : Dict Value) (checked : Dict UpdateData)
    (done : persistChecked selectedEventMap statusMap = some checked) (id : String) (data : UpdateData) :
    checked.get? id = some data ↔ id ∈ selectedEventMap ∧ data.hasStatus allowedStatuses = true ∧
      (statusMap.get? id).bind normalizeEntry = some data := by
  obtain ⟨normalized,known,rfl⟩ := Option.map_eq_some_iff.mp done
  rw [ensureEveryStatusIsAllowed,ensureOnlySelectedQueueEntries,Dict.get?_filter,Dict.get?_filter,
    normalizeStatusMap_get statusMap normalized known]
  simp only [Option.filter_eq_some_iff,List.contains_iff_mem]
  tauto

theorem persistFilled_get (selectedEventMap queueEntries commited outdated : List String)
    (statusMap : Dict Value) (filled : Dict UpdateData)
    (done : persistFilled selectedEventMap queueEntries commited outdated statusMap = some filled)
    (selected : queueEntries ⊆ selectedEventMap) (id : String) (data : UpdateData) :
    filled.get? id = some data ↔
      id ∈ selectedEventMap ∧ data.hasStatus allowedStatuses = true ∧
        (statusMap.get? id).bind normalizeEntry = some data ∨
      statusMap.get? id = none ∧ id ∈ queueEntries ∧ id ∉ commited ∧ id ∉ outdated ∧
        data = .ofStatus EventProcessingStatus.Done := by
  obtain ⟨normalized,known,rfl⟩ := Option.map_eq_some_iff.mp done
  rw [ensureEveryStatusIsAllowed,Dict.get?_filter,ensureEveryQueueEntryHasStatus_get,
    ensureOnlySelectedQueueEntries,Dict.get?_filter,normalizeStatusMap_get statusMap normalized known]
  have done : (UpdateData.ofStatus EventProcessingStatus.Done).hasStatus allowedStatuses = true := by
    simp [hasStatus_iff,UpdateData.ofStatus,allowedStatuses]
  cases found : statusMap.get? id with
  | none =>
    simp only [Option.bind_none,Option.filter_none,Option.none_or,Option.filter_eq_some_iff]
    constructor
    · rintro ⟨present,_⟩
      split at present
      · cases present
        tauto
      · cases present
    · rintro (⟨_,_,absurd⟩ | ⟨_,listed,fresh,valid,rfl⟩)
      · cases absurd
      · simp [listed,fresh,valid,done]
  | some value =>
    obtain ⟨entry,same⟩ := normalizeStatusMap_total statusMap normalized known id value found
    simp only [Option.bind_some,same,Option.filter_eq_some_iff,Option.filter_some,List.contains_iff_mem]
    by_cases listed : id ∈ selectedEventMap
    · simp [listed]
      tauto
    · have foreign : id ∉ queueEntries := fun member => listed (selected member)
      simp [listed,foreign]

end EventQueue

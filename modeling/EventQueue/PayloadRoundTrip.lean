import EventQueue.OutboxRoundTrip
import EventQueue.Chunk

/-! The payload of an ad-hoc event from `publishEvent` to `processEvent`, with the base class's `modifyQueueEntry`,
`checkEventAndGeneratePayload` and `clusterQueueEntries`. A payload that is a string is taken for the text of a JSON
value. -/
namespace EventQueue.PayloadRoundTrip
open Js (Value Json)
open Outbox (Platform)
open Publish (property)

structure QueueEntry where
  ID : String
  payload : Value
  context : Value

/-- What a column holds of a property: undefined is left out of the `INSERT`. -/
def column : Value → Value
  | .undefined => .null
  | value => value

/-- The end of `getQueueEntriesAndSetToInProgress`: an empty payload is not the null of an obsolete entry. -/
def setToInProgress (queueEntry : QueueEntry) : QueueEntry :=
  match queueEntry.payload with
  | .null => {queueEntry with payload := .str ""}
  | _ => queueEntry

structure Cluster where
  queueEntries : List QueueEntry
  payload : Value

/-- A call of `processEvent`. -/
structure Invocation where
  key : String
  queueEntries : List QueueEntry
  payload : Value

structure Preprocessed where
  done : List String
  invalid : List String
  queueEntriesWithPayloadMap : Dict (QueueEntry × Value)

section
variable (platform : Platform)

def modifyQueueEntry (queueEntry : QueueEntry) : QueueEntry :=
  {queueEntry with
    payload := Outbox.modifyQueueEntry platform queueEntry.payload
    context := Outbox.modifyQueueEntry platform queueEntry.context}

def checkEventAndGeneratePayload (queueEntry : QueueEntry) : Value := queueEntry.payload

def addEventWithPayloadForProcessing (queueEntriesMap : List String) (queueEntry : QueueEntry) (payload : Value)
    (preprocessed : Preprocessed) : Preprocessed :=
  if queueEntriesMap.contains queueEntry.ID then
    {preprocessed with queueEntriesWithPayloadMap :=
      preprocessed.queueEntriesWithPayloadMap.set queueEntry.ID (queueEntry,payload)}
  else preprocessed

/-- The body of the loop over the selected entries. -/
def preprocessEntry (queueEntriesMap : List String) (preprocessed : Preprocessed) (selected : QueueEntry) :
    Preprocessed :=
  let queueEntry := modifyQueueEntry platform selected
  match checkEventAndGeneratePayload queueEntry with
  | .null => {preprocessed with done := preprocessed.done ++ [queueEntry.ID]}
  | .undefined => {preprocessed with invalid := preprocessed.invalid ++ [queueEntry.ID]}
  | payload => addEventWithPayloadForProcessing queueEntriesMap queueEntry payload preprocessed

def preprocess (queueEntries : List QueueEntry) : Preprocessed :=
  queueEntries.foldl (preprocessEntry platform (queueEntries.map QueueEntry.ID)) ⟨[],[],Dict.empty⟩

def addEntryToProcessingMap (eventProcessingMap : Dict Cluster) (key : String) (queueEntry : QueueEntry)
    (payload : Value) : Dict Cluster :=
  let cluster := (eventProcessingMap.get? key).getD ⟨[],payload⟩
  eventProcessingMap.set key {cluster with queueEntries := cluster.queueEntries ++ [queueEntry]}

def clusterQueueEntries (queueEntriesWithPayloadMap : Dict (QueueEntry × Value)) : Dict Cluster :=
  queueEntriesWithPayloadMap.entries.foldl (fun eventProcessingMap entry =>
    addEntryToProcessingMap eventProcessingMap entry.1 entry.2.1 entry.2.2) Dict.empty

/-- The calls of `processEvent`; the keep-alive may have found the entries of a cluster outdated. -/
def processEventMap (eventOutdated : String → Bool) (eventProcessingMap : Dict Cluster) : List Invocation :=
  eventProcessingMap.entries.filterMap (fun cluster =>
    if eventOutdated cluster.1 then none else some ⟨cluster.1,cluster.2.queueEntries,cluster.2.payload⟩)

/-- One iteration of `processEventQueue` over the selected rows. -/
def invocations (eventOutdated : String → Bool) (selected : List QueueEntry) : List Invocation :=
  processEventMap eventOutdated (clusterQueueEntries
    (preprocess platform (selected.map setToInProgress)).queueEntriesWithPayloadMap)

/-- What `JSON.stringify` and `JSON.parse` do with a payload, with no payload and with an empty text. -/
structure Language (payload : Value) : Prop where
  undone : Json payload → ∃ text, platform.runtime.stringify payload = some (.str text) ∧
    platform.parse (.str text) = some payload
  undefined : platform.runtime.stringify .undefined = some .undefined
  empty : platform.parse (.str "") = none
  parsed : ∀ text value, payload = .str text → platform.parse (.str text) = some value → Json value

/-- A string stands for the value that it is the text of, and for itself if it is no JSON text. -/
def delivered : Value → Value
  | .str text => (platform.parse (.str text)).getD (.str text)
  | .undefined => .str ""
  | payload => payload

/-- The row of a published event. -/
def rowOf (ID : String) (row : Dict Value) : QueueEntry :=
  ⟨ID,column (property row "payload"),column (property row "context")⟩

end

section
variable {platform : Platform}

/-- An entry with the payload it is added with. -/
def withPayload (platform : Platform) (selected : QueueEntry) : Option (String × QueueEntry × Value) :=
  match (modifyQueueEntry platform selected).payload with
  | .null => none
  | .undefined => none
  | payload => some (selected.ID,modifyQueueEntry platform selected,payload)

@[simp] theorem setToInProgress_ID (queueEntry : QueueEntry) : (setToInProgress queueEntry).ID = queueEntry.ID := by
  unfold setToInProgress
  split <;> rfl

@[simp] theorem modifyQueueEntry_ID (queueEntry : QueueEntry) :
    (modifyQueueEntry platform queueEntry).ID = queueEntry.ID := rfl

theorem preprocessEntry_entries {queueEntriesMap : List String} {preprocessed : Preprocessed} {selected : QueueEntry}
    (listed : selected.ID ∈ queueEntriesMap) (fresh : selected.ID ∉ preprocessed.queueEntriesWithPayloadMap.keys) :
    (preprocessEntry platform queueEntriesMap preprocessed selected).queueEntriesWithPayloadMap.entries =
      preprocessed.queueEntriesWithPayloadMap.entries ++ (withPayload platform selected).toList := by
  have known : queueEntriesMap.contains (modifyQueueEntry platform selected).ID = true := by simpa using listed
  unfold preprocessEntry withPayload checkEventAndGeneratePayload
  simp only
  split
  · simp
  · simp
  · simp only [addEventWithPayloadForProcessing,known,if_true,Option.toList_some]
    exact Dict.set_fresh fresh _

theorem withPayload_ID {selected : QueueEntry} {entry : String × QueueEntry × Value}
    (found : withPayload platform selected = some entry) : entry.1 = selected.ID := by
  unfold withPayload at found
  split at found
  · cases found
  · cases found
  · cases found
    rfl

/-- The entries that go on, in the order of the selection. -/
theorem foldl_preprocessEntry_entries {queueEntriesMap : List String} (selected : List QueueEntry)
    (preprocessed : Preprocessed) (listed : ∀ entry ∈ selected, entry.ID ∈ queueEntriesMap)
    (distinct : (selected.map QueueEntry.ID).Nodup)
    (fresh : ∀ entry ∈ selected, entry.ID ∉ preprocessed.queueEntriesWithPayloadMap.keys) :
    (selected.foldl (preprocessEntry platform queueEntriesMap) preprocessed).queueEntriesWithPayloadMap.entries =
      preprocessed.queueEntriesWithPayloadMap.entries ++ selected.filterMap (withPayload platform) := by
  induction selected generalizing preprocessed with
  | nil => simp
  | cons first rest ih =>
    obtain ⟨apart,distinct⟩ := List.nodup_cons.mp distinct
    have added := @preprocessEntry_entries platform _ _ _ (listed first (by simp)) (fresh first (by simp))
    have later : ∀ entry ∈ rest, entry.ID ∉
        (preprocessEntry platform queueEntriesMap preprocessed first).queueEntriesWithPayloadMap.keys := by
      intro entry member inside
      rw [Dict.keys,added,List.map_append,List.mem_append] at inside
      rcases inside with old | new
      · exact fresh entry (by simp [member]) old
      · obtain ⟨other,here,same⟩ := List.mem_map.mp new
        rw [withPayload_ID (by simpa using here)] at same
        exact apart (same ▸ List.mem_map_of_mem member)
    rw [List.foldl_cons,ih _ (fun entry member => listed entry (by simp [member])) distinct later,added]
    cases found : withPayload platform first <;> simp [found]

theorem preprocess_entries {selected : List QueueEntry} (distinct : (selected.map QueueEntry.ID).Nodup) :
    (preprocess platform selected).queueEntriesWithPayloadMap.entries = selected.filterMap (withPayload platform) := by
  have folded := @foldl_preprocessEntry_entries platform _ selected ⟨[],[],Dict.empty⟩
    (fun entry member => List.mem_map_of_mem member) distinct (by simp [Dict.keys,Dict.empty])
  simpa [preprocess,Dict.empty] using folded

/-- What a chunk sees of a payload. -/
def chunkPayload : Value → Payload
  | .null => .null
  | .undefined => .undefined
  | _ => .value

/-- A chunk goes on with the same entries. -/
theorem preprocess_chunk (env : Environment) {selected : List QueueEntry}
    (distinct : (selected.map QueueEntry.ID).Nodup) {payloads : String → Payload}
    (agree : ∀ entry ∈ selected, payloads entry.ID = chunkPayload (modifyQueueEntry platform entry).payload)
    {chunk : Chunk} (queueEntries : chunk.queueEntries = selected.map QueueEntry.ID) :
    (chunk.preprocess env payloads).queueEntriesWithPayloadMap =
      (preprocess platform selected).queueEntriesWithPayloadMap.keys := by
  have kept (entry : QueueEntry) (listed : entry ∈ selected) :
      (if (Chunk.preprocessReport payloads entry.ID).isNone then some entry.ID else none) =
        (withPayload platform entry).map Prod.fst := by
    rw [Chunk.preprocessReport,agree entry listed,withPayload]
    cases (modifyQueueEntry platform entry).payload <;> rfl
  have ids : (chunk.preprocess env payloads).queueEntriesWithPayloadMap =
      (selected.map QueueEntry.ID).filter (fun id => (Chunk.preprocessReport payloads id).isNone) := by
    simp only [Chunk.preprocess,queueEntries]
  rw [ids,Dict.keys,preprocess_entries distinct,List.map_filterMap,← List.filterMap_eq_filter,List.filterMap_map]
  exact List.filterMap_congr (fun entry listed => by simpa [Option.guard] using kept entry listed)

/-- Every entry becomes a cluster of its own. -/
theorem foldl_addEntryToProcessingMap (entries : List (String × QueueEntry × Value)) (eventProcessingMap : Dict Cluster)
    (distinct : (entries.map Prod.fst).Nodup) (fresh : ∀ entry ∈ entries, entry.1 ∉ eventProcessingMap.keys) :
    (entries.foldl (fun eventProcessingMap entry =>
        addEntryToProcessingMap eventProcessingMap entry.1 entry.2.1 entry.2.2) eventProcessingMap).entries =
      eventProcessingMap.entries ++ entries.map (fun entry => (entry.1,⟨[entry.2.1],entry.2.2⟩)) := by
  induction entries generalizing eventProcessingMap with
  | nil => simp
  | cons first rest ih =>
    obtain ⟨apart,distinct⟩ := List.nodup_cons.mp distinct
    have new := fresh first (by simp)
    have absent : eventProcessingMap.get? first.1 = none := by
      rw [Option.eq_none_iff_forall_not_mem]
      exact fun cluster found => new (Dict.mem_keys.mpr ⟨cluster,found⟩)
    have added : (addEntryToProcessingMap eventProcessingMap first.1 first.2.1 first.2.2).entries =
        eventProcessingMap.entries ++ [(first.1,⟨[first.2.1],first.2.2⟩)] := by
      simp only [addEntryToProcessingMap,absent,Option.getD_none,List.nil_append]
      exact Dict.set_fresh new _
    have later : ∀ entry ∈ rest,
        entry.1 ∉ (addEntryToProcessingMap eventProcessingMap first.1 first.2.1 first.2.2).keys := by
      intro entry member inside
      rw [Dict.keys,added,List.map_append,List.mem_append] at inside
      rcases inside with old | last
      · exact fresh entry (by simp [member]) old
      · have same : entry.1 = first.1 := by simpa using last
        exact apart (same ▸ List.mem_map_of_mem member)
    rw [List.foldl_cons,ih _ distinct later,added]
    simp

/-- The calls of `processEvent` in one iteration. -/
theorem mem_invocations {selected : List QueueEntry} (distinct : (selected.map QueueEntry.ID).Nodup)
    {eventOutdated : String → Bool} {call : Invocation} : call ∈ invocations platform eventOutdated selected ↔
      ∃ entry ∈ selected, ∃ payload, withPayload platform (setToInProgress entry) =
          some (entry.ID,modifyQueueEntry platform (setToInProgress entry),payload) ∧
        eventOutdated entry.ID = false ∧
        call = ⟨entry.ID,[modifyQueueEntry platform (setToInProgress entry)],payload⟩ := by
  have IDs : ((selected.map setToInProgress).map QueueEntry.ID).Nodup := by
    rw [List.map_map]
    simpa [Function.comp_def] using distinct
  have clustered := foldl_addEntryToProcessingMap
    (preprocess platform (selected.map setToInProgress)).queueEntriesWithPayloadMap.entries Dict.empty
    (preprocess platform (selected.map setToInProgress)).queueEntriesWithPayloadMap.nodup (by simp [Dict.keys,Dict.empty])
  have known (entry : QueueEntry) (found : String × QueueEntry × Value)
      (given : withPayload platform (setToInProgress entry) = some found) :
      ∃ payload, found = (entry.ID,modifyQueueEntry platform (setToInProgress entry),payload) := by
    unfold withPayload at given
    split at given
    · cases given
    · cases given
    · cases given
      exact ⟨_,by rw [setToInProgress_ID]⟩
  rw [preprocess_entries IDs] at clustered
  simp only [invocations,processEventMap,clusterQueueEntries,preprocess_entries IDs,clustered,List.mem_filterMap,
    List.mem_append,List.mem_map,exists_exists_and_eq_and]
  constructor
  · rintro ⟨cluster,none | ⟨found,⟨entry,member,given⟩,rfl⟩,called⟩
    · simp [Dict.empty] at none
    · obtain ⟨payload,rfl⟩ := known entry found given
      split at called
      · cases called
      · rename_i current
        exact ⟨entry,member,payload,given,by simpa using current,(Option.some.inj called).symm⟩
  · rintro ⟨entry,member,payload,given,current,rfl⟩
    exact ⟨_,Or.inr ⟨_,⟨entry,member,given⟩,rfl⟩,by simp [current]⟩

/-- The entry reaches `processEvent` unless it is outdated by then, and with nothing but this payload. -/
def ProcessedWith (platform : Platform) (eventOutdated : String → Bool) (selected : List QueueEntry) (ID : String)
    (payload : Value) : Prop :=
  ((∃ call ∈ invocations platform eventOutdated selected, ∃ queueEntry ∈ call.queueEntries, queueEntry.ID = ID) ↔
    eventOutdated ID = false) ∧
  ∀ call ∈ invocations platform eventOutdated selected, (∃ queueEntry ∈ call.queueEntries, queueEntry.ID = ID) →
    call.payload = payload

/-- What becomes of a selected entry whose payload reads as a value other than null and undefined. -/
theorem processedWith_of_read {selected : List QueueEntry} (distinct : (selected.map QueueEntry.ID).Nodup)
    (eventOutdated : String → Bool) {entry : QueueEntry} (listed : entry ∈ selected) {payload : Value}
    (read : (modifyQueueEntry platform (setToInProgress entry)).payload = payload) (notNull : payload ≠ .null)
    (given : payload ≠ .undefined) : ProcessedWith platform eventOutdated selected entry.ID payload := by
  have own : withPayload platform (setToInProgress entry) =
      some (entry.ID,modifyQueueEntry platform (setToInProgress entry),payload) := by
    unfold withPayload
    rw [read,setToInProgress_ID]
    cases payload with
    | null => exact absurd rfl notNull
    | undefined => exact absurd rfl given
    | _ => rfl
  have only : ∀ call ∈ invocations platform eventOutdated selected,
      (∃ queueEntry ∈ call.queueEntries, queueEntry.ID = entry.ID) → eventOutdated entry.ID = false ∧
        call.payload = payload := by
    rintro call called ⟨queueEntry,inside,same⟩
    obtain ⟨other,member,value,found,current,rfl⟩ := (mem_invocations distinct).mp called
    obtain rfl := List.mem_singleton.mp inside
    rw [modifyQueueEntry_ID,setToInProgress_ID] at same
    obtain rfl := List.inj_on_of_nodup_map distinct member listed same
    rw [own] at found
    cases found
    exact ⟨current,rfl⟩
  refine ⟨⟨fun ⟨call,called,inside⟩ => (only call called inside).1,fun current => ?_⟩,
    fun call called inside => (only call called inside).2⟩
  exact ⟨_,(mem_invocations distinct).mpr ⟨entry,listed,payload,own,current,rfl⟩,_,List.mem_singleton_self _,by simp⟩

/-- A payload written as the text of its value is read as this value. -/
theorem read_text {written : String} {value : Value} (parsed : platform.parse (.str written) = some value)
    (ID : String) (context : Value) :
    (modifyQueueEntry platform (setToInProgress ⟨ID,column (.str written),context⟩)).payload = value := by
  simp [column,setToInProgress,modifyQueueEntry,Outbox.modifyQueueEntry,parsed]

/-- What the entry of a published event reads as. -/
theorem read_published {config : Publish.Config} {call : Publish.Call} {event row : Dict Value}
    (language : Language platform (property event "payload"))
    (published : Publish.prepare platform.runtime config call event = .ok row)
    (json : property event "payload" = .undefined ∨ Json (property event "payload")) (ID : String) :
    (modifyQueueEntry platform (setToInProgress (rowOf ID row))).payload =
      delivered platform (property event "payload") := by
  obtain ⟨valid,rfl⟩ := Publish.prepare_ok_iff.mp published
  have stored := Publish.payload_stored valid
  unfold rowOf
  generalize property (Publish.stored platform.runtime config call event) "payload" = written at stored ⊢
  generalize column (property (Publish.stored platform.runtime config call event) "context") = context
  have serialised (proper : Json (property event "payload"))
      (known : platform.runtime.stringify (property event "payload") = some written) :
      (modifyQueueEntry platform (setToInProgress ⟨ID,column written,context⟩)).payload = property event "payload" := by
    obtain ⟨text,same,parsed⟩ := language.undone proper
    rw [known,Option.some.injEq] at same
    subst same
    exact read_text parsed ID context
  cases payload : property event "payload" with
  | undefined =>
    simp only [Publish.payloadOf,payload,language.undefined,Option.some.injEq] at stored
    subst stored
    simp [column,setToInProgress,modifyQueueEntry,Outbox.modifyQueueEntry,language.empty,delivered]
  | str given =>
    simp only [Publish.payloadOf,payload,Option.some.injEq] at stored
    subst stored
    rfl
  | _ =>
    rw [payload] at json serialised
    simp only [Publish.payloadOf,payload] at stored
    exact serialised (json.resolve_left (by simp)) stored

theorem delivered_given {payload : Value} (language : Language platform payload)
    (json : payload = .undefined ∨ Json payload) : delivered platform payload ≠ .undefined := by
  cases payload with
  | undefined => simp [delivered]
  | str text =>
    simp only [delivered]
    cases parsed : platform.parse (.str text) with
    | none => simp
    | some value =>
      have proper := language.parsed text value rfl parsed
      rintro rfl
      cases proper
  | _ =>
    rcases json with none | proper
    · cases none
    · simp [delivered]

end

/-- An entry published with a JSON value or without a payload is processed unless it reads as null, and with what the
payload stands for: a string with the value that it is the text of, everything else with itself. -/
theorem payload_round_trip (platform : Platform) (config : Publish.Config) (call : Publish.Call)
    (event row : Dict Value) (language : Language platform (property event "payload"))
    (published : Publish.prepare platform.runtime config call event = .ok row)
    (json : property event "payload" = .undefined ∨ Json (property event "payload"))
    (notNull : delivered platform (property event "payload") ≠ .null) (eventOutdated : String → Bool)
    (selected : List QueueEntry) (distinct : (selected.map QueueEntry.ID).Nodup) (ID : String)
    (listed : rowOf ID row ∈ selected) :
    ProcessedWith platform eventOutdated selected ID (delivered platform (property event "payload")) :=
  processedWith_of_read distinct eventOutdated listed (read_published language published json ID) notNull
    (delivered_given language json)

/-- Texts of the number one and of null; `JSON.parse` throws on everything else here. -/
def oneAndNull : Platform where
  runtime := ⟨fun _ => none,fun _ => "undefined",fun value => match value with
    | .num _ => some (.str "1")
    | .null => some (.str "null")
    | _ => some .undefined,fun _ _ => ""⟩
  toLocaleLowerCase text := text
  parse value := match value with
    | .str text => if text = "1" then some (.nat 1) else if text = "null" then some .null else none
    | _ => none
  create _ payload := payload

def withPayloadOf (payload : Value) : Dict Value :=
  ⟨[("type",.str "Notifications"),("subType",.str "Task"),("payload",payload)],by simp⟩

def plainCall (payload : Value) : Publish.Call := ⟨[withPayloadOf payload],false,false,false,false,0,.undefined⟩

def publishedRow (payload : Value) : Dict Value :=
  Publish.stored oneAndNull.runtime Outbox.anyOrder (plainCall payload) (withPayloadOf payload)

theorem payload_round_trip_number :
    ProcessedWith oneAndNull (fun _ => false) [rowOf "e1" (publishedRow (.nat 1))] "e1" (.nat 1) :=
  payload_round_trip oneAndNull Outbox.anyOrder (plainCall (.nat 1)) (withPayloadOf (.nat 1)) (publishedRow (.nat 1))
    ⟨fun _ => ⟨"1",rfl,rfl⟩,rfl,rfl,fun _ _ text => by cases text⟩ rfl (Or.inr (.num 1))
    (show Value.nat 1 ≠ .null by simp [Value.nat])
    (fun _ => false) _ (by simp) "e1" (List.mem_singleton_self _)

/-- A text that is a number is processed as this number, and null is not processed at all. -/
theorem text_and_null_payloads :
    (Publish.prepare oneAndNull.runtime Outbox.anyOrder (plainCall (.str "1")) (withPayloadOf (.str "1")) =
        .ok (publishedRow (.str "1")) ∧
      ¬ProcessedWith oneAndNull (fun _ => false) [rowOf "e1" (publishedRow (.str "1"))] "e1" (.str "1")) ∧
    Publish.prepare oneAndNull.runtime Outbox.anyOrder (plainCall .null) (withPayloadOf .null) =
        .ok (publishedRow .null) ∧
      ¬ProcessedWith oneAndNull (fun _ => false) [rowOf "e1" (publishedRow .null)] "e1" .null := by
  refine ⟨⟨rfl,fun processed => ?_⟩,rfl,fun processed => ?_⟩
  · have calls : invocations oneAndNull (fun _ => false) [rowOf "e1" (publishedRow (.str "1"))] =
        [⟨"e1",[⟨"e1",.nat 1,.null⟩],.nat 1⟩] := rfl
    rw [ProcessedWith,calls] at processed
    cases processed.2 _ (List.mem_singleton_self _) ⟨_,List.mem_singleton_self _,rfl⟩
  · have calls : invocations oneAndNull (fun _ => false) [rowOf "e1" (publishedRow .null)] = [] := rfl
    rw [ProcessedWith,calls] at processed
    obtain ⟨call,called,_⟩ := processed.1.mpr rfl
    cases called

end EventQueue.PayloadRoundTrip

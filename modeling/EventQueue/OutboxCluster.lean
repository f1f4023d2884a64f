import EventQueue.StatusMap
import EventQueue.Lib.Separated

/-! Clustering of the entries of an outboxed service. Entries are split by event, the handler for
`eventQueueCluster` is asked for every event and may answer with the result of one of the three
helpers; what no handler is asked for goes into the processing map at once. A first answer that has
not the structure of a cluster map sends all entries there one by one. -/
namespace EventQueue.OutboxCluster
open Js (Value)

abbrev Fields := List (String × Value)

def CLUSTER : String := "eventQueueCluster"

/-- An entry with the payload it is to be processed with. -/
structure Entry where
  id : String
  event : String
  queueEntry : Fields
  payload : Fields

structure Cluster where
  queueEntries : List Entry
  payload : Value

inductive Helper
  | clusterByPayloadProperty
  | clusterByEventProperty
  | clusterByDataProperty

/-- A call of a helper, with the parts of the property name. -/
structure Clustering where
  helper : Helper
  propertyName : List String
  cb : Option (String → List Value → Value)

def isTypeObject : Value → Bool
  | .obj _ => true
  | .arr _ => true
  | .date _ => true
  | .null => true
  | _ => false

def isNullOrArray : Value → Bool
  | .null => true
  | .arr _ => true
  | _ => false

def property (value : Value) (name : String) : Value := (Js.field value.ownFields name).getD .undefined

def validateEntry (clusterEntry : Value) : Bool :=
  isTypeObject clusterEntry && (match clusterEntry with
    | .null => false
    | _ => true) &&
  (match property clusterEntry "queueEntries" with
    | .arr _ => true
    | _ => false) &&
  isTypeObject (property clusterEntry "payload") && !isNullOrArray (property clusterEntry "payload")

def validateCluster (obj : Value) : Bool :=
  isTypeObject obj && !isNullOrArray obj && obj.ownFields.all (fun entry => validateEntry entry.2)

inductive Answer
  | clusters (clustering : Clustering)
  | other (value : Value) (invalid : validateCluster value = false)

structure Chunk where
  onHandlers : List String
  /-- The events of all entries that have gone through `modifyQueueEntry`. -/
  modified : List String
  entries : List Entry
  /-- The answer of the handler that is asked for an event. -/
  answers : String → Answer
  distinct : (entries.map Entry.id).Nodup
  seen : ∀ entry ∈ entries, entry.event ∈ modified

structure Request where
  handler : String
  actionName : String
  entries : List Entry

variable (env : Environment) (copy : Value → Option Value) (chunk : Chunk)

def addEntryToProcessingMap (map : Dict Cluster) (key : String) (queueEntry : Entry) (payload : Value) : Dict Cluster :=
  let cluster := (map.get? key).getD ⟨[],payload⟩
  map.set key {cluster with queueEntries := cluster.queueEntries ++ [queueEntry]}

/-- `clusterQueueEntries` of the base class. -/
def superClusterQueueEntries (map : Dict Cluster) (entries : List Entry) : Dict Cluster :=
  entries.foldl (fun map entry => addEntryToProcessingMap map entry.id entry (.obj entry.payload)) map

def addToProcessingMap (map handlerCluster : Dict Cluster) : Dict Cluster :=
  handlerCluster.entries.foldl (fun map entry => entry.2.queueEntries.foldl
    (fun map queueEntry => addEntryToProcessingMap map entry.1 queueEntry entry.2.payload) map) map

def hasEventSpecificClusterHandler (event : String) : Bool := CLUSTER ++ "." ++ event ∈ chunk.onHandlers

def isCluster (name : String) : Bool := CLUSTER.toList.isPrefixOf name.toList

def isSpecificName (name : String) : Bool := (name.toList.splitOn '.').length = 2

def genericClusterHandler : Bool := chunk.onHandlers.any (fun name => isCluster name && !isSpecificName name)

def specificClusterHandler : Bool := chunk.onHandlers.any (fun name => isCluster name && isSpecificName name)

/-- The flags that `modifyQueueEntry` sets. -/
def specificClusterRelevantAndAvailable : Bool :=
  specificClusterHandler chunk && chunk.modified.any (hasEventSpecificClusterHandler chunk)

def genericClusterRelevantAndAvailable : Bool :=
  genericClusterHandler chunk && chunk.modified.any (fun event => !hasEventSpecificClusterHandler chunk event)

def isSpecific (entry : Entry) : Bool :=
  hasEventSpecificClusterHandler chunk entry.event && specificClusterRelevantAndAvailable chunk

/-- What every object has from `Object.prototype`: a write to such a name of an event map is lost. -/
def inherited : List String := ["constructor","hasOwnProperty","isPrototypeOf","propertyIsEnumerable","toLocaleString",
  "toString","valueOf","__proto__","__defineGetter__","__defineSetter__","__lookupGetter__","__lookupSetter__"]

def addEvent (events : Dict (List Entry)) (entry : Entry) : Dict (List Entry) :=
  if entry.event ∈ inherited then events
  else events.set entry.event ((events.get? entry.event).getD [] ++ [entry])

def clusterByAction : Dict (List Entry) × Dict (List Entry) :=
  chunk.entries.foldl (fun result entry =>
    if isSpecific chunk entry then (result.1,addEvent result.2 entry) else (addEvent result.1 entry,result.2))
    (Dict.empty,Dict.empty)

def dataOf (entry : Entry) : Value := (Js.field entry.payload "data").getD .undefined

def startRef (entry : Entry) : Helper → Value
  | .clusterByPayloadProperty => .obj entry.payload
  | .clusterByEventProperty => .obj entry.queueEntry
  | .clusterByDataProperty => dataOf entry

def resolveRef : List String → Value → Option Value
  | [],value => some value
  | _::_,.undefined => none
  | _::_,.null => none
  | part::parts,value => resolveRef parts (property value part)

/-- The property value as `join` writes it. -/
def valueOf (clustering : Clustering) (entry : Entry) : Option String :=
  (resolveRef clustering.propertyName (startRef entry clustering.helper)).bind env.text

def clusterKey (actionName value : String) : String := actionName ++ "##" ++ value

def withData (payload data : Value) : Value :=
  .obj (payload.ownFields.filter (fun entry => entry.1 ≠ "data") ++ [("data",data)])

/-- One step of the reduction: the payload's data is copied, the key is joined. -/
def addToClusters (clustering : Clustering) (actionName : String) (result : Dict Cluster) (entry : Entry) :
    Option (Dict Cluster) := do
  let data ← copy (dataOf entry)
  let value ← valueOf env clustering entry
  some (addEntryToProcessingMap result (clusterKey actionName value) entry (withData (.obj entry.payload) data))

/-- The callback gives a cluster its data and must not answer with nothing. -/
def callBack (cb : String → List Value → Value) (clusters : Dict Cluster) (entry : String × Cluster) :
    Option (Dict Cluster) :=
  let clusterResult := cb ((Separated.split '#' entry.1).getLast?.getD "")
    (entry.2.queueEntries.map (fun queueEntry => property (property (.obj queueEntry.queueEntry) "payload") "data"))
  if clusterResult.truthy then
    some (clusters.set entry.1 {entry.2 with payload := withData entry.2.payload clusterResult})
  else none

/-- None if it throws. -/
def clusterBase (clustering : Clustering) (actionName : String) (entries : List Entry) : Option (Dict Cluster) :=
  (entries.foldlM (addToClusters env copy clustering actionName) Dict.empty).bind (fun clusters =>
    match clustering.cb with
    | none => some clusters
    | some cb => clusters.entries.foldlM (callBack cb) clusters)

def valueOfClusters (clusters : Dict Cluster) : Value :=
  .obj (clusters.entries.map (fun entry => (entry.1,.obj [
    ("queueEntries",.arr (entry.2.queueEntries.map (fun queueEntry => .obj queueEntry.queueEntry))),
    ("payload",entry.2.payload)])))

inductive Asked
  | clustered (clusterMap : Dict Cluster)
  /-- An answer was not valid; continuing without clustering. -/
  | invalid
  | threw

/-- The log entry of an answer that is not valid needs its JSON text. -/
def rejected (clusterResult : Value) : Asked := if (env.stringify clusterResult).isSome then .invalid else .threw

/-- The handlers are asked one after the other; a request nobody handles is rejected. -/
def ask : List Request → Dict Cluster → Asked
  | [],clusterMap => .clustered clusterMap
  | request::requests,clusterMap =>
    if request.handler ∈ chunk.onHandlers then
      match chunk.answers request.actionName with
      | .clusters clustering =>
        match clusterBase env copy clustering request.actionName request.entries with
        | none => .threw
        | some clusterResult =>
          if validateCluster (valueOfClusters clusterResult) then ask requests (clusterMap.assign clusterResult)
          else rejected env (valueOfClusters clusterResult)
      | .other clusterResult _ => rejected env clusterResult
    else .threw

def requestsOf (handler : String → String) (events : Dict (List Entry)) : List Request :=
  events.entries.map (fun entry => ⟨handler entry.1,entry.1,entry.2⟩)

def requests : List Request :=
  (if genericClusterRelevantAndAvailable chunk then requestsOf (fun _ => CLUSTER) (clusterByAction chunk).1 else []) ++
    requestsOf (fun actionName => CLUSTER ++ "." ++ actionName) (clusterByAction chunk).2

/-- The processing map before any handler is asked. -/
def unclustered : Dict Cluster :=
  if genericClusterRelevantAndAvailable chunk then Dict.empty
  else (clusterByAction chunk).1.entries.foldl (fun map entry => superClusterQueueEntries map entry.2) Dict.empty

/-- The processing map of the chunk, none if it throws. -/
def clusterQueueEntries : Option (Dict Cluster) :=
  if !genericClusterRelevantAndAvailable chunk && !specificClusterRelevantAndAvailable chunk then
    some (superClusterQueueEntries Dict.empty chunk.entries)
  else
    match ask env copy chunk (requests chunk) Dict.empty with
    | .threw => none
    | .invalid => some (superClusterQueueEntries (unclustered chunk) chunk.entries)
    | .clustered clusterMap => some (addToProcessingMap (unclustered chunk) clusterMap)

def clusterAt (map : Dict Cluster) (key : String) : List Entry := ((map.get? key).map Cluster.queueEntries).getD []

/-- The property value under the helper used for the event. -/
def helperValue (entry : Entry) : Option String :=
  match chunk.answers entry.event with
  | .clusters clustering => valueOf env clustering entry
  | .other _ _ => none

structure Partitioned (map : Dict Cluster) : Prop where
  once : ∀ entry ∈ chunk.entries, ∃ key, (clusterAt map key).countP (fun other => other.id = entry.id) = 1 ∧
    ∀ other, other ≠ key → ∀ queueEntry ∈ clusterAt map other, queueEntry.id ≠ entry.id
  alike : ∀ key, ∀ left ∈ clusterAt map key, ∀ right ∈ clusterAt map key, left.event = right.event ∧
    helperValue env chunk left = helperValue env chunk right

def isAsked (entry : Entry) : Bool := isSpecific chunk entry || genericClusterRelevantAndAvailable chunk

def keyOf (entry : Entry) : Option String := (helperValue env chunk entry).map (clusterKey entry.event)

/-- The first answer that is no cluster map. -/
def firstInvalid : List Request → Option Value
  | [] => none
  | request::requests =>
    match chunk.answers request.actionName with
    | .clusters _ => firstInvalid requests
    | .other value _ => some value

/-- Events under different keys, keys that are no id, and no event lost by its name. -/
def Separate : Prop :=
  (∀ entry ∈ chunk.entries, entry.event ∉ inherited) ∧
    ∀ left ∈ chunk.entries, ∀ right ∈ chunk.entries, isAsked chunk right = true →
      if isAsked chunk left then keyOf env chunk left = keyOf env chunk right → left.event = right.event
      else keyOf env chunk right ≠ some left.id

/-- When a chunk is clustered without loss and duplicates. -/
def WellClustered : Prop :=
  (genericClusterRelevantAndAvailable chunk = false ∧ specificClusterRelevantAndAvailable chunk = false) ∨
    (∀ request ∈ requests chunk, request.handler ∈ chunk.onHandlers) ∧
      match firstInvalid chunk (requests chunk) with
      | some value => (env.stringify value).isSome = true ∧
          ∀ entry ∈ chunk.entries, isAsked chunk entry = true ∨ entry.event ∈ inherited
      | none => Separate env chunk

section
variable {map : Dict Cluster}

@[simp] theorem clusterAt_empty (key : String) : clusterAt Dict.empty key = [] := rfl

theorem clusterAt_add (name key : String) (entry : Entry) (payload : Value) :
    clusterAt (addEntryToProcessingMap map name entry payload) key =
      clusterAt map key ++ if name = key then [entry] else [] := by
  unfold clusterAt addEntryToProcessingMap
  rw [Dict.get?_set]
  by_cases same : name = key
  · subst same
    cases map.get? name <;> simp
  · have other : key ≠ name := fun equal => same equal.symm
    simp [same,other]

theorem clusterAt_super (entries : List Entry) (key : String) :
    clusterAt (superClusterQueueEntries map entries) key =
      clusterAt map key ++ entries.filter (fun entry => entry.id = key) := by
  induction entries generalizing map with
  | nil => simp [superClusterQueueEntries]
  | cons entry rest ih =>
    have next := @ih (addEntryToProcessingMap map entry.id entry (.obj entry.payload))
    rw [clusterAt_add] at next
    by_cases same : entry.id = key
    · simpa [superClusterQueueEntries,same] using next
    · simpa [superClusterQueueEntries,same] using next

theorem clusterAt_addAll (entries : List Entry) (name key : String) (payload : Value) :
    clusterAt (entries.foldl (fun map entry => addEntryToProcessingMap map name entry payload) map) key =
      clusterAt map key ++ if name = key then entries else [] := by
  induction entries generalizing map with
  | nil => simp
  | cons entry rest ih =>
    rw [List.foldl_cons,ih,clusterAt_add]
    by_cases same : name = key <;> simp [same]

theorem clusterAt_addToProcessingMap (handlerCluster : Dict Cluster) (key : String) :
    clusterAt (addToProcessingMap map handlerCluster) key = clusterAt map key ++ clusterAt handlerCluster key := by
  have folded : ∀ entries : List (String × Cluster), ∀ map : Dict Cluster,
      clusterAt (entries.foldl (fun map entry => entry.2.queueEntries.foldl
        (fun map queueEntry => addEntryToProcessingMap map entry.1 queueEntry entry.2.payload) map) map) key =
        clusterAt map key ++ (entries.filter (fun entry => entry.1 = key)).flatMap (fun entry => entry.2.queueEntries) := by
    intro entries
    induction entries with
    | nil => simp
    | cons entry rest ih =>
      intro map
      rw [List.foldl_cons,ih,clusterAt_addAll]
      by_cases same : entry.1 = key <;> simp [same]
  rw [addToProcessingMap,folded,Dict.filter_key]
  unfold clusterAt
  cases handlerCluster.get? key <;> simp

theorem clusterAt_assign (source : Dict Cluster) (key : String) :
    clusterAt (map.assign source) key = if (source.get? key).isSome then clusterAt source key else clusterAt map key := by
  unfold clusterAt
  rw [Dict.get?_assign]
  cases source.get? key <;> simp

end

/-- Every cluster has an entry and an object as payload. -/
def Sound (clusters : Dict Cluster) : Prop :=
  ∀ key cluster, clusters.get? key = some cluster → cluster.queueEntries ≠ [] ∧ ∃ fields, cluster.payload = .obj fields

theorem Sound.valid {clusters : Dict Cluster} (sound : Sound clusters) :
    validateCluster (valueOfClusters clusters) = true := by
  simp only [validateCluster,valueOfClusters,isTypeObject,isNullOrArray,Bool.not_false,Bool.true_and,Value.ownFields,
    List.all_map,List.all_eq_true]
  intro entry member
  obtain ⟨_,fields,object⟩ := sound entry.1 entry.2 (Dict.mem_entries.mp member)
  simp [Function.comp_apply,validateEntry,property,Value.ownFields,Js.field,object,isTypeObject,isNullOrArray]

theorem Sound.isSome_iff {clusters : Dict Cluster} (sound : Sound clusters) (key : String) :
    (clusters.get? key).isSome = true ↔ clusterAt clusters key ≠ [] := by
  unfold clusterAt
  cases found : clusters.get? key with
  | none => simp
  | some cluster => simpa using (sound key cluster found).1

section
variable {env copy chunk}

theorem addToClusters_spec {clustering : Clustering} {actionName : String} {result next : Dict Cluster} {entry : Entry}
    (sound : Sound result) (added : addToClusters env copy clustering actionName result entry = some next) :
    Sound next ∧ ∃ value, valueOf env clustering entry = some value ∧ ∀ key, clusterAt next key =
      clusterAt result key ++ if clusterKey actionName value = key then [entry] else [] := by
  obtain ⟨data,_,rest⟩ := Option.bind_eq_some_iff.mp added
  obtain ⟨value,known,same⟩ := Option.bind_eq_some_iff.mp rest
  rw [Option.some.injEq] at same
  subst same
  refine ⟨?_,value,known,fun key => clusterAt_add _ key entry _⟩
  intro key cluster found
  unfold addEntryToProcessingMap at found
  rw [Dict.get?_set] at found
  split at found
  · cases found
    refine ⟨by simp,?_⟩
    cases before : result.get? (clusterKey actionName value) with
    | none => exact ⟨_,rfl⟩
    | some old => exact (sound _ old before).2
  · exact sound key cluster found

theorem addAllToClusters_spec {clustering : Clustering} {actionName : String} {entries : List Entry}
    {result clusters : Dict Cluster} (sound : Sound result)
    (added : entries.foldlM (addToClusters env copy clustering actionName) result = some clusters) :
    Sound clusters ∧ (∀ entry ∈ entries, (valueOf env clustering entry).isSome = true) ∧
      ∀ key, clusterAt clusters key = clusterAt result key ++
        entries.filter (fun entry => (valueOf env clustering entry).map (clusterKey actionName) = some key) := by
  induction entries generalizing result with
  | nil =>
    cases added
    exact ⟨sound,by simp,by simp⟩
  | cons entry rest ih =>
    rw [List.foldlM_cons] at added
    obtain ⟨next,first,later⟩ := Option.bind_eq_some_iff.mp added
    obtain ⟨kept,value,known,joined⟩ := addToClusters_spec sound first
    obtain ⟨whole,valued,placed⟩ := ih kept later
    refine ⟨whole,?_,?_⟩
    · intro other member
      rcases List.mem_cons.mp member with rfl | rest
      · rw [known]
        rfl
      · exact valued other rest
    intro key
    rw [placed key,joined key]
    by_cases same : clusterKey actionName value = key <;> simp [known,same]

theorem callBack_spec {cb : String → List Value → Value} {clusters next : Dict Cluster} {entry : String × Cluster}
    (sound : Sound clusters) (listed : clusterAt clusters entry.1 = entry.2.queueEntries)
    (filled : entry.2.queueEntries ≠ []) (called : callBack cb clusters entry = some next) :
    Sound next ∧ ∀ key, clusterAt next key = clusterAt clusters key := by
  unfold callBack at called
  simp only at called
  split at called
  · cases called
    constructor
    · intro key cluster found
      rw [Dict.get?_set] at found
      split at found
      · cases found
        exact ⟨filled,_,rfl⟩
      · exact sound key cluster found
    · intro key
      by_cases same : key = entry.1
      · subst same
        rw [listed]
        simp [clusterAt,Dict.get?_set]
      · simp [clusterAt,Dict.get?_set,same]
  · cases called

theorem clusterBase_spec {clustering : Clustering} {actionName : String} {entries : List Entry} {clusters : Dict Cluster}
    (returns : clusterBase env copy clustering actionName entries = some clusters) :
    Sound clusters ∧ (∀ entry ∈ entries, (valueOf env clustering entry).isSome = true) ∧
      ∀ key, clusterAt clusters key =
        entries.filter (fun entry => (valueOf env clustering entry).map (clusterKey actionName) = some key) := by
  obtain ⟨plain,added,rest⟩ := Option.bind_eq_some_iff.mp returns
  have nothing : Sound Dict.empty := by
    intro key cluster found
    cases found
  obtain ⟨sound,valued,placed⟩ := addAllToClusters_spec nothing added
  simp only [clusterAt_empty,List.nil_append] at placed
  cases callback : clustering.cb with
  | none =>
    rw [callback] at rest
    cases rest
    exact ⟨sound,valued,placed⟩
  | some cb =>
    rw [callback] at rest
    have folded : ∀ items : List (String × Cluster), (∀ entry ∈ items, entry ∈ plain.entries) → ∀ start : Dict Cluster,
        Sound start → (∀ key, clusterAt start key = clusterAt plain key) → ∀ last,
        items.foldlM (callBack cb) start = some last → Sound last ∧ ∀ key, clusterAt last key = clusterAt plain key := by
      intro items
      induction items with
      | nil =>
        intro _ start kept same last ends
        cases ends
        exact ⟨kept,same⟩
      | cons entry items ih =>
        intro inside start kept same last ends
        rw [List.foldlM_cons] at ends
        obtain ⟨next,first,later⟩ := Option.bind_eq_some_iff.mp ends
        have found := Dict.mem_entries.mp (inside entry (by simp))
        have listed : clusterAt start entry.1 = entry.2.queueEntries := by
          rw [same,clusterAt,found]
          rfl
        obtain ⟨after,unchanged⟩ := callBack_spec kept listed (sound _ _ found).1 first
        exact ih (fun other member => inside other (by simp [member])) next after
          (fun key => (unchanged key).trans (same key)) last later
    obtain ⟨kept,same⟩ := folded plain.entries (fun _ member => member) plain sound (fun _ => rfl) clusters rest
    exact ⟨kept,valued,fun key => (same key).trans (placed key)⟩

/-- Every helper that a handler answers with has returned. -/
def Answered (env : Environment) (copy : Value → Option Value) (chunk : Chunk) (requests : List Request) : Prop :=
  ∀ request ∈ requests, ∀ clustering, chunk.answers request.actionName = .clusters clustering →
    (clusterBase env copy clustering request.actionName request.entries).isSome = true

/-- The requests of a chunk: registered handlers, and entries of the event they are asked for. -/
structure Proper (chunk : Chunk) (requests : List Request) : Prop where
  registered : ∀ request ∈ requests, request.handler ∈ chunk.onHandlers
  named : ∀ request ∈ requests, ∀ entry ∈ request.entries, entry.event = request.actionName

theorem Proper.tail {request : Request} {rest : List Request} (proper : Proper chunk (request::rest)) :
    Proper chunk rest :=
  ⟨fun other member => proper.registered other (by simp [member]),
    fun other member => proper.named other (by simp [member])⟩

theorem Answered.tail {request : Request} {rest : List Request} (answered : Answered env copy chunk (request::rest)) :
    Answered env copy chunk rest :=
  fun other member => answered other (by simp [member])

theorem ask_invalid {requests : List Request} (proper : Proper chunk requests)
    (answered : Answered env copy chunk requests) {value : Value} (invalid : firstInvalid chunk requests = some value)
    (clusterMap : Dict Cluster) : ask env copy chunk requests clusterMap = rejected env value := by
  induction requests generalizing clusterMap with
  | nil => cases invalid
  | cons request rest ih =>
    unfold ask
    unfold firstInvalid at invalid
    rw [if_pos (proper.registered request (by simp))]
    cases given : chunk.answers request.actionName with
    | other clusterResult bad =>
      rw [given] at invalid
      cases invalid
      rfl
    | clusters clustering =>
      rw [given] at invalid
      obtain ⟨clusterResult,returns⟩ := Option.isSome_iff_exists.mp (answered request (by simp) clustering given)
      simp only [returns]
      rw [if_pos (clusterBase_spec returns).1.valid]
      exact ih proper.tail answered.tail invalid _

def Apart (env : Environment) (chunk : Chunk) (left right : Request) : Prop :=
  ∀ first ∈ left.entries, ∀ second ∈ right.entries, ∀ key, keyOf env chunk first = some key →
    keyOf env chunk second ≠ some key

structure Asking (env : Environment) (chunk : Chunk) (requests : List Request) (before after : Dict Cluster) : Prop where
  valued : ∀ request ∈ requests, ∀ entry ∈ request.entries, (keyOf env chunk entry).isSome = true
  origin : ∀ key, ∀ entry ∈ clusterAt after key, entry ∈ clusterAt before key ∨
    entry ∈ requests.flatMap Request.entries ∧ keyOf env chunk entry = some key
  placed : (∀ request ∈ requests, ∀ entry ∈ request.entries, ∀ key, keyOf env chunk entry = some key →
    clusterAt before key = []) → requests.Pairwise (Apart env chunk) → ∀ key, clusterAt after key =
      clusterAt before key ++ (requests.flatMap Request.entries).filter (fun entry => keyOf env chunk entry = some key)

theorem ask_valid {requests : List Request} (proper : Proper chunk requests)
    (answered : Answered env copy chunk requests) (valid : firstInvalid chunk requests = none) (before : Dict Cluster) :
    ∃ after, ask env copy chunk requests before = .clustered after ∧ Asking env chunk requests before after := by
  induction requests generalizing before with
  | nil => exact ⟨before,rfl,by simp,fun _ _ member => Or.inl member,by simp⟩
  | cons request rest ih =>
    unfold ask
    unfold firstInvalid at valid
    rw [if_pos (proper.registered request (by simp))]
    cases given : chunk.answers request.actionName with
    | other clusterResult bad =>
      rw [given] at valid
      cases valid
    | clusters clustering =>
      rw [given] at valid
      obtain ⟨clusterResult,returns⟩ := Option.isSome_iff_exists.mp (answered request (by simp) clustering given)
      obtain ⟨sound,valued,own⟩ := clusterBase_spec returns
      have keys : ∀ entry ∈ request.entries, keyOf env chunk entry =
          (valueOf env clustering entry).map (clusterKey request.actionName) := by
        intro entry member
        rw [keyOf,helperValue,proper.named request (by simp) entry member,given]
      have filtered : ∀ key, clusterAt clusterResult key =
          request.entries.filter (fun entry => keyOf env chunk entry = some key) := by
        intro key
        rw [own key]
        apply List.filter_congr
        intro entry member
        rw [keys entry member]
      simp only [returns]
      rw [if_pos sound.valid]
      obtain ⟨after,asked,spec⟩ := ih proper.tail answered.tail valid (before.assign clusterResult)
      refine ⟨after,asked,?_,?_,?_⟩
      · intro other member entry inside
        rcases List.mem_cons.mp member with rfl | later
        · rw [keys entry inside,Option.isSome_map]
          exact valued entry inside
        · exact spec.valued other later entry inside
      · intro key entry member
        rw [List.flatMap_cons,List.mem_append]
        rcases spec.origin key entry member with early | ⟨later,same⟩
        · rw [clusterAt_assign] at early
          split at early
          · rw [filtered key,List.mem_filter] at early
            exact Or.inr ⟨Or.inl early.1,of_decide_eq_true early.2⟩
          · exact Or.inl early
        · exact Or.inr ⟨Or.inr later,same⟩
      · intro free apart key
        rw [List.pairwise_cons] at apart
        have added : ∀ key, clusterAt (before.assign clusterResult) key =
            clusterAt before key ++ request.entries.filter (fun entry => keyOf env chunk entry = some key) := by
          intro key
          rw [clusterAt_assign,← filtered key]
          by_cases present : clusterAt clusterResult key = []
          · rw [if_neg (fun some => (sound.isSome_iff key).mp some present),present,List.append_nil]
          · rw [if_pos ((sound.isSome_iff key).mpr present)]
            obtain ⟨entry,member⟩ := List.exists_mem_of_ne_nil _ present
            rw [filtered key,List.mem_filter] at member
            rw [free request (by simp) entry member.1 key (of_decide_eq_true member.2),List.nil_append]
        rw [spec.placed ?_ apart.2 key,added key,List.flatMap_cons,List.filter_append,List.append_assoc]
        intro other member entry inside key same
        rw [added key,free other (by simp [member]) entry inside key same,List.nil_append,List.filter_eq_nil_iff]
        intro first listed equal
        exact apart.1 other member first listed entry inside key (of_decide_eq_true equal) same

def enumerated (chunk : Chunk) (specific : Bool) (entry : Entry) : Bool :=
  (isSpecific chunk entry == specific) && !(decide (entry.event ∈ inherited))

/-- The entries whose event is enumerated, asked about or not. -/
def listed (chunk : Chunk) (asked : Bool) (entry : Entry) : Bool :=
  (isAsked chunk entry == asked) && !(decide (entry.event ∈ inherited))

theorem enumerated_isSpecific {specific : Bool} {entry : Entry} (own : enumerated chunk specific entry = true) :
    isSpecific chunk entry = specific := by
  rw [enumerated,Bool.and_eq_true,beq_iff_eq] at own
  exact own.1

theorem clusterByAction_eq : clusterByAction chunk =
    (Dict.group Entry.event (chunk.entries.filter (enumerated chunk false)) Dict.empty,
      Dict.group Entry.event (chunk.entries.filter (enumerated chunk true)) Dict.empty) := by
  have folded : ∀ entries : List Entry, ∀ generic specific : Dict (List Entry),
      entries.foldl (fun (result : Dict (List Entry) × Dict (List Entry)) entry =>
        if isSpecific chunk entry then (result.1,addEvent result.2 entry) else (addEvent result.1 entry,result.2))
        (generic,specific) =
      (Dict.group Entry.event (entries.filter (enumerated chunk false)) generic,
        Dict.group Entry.event (entries.filter (enumerated chunk true)) specific) := by
    intro entries
    induction entries with
    | nil =>
      intro generic specific
      rfl
    | cons entry rest ih =>
      intro generic specific
      rw [List.foldl_cons]
      by_cases own : isSpecific chunk entry = true
      · rw [if_pos own,ih]
        by_cases lost : entry.event ∈ inherited <;> simp [enumerated,own,lost,addEvent,Dict.group]
      · rw [if_neg own,ih]
        by_cases lost : entry.event ∈ inherited <;> simp [enumerated,own,lost,addEvent,Dict.group]
  exact folded chunk.entries Dict.empty Dict.empty

theorem isSpecific_congr {left right : Entry} (same : left.event = right.event) :
    isSpecific chunk left = isSpecific chunk right := by
  rw [isSpecific,isSpecific,same]

theorem flatMap_requestsOf (handler : String → String) (events : Dict (List Entry)) :
    (requestsOf handler events).flatMap Request.entries = events.entries.flatMap Prod.snd := by
  rw [requestsOf,List.flatMap_map]

theorem asked_perm : ((requests chunk).flatMap Request.entries).Perm (chunk.entries.filter (listed chunk true)) := by
  have generic := Dict.group_perm Entry.event (chunk.entries.filter (enumerated chunk false)) Dict.empty
  have specific := Dict.group_perm Entry.event (chunk.entries.filter (enumerated chunk true)) Dict.empty
  rw [requests,List.flatMap_append,flatMap_requestsOf,clusterByAction_eq]
  cases available : genericClusterRelevantAndAvailable chunk with
  | false =>
    refine specific.trans (List.Perm.of_eq ?_)
    simp only [Dict.empty,List.flatMap_nil,List.nil_append]
    apply List.filter_congr
    intro entry _
    simp [listed,enumerated,isAsked,available]
  | true =>
    rw [if_pos rfl,flatMap_requestsOf]
    refine (generic.append specific).trans ?_
    have split := List.filter_append_perm (isSpecific chunk)
      (chunk.entries.filter (fun entry => !(decide (entry.event ∈ inherited))))
    rw [List.filter_filter,List.filter_filter] at split
    have specificOnes : enumerated chunk true =
        fun entry => isSpecific chunk entry && !(decide (entry.event ∈ inherited)) := by
      funext entry
      simp [enumerated]
    have genericOnes : enumerated chunk false =
        fun entry => !isSpecific chunk entry && !(decide (entry.event ∈ inherited)) := by
      funext entry
      simp [enumerated]
    rw [← specificOnes,← genericOnes] at split
    have same : chunk.entries.filter (listed chunk true) =
        chunk.entries.filter (fun entry => !(decide (entry.event ∈ inherited))) := by
      apply List.filter_congr
      intro entry _
      simp [listed,isAsked,available]
    rw [same]
    simp only [Dict.empty,List.flatMap_nil,List.nil_append]
    exact List.perm_append_comm.trans split

/-- What stands in the processing map before any handler is asked. -/
def unasked (chunk : Chunk) : List Entry :=
  if genericClusterRelevantAndAvailable chunk then [] else (clusterByAction chunk).1.entries.flatMap Prod.snd

theorem unasked_perm : (unasked chunk).Perm (chunk.entries.filter (listed chunk false)) := by
  unfold unasked
  cases available : genericClusterRelevantAndAvailable chunk with
  | true =>
    have nothing : chunk.entries.filter (listed chunk false) = [] := by
      rw [List.filter_eq_nil_iff]
      intro entry _
      simp [listed,isAsked,available]
    rw [if_pos rfl,nothing]
  | false =>
    rw [if_neg Bool.false_ne_true,clusterByAction_eq]
    refine (Dict.group_perm Entry.event _ Dict.empty).trans (List.Perm.of_eq ?_)
    simp only [Dict.empty,List.flatMap_nil,List.nil_append]
    apply List.filter_congr
    intro entry _
    simp [listed,enumerated,isAsked,available]

theorem clusterAt_unclustered (key : String) :
    clusterAt (unclustered chunk) key = (unasked chunk).filter (fun entry => entry.id = key) := by
  have folded : ∀ groups : List (String × List Entry), ∀ map : Dict Cluster,
      clusterAt (groups.foldl (fun map entry => superClusterQueueEntries map entry.2) map) key =
        clusterAt map key ++ (groups.flatMap Prod.snd).filter (fun entry => entry.id = key) := by
    intro groups
    induction groups with
    | nil => simp
    | cons entry rest ih =>
      intro map
      rw [List.foldl_cons,ih,clusterAt_super,List.flatMap_cons,List.filter_append,List.append_assoc]
  unfold unclustered unasked
  split
  · rfl
  · rw [folded,clusterAt_empty,List.nil_append]

theorem entry_unique {left right : Entry} (first : left ∈ chunk.entries) (second : right ∈ chunk.entries)
    (same : left.id = right.id) : left = right :=
  List.inj_on_of_nodup_map chunk.distinct first second same

theorem mem_listed {entry : Entry} {asked : Bool} :
    entry ∈ chunk.entries.filter (listed chunk asked) ↔
      entry ∈ chunk.entries ∧ isAsked chunk entry = asked ∧ entry.event ∉ inherited := by
  simp [List.mem_filter,listed]

theorem count_once {entries : List Entry} {keep other : Entry → Bool} (permuted : entries.Perm (chunk.entries.filter keep))
    {entry : Entry} (member : entry ∈ chunk.entries) (kept : keep entry = true) (chosen : other entry = true) :
    (entries.filter other).countP (fun found => found.id = entry.id) = 1 := by
  rw [List.countP_filter,permuted.countP_eq,List.countP_filter]
  have alone : chunk.entries.countP (fun found => (decide (found.id = entry.id) && other found) && keep found) =
      chunk.entries.countP (fun found => found.id = entry.id) := by
    apply List.countP_congr
    intro found inside
    by_cases same : found.id = entry.id
    · rw [entry_unique inside member same]
      simp [kept,chosen]
    · simp [same]
  rw [alone]
  have counted := List.count_eq_one_of_mem chunk.distinct (List.mem_map_of_mem member)
  rw [List.count,List.countP_map] at counted
  rw [← counted]
  apply List.countP_congr
  intro found _
  simp

theorem named_requestsOf {handler : String → String} {keep : Entry → Bool} {request : Request}
    (member : request ∈ requestsOf handler (Dict.group Entry.event (chunk.entries.filter keep) Dict.empty)) :
    request.handler = handler request.actionName ∧
      ∀ entry ∈ request.entries, entry ∈ chunk.entries ∧ keep entry = true ∧ entry.event = request.actionName := by
  obtain ⟨⟨name,entries⟩,listed,rfl⟩ := List.mem_map.mp member
  refine ⟨rfl,?_⟩
  intro entry inside
  rw [Dict.mem_group listed,List.mem_filter,List.mem_filter] at inside
  exact ⟨inside.1.1,inside.1.2,of_decide_eq_true inside.2⟩

theorem requests_named {request : Request} (member : request ∈ requests chunk) :
    ∀ entry ∈ request.entries, entry.event = request.actionName := by
  rw [requests,clusterByAction_eq,List.mem_append] at member
  intro entry inside
  rcases member with generic | specific
  · split at generic
    · exact ((named_requestsOf generic).2 entry inside).2.2
    · cases generic
  · exact ((named_requestsOf specific).2 entry inside).2.2

theorem ask_unregistered (request : Request) (member : request ∈ requests chunk)
    (missing : request.handler ∉ chunk.onHandlers) : ask env copy chunk (requests chunk) Dict.empty = .threw := by
  rw [requests,clusterByAction_eq] at member ⊢
  rcases List.mem_append.mp member with generic | specific
  · split at generic
    · rename_i available
      rw [if_pos available]
      rw [(named_requestsOf generic).1] at missing
      cases made : requestsOf (fun _ => CLUSTER)
          (Dict.group Entry.event (chunk.entries.filter (enumerated chunk false)) Dict.empty) with
      | nil =>
        rw [made] at generic
        cases generic
      | cons first rest =>
        have handler := (named_requestsOf (made ▸ List.mem_cons_self : first ∈ _)).1
        rw [List.cons_append,ask,if_neg (handler ▸ missing)]
    · cases generic
  · exfalso
    apply missing
    obtain ⟨handler,inside⟩ := named_requestsOf specific
    obtain ⟨⟨name,entries⟩,listed,rfl⟩ := List.mem_map.mp specific
    have filled : entries ≠ [] := Dict.group_ne_nil (by simp) (Dict.mem_entries.mp listed)
    obtain ⟨entry,member⟩ := List.exists_mem_of_ne_nil _ filled
    obtain ⟨_,kept,event⟩ := inside entry member
    have own := enumerated_isSpecific kept
    rw [isSpecific,Bool.and_eq_true] at own
    rw [handler,← event]
    exact of_decide_eq_true own.1

theorem apart_requestsOf {handler : String → String} {keep : Entry → Bool}
    (separate : ∀ left ∈ chunk.entries, ∀ right ∈ chunk.entries, keep left = true → keep right = true →
      ∀ key, keyOf env chunk left = some key → keyOf env chunk right = some key → left.event = right.event) :
    (requestsOf handler (Dict.group Entry.event (chunk.entries.filter keep) Dict.empty)).Pairwise (Apart env chunk) := by
  have names := (Dict.group Entry.event (chunk.entries.filter keep) Dict.empty).nodup
  rw [List.Nodup,List.pairwise_map] at names
  rw [requestsOf,List.pairwise_map]
  refine names.imp_of_mem ?_
  intro left right one other differ first inside second within key same equal
  rw [Dict.mem_group one,List.mem_filter,List.mem_filter] at inside
  rw [Dict.mem_group other,List.mem_filter,List.mem_filter] at within
  apply differ
  rw [← of_decide_eq_true inside.2,← of_decide_eq_true within.2]
  exact separate first inside.1.1 second within.1.1 inside.1.2 within.1.2 key same equal

theorem apart_requests (separate : ∀ left ∈ chunk.entries, ∀ right ∈ chunk.entries, isAsked chunk left = true →
    isAsked chunk right = true → ∀ key, keyOf env chunk left = some key → keyOf env chunk right = some key →
      left.event = right.event) : (requests chunk).Pairwise (Apart env chunk) := by
  rw [requests,clusterByAction_eq,List.pairwise_append]
  refine ⟨?_,?_,?_⟩
  · split
    · rename_i available
      apply apart_requestsOf
      intro left first right second _ _
      exact separate left first right second (by simp [isAsked,available]) (by simp [isAsked,available])
    · exact List.Pairwise.nil
  · apply apart_requestsOf
    intro left first right second one other
    exact separate left first right second (by simp [isAsked,enumerated_isSpecific one])
      (by simp [isAsked,enumerated_isSpecific other])
  · intro left generic right specific first inside second within key same equal
    split at generic
    · rename_i available
      obtain ⟨one,kept,_⟩ := (named_requestsOf generic).2 first inside
      obtain ⟨other,own,_⟩ := (named_requestsOf specific).2 second within
      have specific := enumerated_isSpecific own
      have event := separate first one second other (by simp [isAsked,available]) (by simp [isAsked,specific]) key same equal
      have generic := enumerated_isSpecific kept
      rw [isSpecific_congr event,specific] at generic
      cases generic
    · cases generic

theorem super_partitioned {map : Dict Cluster} (free : ∀ key, clusterAt map key = []) :
    Partitioned env chunk (superClusterQueueEntries map chunk.entries) := by
  have placed : ∀ key, clusterAt (superClusterQueueEntries map chunk.entries) key =
      chunk.entries.filter (fun entry => entry.id = key) := by
    intro key
    rw [clusterAt_super,free key,List.nil_append]
  constructor
  · intro entry member
    refine ⟨entry.id,?_,?_⟩
    · have whole : chunk.entries.Perm (chunk.entries.filter (fun _ => true)) := by simp
      rw [placed]
      exact count_once whole member rfl (by simp)
    · intro other differ found inside
      rw [placed,List.mem_filter] at inside
      rw [of_decide_eq_true inside.2]
      exact differ
  · intro key left first right second
    rw [placed,List.mem_filter] at first second
    have same := entry_unique first.1 second.1 ((of_decide_eq_true first.2).trans (of_decide_eq_true second.2).symm)
    rw [same]
    exact ⟨rfl,rfl⟩

/-- Entries that stand in the map already get there a second time. -/
theorem fallback_partitioned : Partitioned env chunk (superClusterQueueEntries (unclustered chunk) chunk.entries) ↔
    ∀ entry ∈ chunk.entries, isAsked chunk entry = true ∨ entry.event ∈ inherited := by
  constructor
  · intro partitioned entry member
    by_contra neither
    rw [not_or,Bool.not_eq_true] at neither
    have kept : listed chunk false entry = true := by simp [listed,neither]
    have whole : chunk.entries.Perm (chunk.entries.filter (fun _ => true)) := by simp
    have first := @count_once chunk _ _ (fun found => found.id = entry.id) unasked_perm entry member kept (by simp)
    have second := @count_once chunk _ _ (fun found => found.id = entry.id) whole entry member rfl (by simp)
    obtain ⟨key,once,elsewhere⟩ := partitioned.once entry member
    by_cases own : entry.id = key
    · subst own
      rw [clusterAt_super,clusterAt_unclustered,List.countP_append,first,second] at once
      omega
    · refine elsewhere entry.id own entry ?_ rfl
      rw [clusterAt_super,List.mem_append,List.mem_filter]
      exact Or.inr ⟨member,by simp⟩
  · intro all
    apply super_partitioned
    intro key
    rw [clusterAt_unclustered]
    have nothing : unasked chunk = [] := by
      have empty : chunk.entries.filter (listed chunk false) = [] := by
        rw [List.filter_eq_nil_iff]
        intro entry member
        rcases all entry member with asked | lost
        · simp [listed,asked]
        · simp [listed,lost]
      have permuted := @unasked_perm chunk
      rw [empty] at permuted
      exact permuted.eq_nil
    rw [nothing,List.filter_nil]

theorem clusterKey_injective {actionName left right : String}
    (same : clusterKey actionName left = clusterKey actionName right) : left = right := by
  have lists := congrArg String.toList same
  simp only [clusterKey,String.toList_append,List.append_assoc,List.append_cancel_left_eq] at lists
  exact String.toList_injective lists

/-- Where the entries of a chunk are when every answer is a cluster map. -/
structure Located (env : Environment) (chunk : Chunk) (map : Dict Cluster) : Prop where
  valued : ∀ entry ∈ chunk.entries, isAsked chunk entry = true → entry.event ∉ inherited →
    ∃ key, keyOf env chunk entry = some key
  origin : ∀ key, ∀ entry ∈ clusterAt map key, entry ∈ chunk.entries ∧ entry.event ∉ inherited ∧
    if isAsked chunk entry then keyOf env chunk entry = some key else entry.id = key
  placed : Separate env chunk → ∀ key, clusterAt map key = (unasked chunk).filter (fun entry => entry.id = key) ++
    ((requests chunk).flatMap Request.entries).filter (fun entry => keyOf env chunk entry = some key)

theorem clustered_located (registered : ∀ request ∈ requests chunk, request.handler ∈ chunk.onHandlers)
    (answered : Answered env copy chunk (requests chunk)) (valid : firstInvalid chunk (requests chunk) = none) :
    ∃ clusterMap, ask env copy chunk (requests chunk) Dict.empty = .clustered clusterMap ∧
      Located env chunk (addToProcessingMap (unclustered chunk) clusterMap) := by
  obtain ⟨clusterMap,asked,spec⟩ := ask_valid ⟨registered,fun _ member => requests_named member⟩ answered valid Dict.empty
  refine ⟨clusterMap,asked,?_,?_,?_⟩
  · intro entry member own named
    have inside := asked_perm.mem_iff.mpr (mem_listed.mpr ⟨member,own,named⟩)
    obtain ⟨request,made,within⟩ := List.mem_flatMap.mp inside
    exact Option.isSome_iff_exists.mp (spec.valued request made entry within)
  · intro key entry member
    rw [clusterAt_addToProcessingMap,clusterAt_unclustered,List.mem_append,List.mem_filter] at member
    rcases member with ⟨early,same⟩ | late
    · obtain ⟨inside,unasked,named⟩ := mem_listed.mp (unasked_perm.mem_iff.mp early)
      refine ⟨inside,named,?_⟩
      rw [unasked,if_neg Bool.false_ne_true]
      exact of_decide_eq_true same
    · rcases spec.origin key entry late with nothing | ⟨listed,same⟩
      · cases nothing
      · obtain ⟨inside,own,named⟩ := mem_listed.mp (asked_perm.mem_iff.mp listed)
        refine ⟨inside,named,?_⟩
        rw [own,if_pos rfl]
        exact same
  · intro separate key
    rw [clusterAt_addToProcessingMap,clusterAt_unclustered,spec.placed (by simp) ?_ key,clusterAt_empty,List.nil_append]
    apply apart_requests
    intro left first right second one other key same equal
    have event := separate.2 left first right second other
    rw [if_pos one] at event
    exact event (same.trans equal.symm)

theorem Located.separate {map : Dict Cluster} (located : Located env chunk map)
    (partitioned : Partitioned env chunk map) : Separate env chunk := by
  have found : ∀ entry ∈ chunk.entries, ∃ key, entry ∈ clusterAt map key := by
    intro entry member
    obtain ⟨key,once,_⟩ := partitioned.once entry member
    have positive : 0 < (clusterAt map key).countP (fun other => other.id = entry.id) := by omega
    obtain ⟨other,inside,same⟩ := List.countP_pos_iff.mp positive
    obtain ⟨own,_⟩ := located.origin key other inside
    rw [← entry_unique own member (of_decide_eq_true same)]
    exact ⟨key,inside⟩
  constructor
  · intro entry member
    obtain ⟨key,inside⟩ := found entry member
    exact (located.origin key entry inside).2.1
  · intro left first right second asked
    obtain ⟨key,one⟩ := found left first
    obtain ⟨other,two⟩ := found right second
    have lies := (located.origin key left one).2.2
    have joined := (located.origin other right two).2.2
    rw [if_pos asked] at joined
    split
    · rename_i own
      rw [if_pos own] at lies
      intro same
      rw [lies,joined,Option.some.injEq] at same
      subst same
      exact (partitioned.alike key left one right two).1
    · rename_i own
      rw [if_neg own] at lies
      intro same
      rw [joined,Option.some.injEq] at same
      subst same
      rw [lies] at two
      have event := (partitioned.alike key left one right two).1
      have equal := @isSpecific_congr chunk left right event
      simp only [isAsked,Bool.or_eq_true,not_or] at own asked
      rw [equal] at own
      exact asked.elim own.1 own.2

/-- The key of a cluster is not the id of an entry that no handler is asked about. -/
theorem Separate.outside (separate : Separate env chunk) {left right : Entry} (first : left ∈ chunk.entries)
    (second : right ∈ chunk.entries) (unasked : isAsked chunk left = false) (asked : isAsked chunk right = true) :
    keyOf env chunk right ≠ some left.id := by
  have apart := separate.2 left first right second asked
  rwa [unasked,if_neg Bool.false_ne_true] at apart

theorem Located.once {map : Dict Cluster} (located : Located env chunk map) (separate : Separate env chunk)
    {entry : Entry} (member : entry ∈ chunk.entries) :
    ∃ key, (clusterAt map key).countP (fun other => other.id = entry.id) = 1 ∧
      ∀ other, other ≠ key → ∀ found ∈ clusterAt map other, found.id ≠ entry.id := by
  have placed := located.placed separate
  have named := separate.1 entry member
  cases own : isAsked chunk entry with
  | true =>
    obtain ⟨key,joined⟩ := located.valued entry member own named
    refine ⟨key,?_,?_⟩
    · have alone : (unasked chunk).filter (fun other => other.id = key) = [] := by
        rw [List.filter_eq_nil_iff]
        intro other early same
        obtain ⟨inside,unasked,_⟩ := mem_listed.mp (unasked_perm.mem_iff.mp early)
        exact separate.outside inside member unasked own (of_decide_eq_true same ▸ joined)
      have kept : listed chunk true entry = true := by simp [listed,own,named]
      rw [placed,alone,List.nil_append]
      exact count_once asked_perm member kept (decide_eq_true joined)
    · intro other differ found inside same
      obtain ⟨within,_,lies⟩ := located.origin other found inside
      rw [entry_unique within member same,own,if_pos rfl,joined,Option.some.injEq] at lies
      exact differ lies.symm
  | false =>
    refine ⟨entry.id,?_,?_⟩
    · have alone : ((requests chunk).flatMap Request.entries).filter
          (fun other => keyOf env chunk other = some entry.id) = [] := by
        rw [List.filter_eq_nil_iff]
        intro other late same
        obtain ⟨inside,asked,_⟩ := mem_listed.mp (asked_perm.mem_iff.mp late)
        exact separate.outside member inside own asked (of_decide_eq_true same)
      have kept : listed chunk false entry = true := by simp [listed,own,named]
      rw [placed,alone,List.append_nil]
      exact count_once unasked_perm member kept (by simp)
    · intro other differ found inside same
      obtain ⟨within,_,lies⟩ := located.origin other found inside
      rw [entry_unique within member same,own,if_neg Bool.false_ne_true] at lies
      exact differ lies.symm

theorem Located.alike {map : Dict Cluster} (located : Located env chunk map) (separate : Separate env chunk)
    {key : String} {left right : Entry} (first : left ∈ clusterAt map key) (second : right ∈ clusterAt map key) :
    left.event = right.event ∧ helperValue env chunk left = helperValue env chunk right := by
  obtain ⟨one,_,lies⟩ := located.origin key left first
  obtain ⟨two,_,joined⟩ := located.origin key right second
  cases own : isAsked chunk left with
  | true =>
    rw [own,if_pos rfl] at lies
    cases asked : isAsked chunk right with
    | true =>
      rw [asked,if_pos rfl] at joined
      have event := separate.2 left one right two asked
      rw [if_pos own] at event
      have same := event (lies.trans joined.symm)
      obtain ⟨value,known,join⟩ := Option.map_eq_some_iff.mp lies
      obtain ⟨other,given,join'⟩ := Option.map_eq_some_iff.mp joined
      rw [same,← join'] at join
      refine ⟨same,?_⟩
      rw [known,given,clusterKey_injective join]
    | false =>
      rw [asked,if_neg Bool.false_ne_true] at joined
      exact absurd (joined ▸ lies) (separate.outside two one asked own)
  | false =>
    rw [own,if_neg Bool.false_ne_true] at lies
    cases asked : isAsked chunk right with
    | true =>
      rw [asked,if_pos rfl] at joined
      exact absurd (lies ▸ joined) (separate.outside one two own asked)
    | false =>
      rw [asked,if_neg Bool.false_ne_true] at joined
      rw [entry_unique one two (lies.trans joined.symm)]
      exact ⟨rfl,rfl⟩

theorem Located.partitioned {map : Dict Cluster} (located : Located env chunk map) :
    Partitioned env chunk map ↔ Separate env chunk := by
  constructor
  · exact located.separate
  · intro separate
    exact ⟨fun entry member => located.once separate member,
      fun key left first right second => located.alike separate first second⟩

end

theorem clustering_partitions_iff (answered : Answered env copy chunk (requests chunk)) :
    (∃ map, clusterQueueEntries env copy chunk = some map ∧ Partitioned env chunk map) ↔ WellClustered env chunk := by
  unfold clusterQueueEntries WellClustered
  by_cases off : genericClusterRelevantAndAvailable chunk = false ∧ specificClusterRelevantAndAvailable chunk = false
  · rw [if_pos (by simp [off])]
    exact iff_of_true ⟨_,rfl,super_partitioned clusterAt_empty⟩ (Or.inl off)
  · rw [if_neg (by simpa using off),or_iff_right off]
    by_cases registered : ∀ request ∈ requests chunk, request.handler ∈ chunk.onHandlers
    · rw [and_iff_right registered]
      cases first : firstInvalid chunk (requests chunk) with
      | some value =>
        have proper : Proper chunk (requests chunk) := ⟨registered,fun _ member => requests_named member⟩
        rw [ask_invalid proper answered first Dict.empty,rejected]
        by_cases serialised : (env.stringify value).isSome = true
        · rw [if_pos serialised]
          dsimp only
          rw [and_iff_right serialised,← @fallback_partitioned env chunk]
          simp
        · simp [serialised]
      | none =>
        obtain ⟨clusterMap,asked,located⟩ := clustered_located registered answered first
        simp only [asked,Option.some.injEq,exists_eq_left']
        exact located.partitioned
    · have unasked : ∃ request ∈ requests chunk, request.handler ∉ chunk.onHandlers := by
        push Not at registered
        exact registered
      obtain ⟨request,member,missing⟩ := unasked
      rw [ask_unregistered request member missing]
      exact iff_of_false (by simp) (fun both => registered both.1)

/-- A handler that clusters mails by their receiver. -/
def byReceiver : Answer := .clusters ⟨.clusterByDataProperty,["to"],none⟩

def mail (id event receiver : String) : Entry :=
  ⟨id,event,[("ID",.str id)],[("event",.str event),("data",.obj [("to",.str receiver)])]⟩

def twoMails : Chunk where
  onHandlers := ["eventQueueCluster"]
  modified := ["sendMail"]
  entries := [mail "a" "sendMail" "x",mail "b" "sendMail" "x"]
  answers _ := byReceiver
  distinct := by decide
  seen := by simp [mail]

theorem clustering_partitions_iff_mails : Answered .plain some twoMails (requests twoMails) ∧
    ∃ map, clusterQueueEntries .plain some twoMails = some map ∧ Partitioned .plain twoMails map := by
  have asked : requests twoMails =
      [⟨"eventQueueCluster","sendMail",[mail "a" "sendMail" "x",mail "b" "sendMail" "x"]⟩] := rfl
  have answered : Answered .plain some twoMails (requests twoMails) := by
    intro request member clustering given
    rw [asked,List.mem_singleton] at member
    subst member
    cases given
    rfl
  refine ⟨answered,(clustering_partitions_iff .plain some twoMails answered).mpr (Or.inr ⟨?_,?_⟩)⟩
  · rw [asked]
    simp [twoMails]
  · have valid : firstInvalid twoMails (requests twoMails) = none := rfl
    have same : ∀ entry ∈ twoMails.entries, entry.event = "sendMail" := by simp [twoMails,mail]
    have everyone : ∀ entry ∈ twoMails.entries, isAsked twoMails entry = true := by
      intro entry _
      have available : genericClusterRelevantAndAvailable twoMails = true := by decide
      simp [isAsked,available]
    rw [valid]
    constructor
    · intro entry member
      rw [same entry member]
      decide
    · intro left first right second _
      rw [if_pos (everyone left first),same left first,same right second]
      exact fun _ => rfl

/-- Only `action` has a cluster handler, and that answers with a text. -/
def invalidAnswer : Chunk where
  onHandlers := ["eventQueueCluster.action"]
  modified := ["main","action"]
  entries := [mail "a" "main" "x",mail "b" "action" "x"]
  answers _ := .other (.str "invalid") rfl
  distinct := by decide
  seen := by simp [mail]

theorem invalid_answer_duplicates : ∃ map, clusterQueueEntries .plain some invalidAnswer = some map ∧
    clusterAt map "a" = [mail "a" "main" "x",mail "a" "main" "x"] ∧ ¬ Partitioned .plain invalidAnswer map := by
  refine ⟨superClusterQueueEntries (unclustered invalidAnswer) invalidAnswer.entries,rfl,rfl,?_⟩
  intro partitioned
  have twice := fallback_partitioned.mp partitioned (mail "a" "main" "x") (by simp [invalidAnswer])
  exact absurd twice (by decide)

end EventQueue.OutboxCluster

import EventQueue.PublishEvent

/-! A request through an outboxed service: the publisher writes it into the payload of a queue entry,
the consumer builds the request to dispatch from the payload it has read. -/
namespace EventQueue.Outbox
open Js (Value Json field)
open Publish (property)

def CDS_EVENT_TYPE : String := "CAP_OUTBOX"
def EVENT_QUEUE_SPECIFIC_FIELDS : List String := ["startAfter","referenceEntity","referenceEntityKey","namespace"]
def TO_COPY : List String :=
  ["inbound","event","data","queue","results","method","path","params","entity","service"]

structure Request where
  fields : Dict Value
  headers : Dict Value
  /-- A send has a `reply`, an emit has none. -/
  reply : Bool

structure Context where
  userId : Value
  headers : Dict Value
  properties : Dict Value

structure OutboxOpts where
  nameSpace : Value
  subType : String
  propagateHeaders : List String
  propagateContextProperties : List String
  useEventQueueUser : Bool

/-- What the code takes from the language and from CAP. -/
structure Platform where
  runtime : Publish.Runtime
  toLocaleLowerCase : String → String
  /-- `JSON.parse`, none if it throws. -/
  parse : Value → Option Value
  /-- `new cds.Request(payload)` or `new cds.Event(payload)`. -/
  create : (fromSend : Bool) → (payload : List (String × Value)) → List (String × Value)

inductive InvocationFn
  | send
  | emit
  deriving DecidableEq

structure Dispatch where
  req : List (String × Value)
  userId : Value
  invocationFn : InvocationFn
  payload : List (String × Value)
  triggerEvent : Option Value

section
variable (platform : Platform) (opts : OutboxOpts) (context : Context) (request : Request)

def getPropagatedHeaders : Dict Value := (Dict.pick opts.propagateHeaders context.headers).assign request.headers

def getPropagateContextProperties : Dict Value := Dict.pick opts.propagateContextProperties context.properties

/-- The field of the queue entry that a header stands for. -/
def specificField (header : String) : Option String :=
  EVENT_QUEUE_SPECIFIC_FIELDS.find? (fun name => platform.toLocaleLowerCase header ==
    "x-eventqueue-" ++ platform.toLocaleLowerCase name)

def eventQueueSpecificValues : Dict Value :=
  request.headers.entries.foldl (fun values entry =>
    match specificField platform entry.1 with
    | none => values
    | some name => values.set name entry.2) Dict.empty

/-- The loop deletes the headers of the request that stand for fields of the entry. -/
def eventHeaders : Dict Value :=
  (getPropagatedHeaders opts context request).filter (fun header _ =>
    !(request.headers.contains header && (specificField platform header).isSome))

def eventOf : Dict Value :=
  let base := Dict.empty.set "contextUser" context.userId
  let sent := if request.reply then base.set "_fromSend" (.bool true) else base
  let headed := sent.set "headers" (.obj (eventHeaders platform opts context request).entries)
  TO_COPY.foldl (fun event prop =>
      if (property request.fields prop).truthy then event.set prop (property request.fields prop) else event)
    (headed.assign (getPropagateContextProperties opts context))

def orElse (value other : Value) : Value :=
  match value with
  | .undefined => other
  | .null => other
  | value => value

def entryOf (payload : Value) : Dict Value :=
  let specific := eventQueueSpecificValues platform request
  let base := ((Dict.empty.set "type" (.str CDS_EVENT_TYPE)).set "subType" (.str opts.subType)).set "payload" payload
  (base.set "namespace" (orElse (property specific "namespace") opts.nameSpace)).assign specific

def publishCall (now : Nat) (traceContext : Value) (entry : Dict Value) : Publish.Call :=
  ⟨[entry],false,false,true,(property (eventQueueSpecificValues platform request) "namespace").truthy,now,traceContext⟩

/-- `_mapToEventAndPublish` for a request without a query; the result is the inserted row. -/
def mapToEventAndPublish (config : Publish.Config) (now : Nat) (traceContext : Value) :
    Except Publish.PublishError (Dict Value) :=
  let event := Value.obj (eventOf platform opts context request).entries
  match platform.runtime.stringify event with
  | none => .error (.notSerialisable event)
  | some payload =>
    let entry := entryOf platform opts request payload
    Publish.prepare platform.runtime config (publishCall platform request now traceContext entry) entry

def modifyQueueEntry (payload : Value) : Value := (platform.parse payload).getD payload

def triggerEventOf (data : Value) : Value :=
  match data with
  | .obj fields => (field fields "triggerEvent").getD .undefined
  | _ => .undefined

def withoutTriggerEvent (data : Value) : Value :=
  match data with
  | .obj fields => .obj (fields.filter (fun entry => entry.1 ≠ "triggerEvent"))
  | data => data

def payloadTriggerEvent (payload : List (String × Value)) : Value :=
  triggerEventOf ((field payload "data").getD .undefined)

/-- `triggerEvent` belongs to successor events and is taken out of the data. -/
def dispatchedPayload (payload : List (String × Value)) : List (String × Value) :=
  if (payloadTriggerEvent payload).truthy then
    payload.map (fun entry => if entry.1 = "data" then ("data",withoutTriggerEvent entry.2) else entry)
  else payload

def isFromSend (payload : List (String × Value)) : Bool := ((field payload "_fromSend").getD .undefined).truthy

def requestOf (payload : List (String × Value)) : List (String × Value) :=
  (platform.create (isFromSend payload) payload).filter (fun entry =>
    entry.1 ≠ "_fromSend" && entry.1 ≠ "contextUser")

/-- A payload that is no object cannot be dispatched. -/
def buildDispatchData (configUserId : Value) (payload : Value) : Option Dispatch :=
  match payload with
  | .obj fields =>
    let payload := dispatchedPayload fields
    let triggerEvent := payloadTriggerEvent fields
    some {
      req := requestOf platform payload
      userId := if opts.useEventQueueUser then configUserId else (field payload "contextUser").getD .undefined
      invocationFn := if isFromSend payload then .send else .emit
      payload := payload
      triggerEvent := if triggerEvent.truthy then platform.parse triggerEvent else none }
  | _ => none

end

section
variable (platform : Platform) (opts : OutboxOpts) (context : Context) (request : Request)

/-- Everything that goes into the payload is a JSON value. -/
structure JsonRequest : Prop where
  fields : ∀ name value, request.fields.get? name = some value → value = .undefined ∨ Json value
  headers : ∀ name value, request.headers.get? name = some value → Json value
  userId : Json context.userId
  propagateHeaders : ∀ name ∈ opts.propagateHeaders, ∀ value, context.headers.get? name = some value → Json value
  propagateContextProperties : ∀ name ∈ opts.propagateContextProperties, ∀ value,
    context.properties.get? name = some value → Json value

structure Arrives (dispatch : Dispatch) : Prop where
  given : ∀ name ∈ TO_COPY, name ≠ "data" → (property request.fields name).truthy = true →
    field dispatch.req name = some (property request.fields name)
  notGiven : ∀ name ∈ TO_COPY, name ≠ "data" → (property request.fields name).truthy = false →
    field dispatch.payload name = (getPropagateContextProperties opts context).get? name
  data : (property request.fields "data").truthy = true →
    (triggerEventOf (property request.fields "data")).truthy = false →
    field dispatch.req "data" = some (property request.fields "data")
  headers : (getPropagateContextProperties opts context).get? "headers" = none →
    ∃ headers, field dispatch.req "headers" = some (.obj headers) ∧ ∀ name, field headers name =
      if request.headers.contains name then
        if (specificField platform name).isSome then none else request.headers.get? name
      else if name ∈ opts.propagateHeaders then context.headers.get? name else none
  invocationFn : (getPropagateContextProperties opts context).get? "_fromSend" = none →
    (dispatch.invocationFn = .send ↔ request.reply = true)

end

section
variable {platform : Platform} {opts : OutboxOpts} {context : Context} {request : Request}

theorem get?_copied (names : List String) (event : Dict Value) (name : String) :
    (names.foldl (fun event prop =>
        if (property request.fields prop).truthy then event.set prop (property request.fields prop) else event)
      event).get? name =
      if name ∈ names ∧ (property request.fields name).truthy = true then some (property request.fields name)
      else event.get? name := by
  induction names generalizing event with
  | nil => simp
  | cons first rest ih =>
    rw [List.foldl_cons,ih]
    by_cases later : name ∈ rest ∧ (property request.fields name).truthy = true
    · simp [later]
    · rw [if_neg later]
      by_cases same : name = first
      · subst same
        by_cases given : (property request.fields name).truthy = true
        · simp [given,Dict.get?_set]
        · simp [given]
      · by_cases given : (property request.fields first).truthy = true
        · simp only [given,if_true,Dict.get?_set,same,if_false,List.mem_cons,false_or]
          rw [if_neg later]
        · simp only [given,Bool.false_eq_true,if_false,List.mem_cons,same,false_or]
          rw [if_neg later]

theorem get?_eventOf (name : String) : (eventOf platform opts context request).get? name =
    if name ∈ TO_COPY ∧ (property request.fields name).truthy = true then some (property request.fields name)
    else ((getPropagateContextProperties opts context).get? name).or
      (if name = "headers" then some (.obj (eventHeaders platform opts context request).entries)
      else if request.reply = true ∧ name = "_fromSend" then some (.bool true)
      else if name = "contextUser" then some context.userId else none) := by
  rw [eventOf,get?_copied,Dict.get?_assign,Dict.get?_set]
  by_cases sent : request.reply = true
  · simp [sent,Dict.get?_set]
  · simp [sent,Dict.get?_set]

theorem get?_eventHeaders (name : String) : (eventHeaders platform opts context request).get? name =
    if request.headers.contains name then
      if (specificField platform name).isSome then none else request.headers.get? name
    else if name ∈ opts.propagateHeaders then context.headers.get? name else none := by
  rw [eventHeaders,Dict.get?_filter,getPropagatedHeaders,Dict.get?_assign,Dict.get?_pick]
  by_cases own : request.headers.contains name = true
  · obtain ⟨value,found⟩ := Option.isSome_iff_exists.mp (Dict.contains_iff.mp own)
    by_cases specific : (specificField platform name).isSome = true
    · simp [own,found,specific]
    · simp [own,found,specific]
  · have absent : request.headers.get? name = none := by
      simpa [Dict.contains_iff] using own
    simp only [own,absent,Option.none_or,Bool.false_and,Bool.not_false,Bool.false_eq_true,if_false]
    generalize (if name ∈ opts.propagateHeaders then context.headers.get? name else none) = propagated
    cases propagated <;> rfl

theorem json_eventHeaders (json : JsonRequest opts context request) :
    Json (.obj (eventHeaders platform opts context request).entries) := by
  refine .obj _ (eventHeaders platform opts context request).nodup (fun entry member => ?_)
  have found := Dict.mem_entries.mp (show (entry.1,entry.2) ∈ _ from member)
  rw [get?_eventHeaders] at found
  split at found
  · split at found
    · cases found
    · exact json.headers _ _ found
  · split at found
    · rename_i listed
      exact json.propagateHeaders _ listed _ found
    · cases found

theorem json_eventOf (json : JsonRequest opts context request) :
    Json (.obj (eventOf platform opts context request).entries) := by
  refine .obj _ (eventOf platform opts context request).nodup (fun entry member => ?_)
  have found := Dict.mem_entries.mp (show (entry.1,entry.2) ∈ _ from member)
  rw [get?_eventOf] at found
  split at found
  · rename_i copied
    obtain ⟨_,given⟩ := copied
    cases known : request.fields.get? entry.1 with
    | none => simp [property,known,Value.truthy] at given
    | some value =>
      have same : value = entry.2 := by simpa [property,known] using found
      rcases json.fields _ _ known with rfl | serialisable
      · simp [property,known,Value.truthy] at given
      · exact same ▸ serialisable
  · rcases Option.or_eq_some_iff.mp found with propagated | ⟨_,own⟩
    · rw [getPropagateContextProperties,Dict.get?_pick] at propagated
      split at propagated
      · rename_i listed
        exact json.propagateContextProperties _ listed _ propagated
      · cases propagated
    · split at own
      · rw [← Option.some.inj own]
        exact json_eventHeaders json
      · split at own
        · rw [← Option.some.inj own]
          exact .bool true
        · split at own
          · rw [← Option.some.inj own]
            exact json.userId
          · cases own

theorem specificField_listed {header name : String} (found : specificField platform header = some name) :
    name ∈ EVENT_QUEUE_SPECIFIC_FIELDS := List.mem_of_find?_eq_some found

/-- Of several headers that stand for one field the last one counts. -/
theorem get?_eventQueueSpecificValues (name : String) :
    (eventQueueSpecificValues platform request).get? name =
      ((request.headers.entries.filter (fun entry => specificField platform entry.1 = some name)).getLast?).map
        Prod.snd := by
  have folded (entries : List (String × Value)) (values : Dict Value) :
      (entries.foldl (fun values entry =>
        match specificField platform entry.1 with
        | none => values
        | some name => values.set name entry.2) values).get? name =
        (((entries.filter (fun entry => specificField platform entry.1 = some name)).getLast?).map Prod.snd).or
          (values.get? name) := by
    induction entries generalizing values with
    | nil => rfl
    | cons entry rest ih =>
      rw [List.foldl_cons,ih]
      cases field : specificField platform entry.1 with
      | none => simp [field]
      | some listed =>
        by_cases own : listed = name
        · subst own
          rw [List.filter_cons_of_pos (by simp [field]),List.getLast?_cons]
          cases (rest.filter (fun entry => specificField platform entry.1 = some listed)).getLast? <;>
            simp [Dict.get?_set]
        · have apart : name ≠ listed := fun same => own same.symm
          rw [List.filter_cons_of_neg (by simp [field,own])]
          simp only [Dict.get?_set,if_neg apart]
  have found := folded request.headers.entries Dict.empty
  rw [Dict.get?_empty,Option.or_none] at found
  exact found

theorem eventQueueSpecificValues_other {name : String} (other : name ∉ EVENT_QUEUE_SPECIFIC_FIELDS) :
    (eventQueueSpecificValues platform request).get? name = none := by
  have nothing : request.headers.entries.filter (fun entry => specificField platform entry.1 = some name) = [] := by
    rw [List.filter_eq_nil_iff]
    intro entry _ found
    exact other (specificField_listed (of_decide_eq_true found))
  rw [get?_eventQueueSpecificValues,nothing]
  rfl

theorem property_entryOf (payload : Value) : property (entryOf platform opts request payload) "payload" = payload := by
  rw [property,entryOf,Dict.get?_assign,eventQueueSpecificValues_other (by decide),Option.none_or]
  simp [Dict.get?_set]

theorem mapToEventAndPublish_payload {config : Publish.Config} {now : Nat} {traceContext : Value} {text : String}
    (written : platform.runtime.stringify (.obj (eventOf platform opts context request).entries) = some (.str text))
    (accepted : Publish.Valid platform.runtime config
      (publishCall platform request now traceContext (entryOf platform opts request (.str text)))
      (entryOf platform opts request (.str text))) :
    ∃ row, mapToEventAndPublish platform opts context request config now traceContext = .ok row ∧
      property row "payload" = .str text := by
  refine ⟨Publish.stored platform.runtime config
    (publishCall platform request now traceContext (entryOf platform opts request (.str text)))
    (entryOf platform opts request (.str text)),?_,?_⟩
  · simp only [mapToEventAndPublish,written]
    exact Publish.prepare_valid accepted
  · have kept := Publish.payload_stored accepted
    simp only [Publish.payloadOf,property_entryOf] at kept
    exact (Option.some.inj kept).symm

theorem field_dispatchedPayload {payload : List (String × Value)} {name : String} (other : name ≠ "data") :
    field (dispatchedPayload payload) name = field payload name := by
  unfold dispatchedPayload
  split
  · exact Js.field_map_other other
  · rfl

section
variable (copies : ∀ fromSend payload name value, field payload name = some value →
  field (platform.create fromSend payload) name = some value)
include copies

theorem field_requestOf {payload : List (String × Value)} {name : String} {value : Value}
    (present : field payload name = some value) (sent : name ≠ "_fromSend") (user : name ≠ "contextUser") :
    field (requestOf platform payload) name = some value := by
  rw [requestOf,Js.field_filter (fun _ => by simp [sent,user])]
  exact copies _ payload name value present

theorem arrives_of_payload (configUserId : Value) :
    ∃ dispatch, buildDispatchData platform opts configUserId
        (.obj (eventOf platform opts context request).entries) = some dispatch ∧
      Arrives platform opts context request dispatch := by
  have written (name : String) : field (eventOf platform opts context request).entries name =
      (eventOf platform opts context request).get? name := rfl
  have own : ∀ name ∈ TO_COPY, name ≠ "_fromSend" ∧ name ≠ "contextUser" ∧ name ≠ "headers" := by decide
  refine ⟨_,rfl,?_,?_,?_,?_,?_⟩
  · intro name listed other given
    refine field_requestOf copies ?_ (own name listed).1 (own name listed).2.1
    rw [field_dispatchedPayload other,written,get?_eventOf,if_pos ⟨listed,given⟩]
  · intro name listed other missing
    obtain ⟨sent,user,headers⟩ := own name listed
    change field (dispatchedPayload _) name = _
    rw [field_dispatchedPayload other,written,get?_eventOf]
    simp [missing,sent,user,headers]
  · intro given plain
    have found : field (eventOf platform opts context request).entries "data" =
        some (property request.fields "data") := by
      rw [written,get?_eventOf,if_pos ⟨by decide,given⟩]
    have kept : dispatchedPayload (eventOf platform opts context request).entries =
        (eventOf platform opts context request).entries := by
      rw [dispatchedPayload,payloadTriggerEvent,found,Option.getD_some,plain]
      rfl
    refine field_requestOf copies ?_ (by decide) (by decide)
    rw [kept,found]
  · intro absent
    refine ⟨(eventHeaders platform opts context request).entries,?_,get?_eventHeaders⟩
    refine field_requestOf copies ?_ (by decide) (by decide)
    rw [field_dispatchedPayload (by decide),written,get?_eventOf,if_neg (fun copied => absurd copied.1 (by decide)),
      absent]
    rfl
  · intro absent
    have flag : field (dispatchedPayload (eventOf platform opts context request).entries) "_fromSend" =
        if request.reply = true then some (.bool true) else none := by
      rw [field_dispatchedPayload (by decide),written,get?_eventOf,if_neg (fun copied => absurd copied.1 (by decide)),
        absent]
      simp
    cases sent : request.reply with
    | true => simp [isFromSend,flag,sent,Value.truthy]
    | false => simp [isFromSend,flag,sent,Value.truthy]

end

/-- What arrives of a request whose entry `publishEvent` accepts. -/
theorem outbox_round_trip (platform : Platform) (opts : OutboxOpts) (context : Context) (request : Request)
    (config : Publish.Config) (configUserId : Value) (now : Nat) (traceContext : Value)
    (copies : ∀ fromSend payload name value, field payload name = some value →
      field (platform.create fromSend payload) name = some value)
    (json : JsonRequest opts context request)
    (undone : Json (.obj (eventOf platform opts context request).entries) →
      ∃ text, platform.runtime.stringify (.obj (eventOf platform opts context request).entries) = some (.str text) ∧
        platform.parse (.str text) = some (.obj (eventOf platform opts context request).entries))
    (accepted : ∀ text, Publish.Valid platform.runtime config
      (publishCall platform request now traceContext (entryOf platform opts request (.str text)))
      (entryOf platform opts request (.str text))) :
    ∃ row, mapToEventAndPublish platform opts context request config now traceContext = .ok row ∧
      ∃ dispatch, buildDispatchData platform opts configUserId
          (modifyQueueEntry platform (property row "payload")) = some dispatch ∧
        Arrives platform opts context request dispatch := by
  obtain ⟨text,written,parsed⟩ := undone (json_eventOf json)
  obtain ⟨row,published,payload⟩ := mapToEventAndPublish_payload written (accepted text)
  obtain ⟨dispatch,built,arrives⟩ := arrives_of_payload copies configUserId
  refine ⟨row,published,dispatch,?_,arrives⟩
  rw [payload,modifyQueueEntry,parsed,Option.getD_some]
  exact built

end

def orders : OutboxOpts := ⟨.str "default","OrderService",["x-correlation-id"],[],false⟩

def sender : Context where
  userId := .str "u1"
  headers := ⟨[("x-correlation-id",.str "c1")],by decide⟩
  properties := Dict.empty

def anyOrder : Publish.Config := ⟨true,true,.str "default",fun _ _ _ => some ⟨false,none⟩⟩

def workedOut (text : String) (event : List (String × Value)) : Platform where
  runtime := ⟨fun _ => none,fun _ => "undefined",fun _ => some (.str text),fun _ _ => ""⟩
  toLocaleLowerCase text := String.ofList (text.toList.map Char.toLower)
  parse _ := some (.obj event)
  create _ payload := payload

/-- A send with an own header and one for the queue entry. -/
def order : Request where
  fields := ⟨[("event",.str "order"),("data",.obj [("id",.str "7")])],by decide⟩
  headers := ⟨[("x-priority",.str "high"),("X-EventQueue-ReferenceEntity",.str "Orders")],by decide⟩
  reply := true

def orderWritten : Platform := workedOut
  ("\x7b\"contextUser\":\"u1\",\"_fromSend\":true,\"headers\":\x7b\"x-correlation-id\":\"c1\"," ++
    "\"x-priority\":\"high\"\x7d,\"event\":\"order\",\"data\":\x7b\"id\":\"7\"\x7d\x7d")
  [("contextUser",.str "u1"),("_fromSend",.bool true),
    ("headers",.obj [("x-correlation-id",.str "c1"),("x-priority",.str "high")]),("event",.str "order"),
    ("data",.obj [("id",.str "7")])]

theorem order_json : JsonRequest orders sender order where
  fields name value found := by
    have listed := Dict.mem_entries.mpr found
    simp only [order,List.mem_cons,List.not_mem_nil,or_false,Prod.mk.injEq] at listed
    rcases listed with ⟨_,rfl⟩ | ⟨_,rfl⟩
    · exact Or.inr (.str _)
    · refine Or.inr (.obj _ (by decide) (fun entry member => ?_))
      obtain rfl := List.mem_singleton.mp member
      exact .str _
  headers name value found := by
    have listed := Dict.mem_entries.mpr found
    simp only [order,List.mem_cons,List.not_mem_nil,or_false,Prod.mk.injEq] at listed
    rcases listed with ⟨_,rfl⟩ | ⟨_,rfl⟩
    · exact .str _
    · exact .str _
  userId := .str _
  propagateHeaders name _ value found := by
    have listed := Dict.mem_entries.mpr found
    simp only [sender,List.mem_singleton,Prod.mk.injEq] at listed
    obtain ⟨_,rfl⟩ := listed
    exact .str _
  propagateContextProperties name listed := absurd listed List.not_mem_nil

theorem outbox_round_trip_order :
    ∃ row, mapToEventAndPublish orderWritten orders sender order anyOrder 0 .undefined = .ok row ∧
      ∃ dispatch, buildDispatchData orderWritten orders (.str "queue")
          (modifyQueueEntry orderWritten (property row "payload")) = some dispatch ∧
        field dispatch.req "event" = some (.str "order") ∧ dispatch.invocationFn = .send := by
  obtain ⟨row,published,dispatch,built,arrives⟩ := outbox_round_trip orderWritten orders sender order anyOrder
    (.str "queue") 0 .undefined (fun _ _ _ _ found => found) order_json (fun _ => ⟨_,rfl,rfl⟩)
    (fun text => ⟨Or.inl rfl,fun given => Bool.noConfusion (show false = true from given),rfl,
      by rw [Publish.payloadOf,property_entryOf]; rfl⟩)
  exact ⟨row,published,dispatch,built,arrives.given "event" (by decide) (by decide) rfl,
    (arrives.invocationFn rfl).mpr rfl⟩

/-- A send with falsy parameters and data that has a field `triggerEvent` of its own. -/
def stolen : Request where
  fields := ⟨[("event",.str "order"),("params",.bool false),("data",.obj [("triggerEvent",.str "7")])],by decide⟩
  headers := Dict.empty
  reply := true

def stolenWritten : Platform := workedOut
  ("\x7b\"contextUser\":\"u1\",\"_fromSend\":true,\"headers\":\x7b\"x-correlation-id\":\"c1\"\x7d," ++
    "\"event\":\"order\",\"data\":\x7b\"triggerEvent\":\"7\"\x7d\x7d")
  [("contextUser",.str "u1"),("_fromSend",.bool true),("headers",.obj [("x-correlation-id",.str "c1")]),
    ("event",.str "order"),("data",.obj [("triggerEvent",.str "7")])]

/-- A header of the context is added, the parameters and the field of the data are gone. -/
theorem outbox_changes_request :
    (∃ text, stolenWritten.runtime.stringify (.obj (eventOf stolenWritten orders sender stolen).entries) =
        some (.str text) ∧
      stolenWritten.parse (.str text) = some (.obj (eventOf stolenWritten orders sender stolen).entries)) ∧
    ∃ row, mapToEventAndPublish stolenWritten orders sender stolen anyOrder 0 .undefined = .ok row ∧
      ∃ dispatch, buildDispatchData stolenWritten orders (.str "queue")
          (modifyQueueEntry stolenWritten (property row "payload")) = some dispatch ∧
        field dispatch.req "headers" = some (.obj [("x-correlation-id",.str "c1")]) ∧
        field dispatch.req "params" = none ∧ field dispatch.req "data" = some (.obj []) :=
  ⟨⟨_,rfl,rfl⟩,_,rfl,_,rfl,rfl,rfl,rfl⟩

end EventQueue.Outbox

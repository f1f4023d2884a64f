import EventQueue.Lib.Dict
import EventQueue.Lib.Value
import Mathlib.Data.List.Forall2
import Mathlib.Data.List.Perm.Basic

/-! `publishEvent` on one transaction: the events of a call are checked and completed, kept with
the transaction, and inserted at once or by a handler that runs before the commit. -/
namespace EventQueue.Publish
open Js (Value)

structure EventConfig where
  isPeriodic : Bool
  timeBucket : Option String

structure Config where
  initialized : Bool
  insertEventsBeforeCommit : Bool
  nameSpace : Value
  getEventConfig : (type subType nameSpace : Value) → Option EventConfig

/-- What the code takes from the language and from `cron-parser`. -/
structure Runtime where
  /-- `Date.parse`, none for `NaN`. -/
  parseDate : String → Option Int
  propertyKey : Value → String
  /-- None if `JSON.stringify` throws. -/
  stringify : Value → Option Value
  next : (timeBucket : String) → (now : Nat) → String

structure Call where
  events : List (Dict Value)
  skipBroadcast : Bool
  skipInsertEventsBeforeCommit : Bool
  addTraceContext : Bool
  allowNotExistingConfiguration : Bool
  now : Nat
  /-- The trace context of the caller as text. -/
  traceContext : Value

inductive PublishError
  | notInitialized
  | unknownEventType (type subType : Value)
  | malformedDate (date : Value)
  | manuelPeriodicEventInsert (type subType : Value)
  | notSerialisable (payload : Value)

/-- A published event with its number among the events of the transaction. -/
structure Entry where
  number : Nat
  fields : Dict Value

structure EventQueueContext where
  events : List Entry
  handlerRegistered : Bool

structure Tx where
  published : Nat
  eventQueue : Option EventQueueContext
  /-- The registered handlers, each with the `skipBroadcast` of the call that registered it. -/
  beforeCommit : List Bool
  /-- The statements run so far, each with `_skipEventQueueBroadcast` at the time. -/
  inserts : List (Bool × List Entry)

/-- A row with the published event it was inserted for, none for a row of an earlier transaction. -/
structure TableRow where
  event : Option Nat
  fields : Dict Value

def property (event : Dict Value) (name : String) : Value := (event.get? name).getD .undefined

section
variable (runtime : Runtime) (config : Config) (call : Call) (event : Dict Value)

def dateOf : Value → Option Int
  | .str text => runtime.parseDate text
  | .date time => time
  | _ => none

def isValidDate (value : Value) : Bool := (dateOf runtime value).isSome

def nameSpaceOf : Value :=
  match property event "namespace" with
  | .undefined => config.nameSpace
  | nameSpace => nameSpace

def eventConfig : Option EventConfig :=
  config.getEventConfig (property event "type") (property event "subType") (nameSpaceOf config event)

def timeBucket : Option String := ((eventConfig config event).bind EventConfig.timeBucket).filter (· ≠ "")

def payloadOf : Option Value :=
  match property event "payload" with
  | .str text => some (.str text)
  | payload => runtime.stringify payload

def setPayload (payload : Value) : Dict Value :=
  match property event "payload" with
  | .str _ => event
  | _ => event.set "payload" payload

def setContext : Dict Value := if call.addTraceContext then event.set "context" call.traceContext else event

/-- The test is `startAfter in event`: it looks for a property that has the date as its name. -/
def setStartAfter (timeBucket : Option String) (startAfter : Value) : Dict Value :=
  match timeBucket with
  | none => event
  | some expression =>
    if event.contains (runtime.propertyKey startAfter) then event
    else event.set "startAfter" (.str (runtime.next expression call.now))

def setNamespace : Dict Value :=
  match property event "namespace" with
  | .undefined => event.set "namespace" config.nameSpace
  | _ => event

def complete (payload : Value) : Dict Value :=
  setNamespace config (setStartAfter runtime call (setContext call (setPayload event payload))
    (timeBucket config event) (property event "startAfter"))

/-- The body of the loop over `eventsForProcessing`. -/
def prepare : Except PublishError (Dict Value) :=
  let type := property event "type"
  let subType := property event "subType"
  let startAfter := property event "startAfter"
  if (eventConfig config event).isNone && !call.allowNotExistingConfiguration then
    .error (.unknownEventType type subType)
  else if startAfter.truthy && !isValidDate runtime startAfter then .error (.malformedDate startAfter)
  else if (eventConfig config event).any EventConfig.isPeriodic then .error (.manuelPeriodicEventInsert type subType)
  else match payloadOf runtime event with
    | none => .error (.notSerialisable (property event "payload"))
    | some payload => .ok (complete runtime config call event payload)

end

namespace Tx

def begun : Tx := ⟨0,none,[],[]⟩

def addEventsToContext (tx : Tx) (events : List Entry) : Tx :=
  let eventQueue := tx.eventQueue.getD ⟨[],false⟩
  {tx with
    published := tx.published + events.length
    eventQueue := some {eventQueue with events := eventQueue.events ++ events}}

def registerHandler (tx : Tx) (skipBroadcast : Bool) : Tx :=
  match tx.eventQueue with
  | none => tx
  | some eventQueue =>
    if eventQueue.handlerRegistered then tx
    else {tx with
      eventQueue := some {eventQueue with handlerRegistered := true}
      beforeCommit := tx.beforeCommit ++ [skipBroadcast]}

def insert (tx : Tx) (skipBroadcast : Bool) (events : List Entry) : Tx :=
  {tx with inserts := tx.inserts ++ [(skipBroadcast,events)]}

def insertBeforeCommit (tx : Tx) (skipBroadcast : Bool) : Tx :=
  match tx.eventQueue with
  | none => tx
  | some eventQueue =>
    if eventQueue.events.isEmpty then tx
    else {tx.insert skipBroadcast eventQueue.events with eventQueue := none}

def finish (tx : Tx) (commit : Bool) (table : List TableRow) : List TableRow :=
  if commit then
    table ++ (tx.beforeCommit.foldl insertBeforeCommit tx).inserts.flatMap
      (fun statement => statement.2.map (fun entry => ⟨some entry.number,entry.fields⟩))
  else table

end Tx

section
variable (runtime : Runtime) (config : Config)

def deferred (call : Call) : Bool := config.insertEventsBeforeCommit && !call.skipInsertEventsBeforeCommit

def numbered (published : Nat) (events : List (Dict Value)) : List Entry :=
  (events.zipIdx published).map (fun event => ⟨event.2,event.1⟩)

def publishEvent (tx : Tx) (call : Call) : Except PublishError Tx :=
  if !config.initialized then .error .notInitialized
  else do
    let events ← call.events.mapM (prepare runtime config call)
    let entries := numbered tx.published events
    let added := tx.addEventsToContext entries
    if deferred config call then return added.registerHandler call.skipBroadcast
    else return added.insert call.skipBroadcast entries

def publishEvents (calls : List Call) : Except PublishError Tx := calls.foldlM (publishEvent runtime config) Tx.begun

end

section
variable (runtime : Runtime) (config : Config) (call : Call) (event : Dict Value)

structure Valid : Prop where
  known : (eventConfig config event).isSome ∨ call.allowNotExistingConfiguration = true
  date : (property event "startAfter").truthy = true → isValidDate runtime (property event "startAfter") = true
  adHoc : (eventConfig config event).any EventConfig.isPeriodic = false
  payload : (payloadOf runtime event).isSome

/-- The row has the fields of the event: the payload as text, the namespace and the trace context
filled in by `publishEvent`, everything else as it was given. -/
structure Carries (row : Dict Value) : Prop where
  others : ∀ name ∉ ["payload","context","startAfter","namespace"], row.get? name = event.get? name
  payload : payloadOf runtime event = some (property row "payload")
  context : property row "context" = if call.addTraceContext then call.traceContext else property event "context"
  startAfter : (property event "startAfter").truthy = true →
    dateOf runtime (property row "startAfter") = dateOf runtime (property event "startAfter")
  nameSpace : property row "namespace" = nameSpaceOf config event

def Named (name : String) : Prop :=
  call.addTraceContext = true ∧ name = "context" ∨ name = "payload" ∨ event.contains name = true

def stored : Dict Value := complete runtime config call event ((payloadOf runtime event).getD .undefined)

end

/-- The events of a sequence of calls, each with its call and its number. -/
def publishedEvents (calls : List Call) : List ((Call × Dict Value) × Nat) :=
  (calls.flatMap (fun call => call.events.map (fun event => (call,event)))).zipIdx

section
variable {runtime : Runtime} {config : Config} {call : Call} {event : Dict Value}

theorem property_set (name key : String) (value : Value) :
    property (event.set name value) key = if key = name then value else property event key := by
  simp only [property,Dict.get?_set]
  split <;> rfl

theorem prepare_valid (valid : Valid runtime config call event) :
    prepare runtime config call event = .ok (stored runtime config call event) := by
  obtain ⟨payload,found⟩ := Option.isSome_iff_exists.mp valid.payload
  have known : ((eventConfig config event).isNone && !call.allowNotExistingConfiguration) = false := by
    rcases valid.known with configured | allowed
    · simp [Option.isNone_eq_false_iff.mpr configured]
    · simp [allowed]
  have date : ((property event "startAfter").truthy && !isValidDate runtime (property event "startAfter")) = false := by
    by_cases given : (property event "startAfter").truthy = true
    · simp [valid.date given]
    · simp [given]
  simp [prepare,stored,known,date,valid.adHoc,found]

theorem prepare_ok_iff {row : Dict Value} : prepare runtime config call event = .ok row ↔
    Valid runtime config call event ∧ row = stored runtime config call event := by
  constructor
  · intro prepared
    have valid : Valid runtime config call event := by
      simp only [prepare] at prepared
      split at prepared
      · cases prepared
      · rename_i known
        split at prepared
        · cases prepared
        · rename_i date
          split at prepared
          · cases prepared
          · rename_i adHoc
            split at prepared
            · cases prepared
            · rename_i payload found
              refine ⟨?_,?_,by simpa using adHoc,by simp [found]⟩
              · simpa [Option.isNone_iff_eq_none,Option.isSome_iff_ne_none,or_iff_not_imp_left] using known
              · simpa using date
    rw [prepare_valid valid] at prepared
    exact ⟨valid,(Except.ok.inj prepared).symm⟩
  · rintro ⟨valid,rfl⟩
    exact prepare_valid valid

theorem get?_setPayload (payload : Value) (name : String) (other : name ≠ "payload") :
    (setPayload event payload).get? name = event.get? name := by
  unfold setPayload
  split
  · rfl
  · rw [Dict.get?_set,if_neg other]

theorem property_setPayload (payload : Value) (serialised : payloadOf runtime event = some payload) :
    property (setPayload event payload) "payload" = payload := by
  unfold payloadOf at serialised
  unfold setPayload
  split
  · rename_i text given
    simpa [given] using serialised
  · rw [property_set,if_pos rfl]

theorem get?_setContext (name : String) (other : name ≠ "context") :
    (setContext call event).get? name = event.get? name := by
  unfold setContext
  split
  · rw [Dict.get?_set,if_neg other]
  · rfl

theorem get?_setStartAfter (timeBucket : Option String) (startAfter : Value) (name : String) (other : name ≠ "startAfter") :
    (setStartAfter runtime call event timeBucket startAfter).get? name = event.get? name := by
  unfold setStartAfter
  split
  · rfl
  · split
    · rfl
    · rw [Dict.get?_set,if_neg other]

theorem get?_setNamespace (name : String) (other : name ≠ "namespace") :
    (setNamespace config event).get? name = event.get? name := by
  unfold setNamespace
  split
  · rw [Dict.get?_set,if_neg other]
  · rfl

theorem contains_setPayload (payload : Value) (name : String) :
    (setPayload event payload).contains name = true ↔ name = "payload" ∨ event.contains name = true := by
  unfold setPayload
  split
  · rename_i text given
    constructor
    · exact Or.inr
    · rintro (rfl | inside)
      · rw [Dict.contains_iff]
        unfold property at given
        cases found : event.get? "payload" with
        | none => simp [found] at given
        | some value => rfl
      · exact inside
  · rw [Dict.contains_set]

theorem contains_setContext (name : String) :
    (setContext call event).contains name = true ↔
      call.addTraceContext = true ∧ name = "context" ∨ event.contains name = true := by
  unfold setContext
  split
  · rename_i traced
    simp [Dict.contains_set,traced]
  · rename_i untraced
    simp [untraced]

theorem contains_completed (payload : Value) (name : String) :
    (setContext call (setPayload event payload)).contains name = true ↔ Named call event name := by
  rw [contains_setContext,contains_setPayload,Named]

theorem startAfter_stored :
    property (stored runtime config call event) "startAfter" = property event "startAfter" ∧
        (timeBucket config event = none ∨ Named call event (runtime.propertyKey (property event "startAfter"))) ∨
      ∃ expression, timeBucket config event = some expression ∧
        ¬ Named call event (runtime.propertyKey (property event "startAfter")) ∧
        property (stored runtime config call event) "startAfter" = .str (runtime.next expression call.now) := by
  have outer (inner : Dict Value) : property (setNamespace config inner) "startAfter" = property inner "startAfter" := by
    rw [property,get?_setNamespace _ (by decide),property]
  have kept (payload : Value) : property (setContext call (setPayload event payload)) "startAfter" =
      property event "startAfter" := by
    rw [property,get?_setContext _ (by decide),get?_setPayload _ _ (by decide),property]
  rw [stored,complete,outer]
  cases bucket : timeBucket config event with
  | none => exact Or.inl ⟨kept _,Or.inl rfl⟩
  | some expression =>
    simp only [setStartAfter]
    by_cases named : Named call event (runtime.propertyKey (property event "startAfter"))
    · rw [if_pos ((contains_completed _ _).mpr named)]
      exact Or.inl ⟨kept _,Or.inr named⟩
    · rw [if_neg (fun inside => named ((contains_completed _ _).mp inside)),property_set,if_pos rfl]
      exact Or.inr ⟨expression,rfl,named,rfl⟩

theorem payload_stored (valid : Valid runtime config call event) :
    payloadOf runtime event = some (property (stored runtime config call event) "payload") := by
  obtain ⟨payload,found⟩ := Option.isSome_iff_exists.mp valid.payload
  have written := property_setPayload payload found
  rw [found,stored,complete,property,get?_setNamespace _ (by decide),get?_setStartAfter _ _ _ (by decide),
    get?_setContext _ (by decide),found,Option.getD_some]
  exact congrArg some written.symm

end

section
variable {runtime : Runtime} {config : Config}

def entryOf (runtime : Runtime) (config : Config) (published : (Call × Dict Value) × Nat) : Entry :=
  ⟨published.2,stored runtime config published.1.1 published.1.2⟩

/-- The transaction after calls that published `all` and inserted `immediate` of it at once. -/
structure Ran (all immediate : List Entry) (handler : Bool) (tx : Tx) : Prop where
  published : tx.published = all.length
  events : tx.eventQueue.elim [] EventQueueContext.events = all
  registered : tx.eventQueue.any EventQueueContext.handlerRegistered = handler
  beforeCommit : tx.beforeCommit.length = if handler then 1 else 0
  inserts : tx.inserts.flatMap Prod.snd = immediate

theorem Ran.addEventsToContext {all immediate : List Entry} {handler : Bool} {tx : Tx}
    (ran : Ran all immediate handler tx) (events : List Entry) :
    Ran (all ++ events) immediate handler (tx.addEventsToContext events) where
  published := by simp [Tx.addEventsToContext,ran.published]
  events := by
    rw [← ran.events]
    cases found : tx.eventQueue <;> simp [Tx.addEventsToContext,found]
  registered := by
    rw [← ran.registered]
    cases found : tx.eventQueue <;> simp [Tx.addEventsToContext,found]
  beforeCommit := ran.beforeCommit
  inserts := ran.inserts

theorem Ran.registerHandler {all immediate : List Entry} {handler : Bool} {tx : Tx}
    (ran : Ran all immediate handler tx) (kept : tx.eventQueue.isSome) (skipBroadcast : Bool) :
    Ran all immediate true (tx.registerHandler skipBroadcast) := by
  obtain ⟨eventQueue,found⟩ := Option.isSome_iff_exists.mp kept
  obtain ⟨published,events,registered,beforeCommit,inserts⟩ := ran
  simp only [found,Option.elim_some,Option.any_some] at events registered
  subst registered
  simp only [Tx.registerHandler,found]
  split
  · rename_i already
    exact ⟨published,by simpa [found] using events,by simpa [found] using already,
      by simpa [already] using beforeCommit,inserts⟩
  · rename_i first
    have none : tx.beforeCommit = [] := by simpa [first] using beforeCommit
    exact ⟨published,by simpa using events,by simp,by simp [none],inserts⟩

theorem Ran.insert {all immediate : List Entry} {handler : Bool} {tx : Tx} (ran : Ran all immediate handler tx)
    (skipBroadcast : Bool) (events : List Entry) :
    Ran all (immediate ++ events) handler (tx.insert skipBroadcast events) :=
  ⟨ran.published,ran.events,ran.registered,ran.beforeCommit,by simp [Tx.insert,ran.inserts]⟩

theorem mapM_prepare {call : Call} {events : List (Dict Value)}
    (valid : ∀ event ∈ events, Valid runtime config call event) :
    events.mapM (prepare runtime config call) = .ok (events.map (stored runtime config call)) := by
  induction events with
  | nil => rfl
  | cons event rest ih =>
    rw [List.mapM_cons,prepare_valid (valid event (List.mem_cons_self ..)),
      ih (fun other member => valid other (List.mem_cons_of_mem _ member))]
    rfl

theorem Ran.publishEvent {all immediate : List Entry} {handler : Bool} {tx : Tx} (ran : Ran all immediate handler tx)
    (initialized : config.initialized = true) {call : Call}
    (valid : ∀ event ∈ call.events, Valid runtime config call event) :
    ∃ next, publishEvent runtime config tx call = .ok next ∧
      Ran (all ++ numbered all.length (call.events.map (stored runtime config call)))
        (immediate ++ if deferred config call then [] else
          numbered all.length (call.events.map (stored runtime config call)))
        (handler || deferred config call) next := by
  have added := ran.addEventsToContext (numbered tx.published (call.events.map (stored runtime config call)))
  rw [ran.published] at added
  simp only [Publish.publishEvent,initialized,Bool.not_true,Bool.false_eq_true,if_false,mapM_prepare valid,ran.published]
  by_cases later : deferred config call = true
  · refine ⟨_,by simp only [later]; rfl,?_⟩
    simp only [later,if_true,List.append_nil,Bool.or_true]
    exact added.registerHandler rfl _
  · refine ⟨_,by simp only [later]; rfl,?_⟩
    simp only [later,Bool.false_eq_true,if_false,Bool.or_false]
    exact added.insert _ _

theorem publishedEvents_snoc (calls : List Call) (call : Call) :
    publishedEvents (calls ++ [call]) = publishedEvents calls ++
      (call.events.map (fun event => (call,event))).zipIdx (publishedEvents calls).length := by
  simp [publishedEvents,List.zipIdx_append]

theorem numbered_stored (call : Call) (start : Nat) :
    numbered start (call.events.map (stored runtime config call)) =
      ((call.events.map (fun event => (call,event))).zipIdx start).map (entryOf runtime config) := by
  simp [numbered,List.zipIdx_map,entryOf,Function.comp_def]

def immediate (config : Config) (published : (Call × Dict Value) × Nat) : Bool := !deferred config published.1.1

theorem filter_immediate (call : Call) (start : Nat) :
    ((call.events.map (fun event => (call,event))).zipIdx start).filter (immediate config) =
      if deferred config call then [] else (call.events.map (fun event => (call,event))).zipIdx start := by
  have own : ∀ published ∈ (call.events.map (fun event => (call,event))).zipIdx start, published.1.1 = call := by
    intro published member
    obtain ⟨event,_,same⟩ := List.mem_map.mp (List.fst_mem_of_mem_zipIdx member)
    rw [← same]
  split
  · rename_i later
    refine List.filter_eq_nil_iff.mpr (fun published member => ?_)
    simp [immediate,own published member,later]
  · rename_i now
    refine List.filter_eq_self.mpr (fun published member => ?_)
    simp [immediate,own published member,now]

theorem ran_publishEvents (initialized : config.initialized = true) (calls before : List Call) (tx : Tx)
    (valid : ∀ call ∈ calls, ∀ event ∈ call.events, Valid runtime config call event)
    (ran : Ran ((publishedEvents before).map (entryOf runtime config))
      (((publishedEvents before).filter (immediate config)).map (entryOf runtime config))
      (before.any (deferred config)) tx) :
    ∃ after, calls.foldlM (publishEvent runtime config) tx = .ok after ∧
      Ran ((publishedEvents (before ++ calls)).map (entryOf runtime config))
        (((publishedEvents (before ++ calls)).filter (immediate config)).map (entryOf runtime config))
        ((before ++ calls).any (deferred config)) after := by
  induction calls generalizing before tx with
  | nil => exact ⟨tx,rfl,by simpa using ran⟩
  | cons call rest ih =>
    obtain ⟨next,moved,further⟩ := ran.publishEvent initialized (valid call (List.mem_cons_self ..))
    have grown : Ran ((publishedEvents (before ++ [call])).map (entryOf runtime config))
        (((publishedEvents (before ++ [call])).filter (immediate config)).map (entryOf runtime config))
        ((before ++ [call]).any (deferred config)) next := by
      rw [publishedEvents_snoc,List.map_append,List.filter_append,List.map_append,filter_immediate]
      rw [List.length_map,numbered_stored] at further
      by_cases later : deferred config call = true
      · simpa [later] using further
      · simpa [later] using further
    obtain ⟨after,finished,result⟩ := ih (before ++ [call]) next
      (fun other member => valid other (List.mem_cons_of_mem _ member)) grown
    rw [List.append_assoc,List.singleton_append] at result
    refine ⟨after,?_,result⟩
    rw [List.foldlM_cons,moved]
    exact finished

theorem Ran.finish {all now : List Entry} {handler : Bool} {tx : Tx} (ran : Ran all now handler tx)
    (table : List TableRow) :
    tx.finish true table = table ++ (now ++ if handler then all else []).map
      (fun entry => ⟨some entry.number,entry.fields⟩) := by
  obtain ⟨_,events,registered,beforeCommit,inserts⟩ := ran
  have rows (statements : List (Bool × List Entry)) : statements.flatMap
      (fun statement => statement.2.map (fun entry => (⟨some entry.number,entry.fields⟩ : TableRow))) =
      (statements.flatMap Prod.snd).map (fun entry => ⟨some entry.number,entry.fields⟩) := by
    rw [List.map_flatMap]
  simp only [Tx.finish,if_true,rows]
  cases handler with
  | false =>
    have none : tx.beforeCommit = [] := by simpa using beforeCommit
    simp [none,inserts]
  | true =>
    obtain ⟨skipBroadcast,single⟩ := List.length_eq_one_iff.mp beforeCommit
    obtain ⟨eventQueue,found,_⟩ := (Option.any_eq_true _ _).mp registered
    have kept : eventQueue.events = all := by simpa [found] using events
    simp only [single,List.foldl_cons,List.foldl_nil,Tx.insertBeforeCommit,found,if_true]
    split
    · rename_i nothing
      have empty : all = [] := by simpa [kept] using nothing
      simp [inserts,empty]
    · simp [Tx.insert,inserts,kept]

def toRow (runtime : Runtime) (config : Config) (published : (Call × Dict Value) × Nat) : TableRow :=
  ⟨some published.2,stored runtime config published.1.1 published.1.2⟩

theorem of_mem_publishedEvents {calls : List Call} {published : (Call × Dict Value) × Nat}
    (member : published ∈ publishedEvents calls) : published.1.1 ∈ calls ∧ published.1.2 ∈ published.1.1.events := by
  obtain ⟨call,listed,inside⟩ := List.mem_flatMap.mp (List.fst_mem_of_mem_zipIdx member)
  obtain ⟨event,own,same⟩ := List.mem_map.mp inside
  rw [← same]
  exact ⟨listed,own⟩

theorem publishedEvents_unique {calls : List Call} {first second : (Call × Dict Value) × Nat}
    (one : first ∈ publishedEvents calls) (two : second ∈ publishedEvents calls) (same : first.2 = second.2) :
    first = second := by
  have left := List.mem_zipIdx_iff_getElem?.mp one
  have right := List.mem_zipIdx_iff_getElem?.mp two
  rw [same,right] at left
  exact Prod.ext (Option.some.inj left).symm same

end

def mails : Config where
  initialized := true
  insertEventsBeforeCommit := true
  nameSpace := .str "default"
  getEventConfig _ _ _ := some ⟨false,none⟩

def newYear : Runtime where
  parseDate text := if text = "2030-01-01T00:00:00.000Z" then some 1893456000000 else none
  propertyKey _ := "2030-01-01T00:00:00.000Z"
  stringify _ := some .undefined
  next _ _ := "2030-01-01T00:00:00.000Z"

def mail : Dict Value := ⟨[("type",.str "Notifications"),("subType",.str "Mail"),("payload",.str "hello")],by decide⟩

def planned : Dict Value := mail.set "startAfter" (.str "2030-01-01T00:00:00.000Z")

def publishing (event : Dict Value) (skipInsertEventsBeforeCommit : Bool) : Call :=
  ⟨[event],false,skipInsertEventsBeforeCommit,false,false,0,.undefined⟩

end EventQueue.Publish

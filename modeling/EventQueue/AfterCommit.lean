import EventQueue.BroadcastEvent
import EventQueue.PeriodicStartup
import EventQueue.Saga
import EventQueue.Lib.Separated

/-! The handlers of `dbHandler.js` after `CREATE`: what a transaction inserts is collected under joined keys, which
are split again for one broadcast once the transaction has succeeded. -/
namespace EventQueue.AfterCommit
open Broadcast (Event)
open PeriodicStartup (generateKey)
open Saga (SAGA_SUCCESS SAGA_FAILED SAGA_DONE)

structure EventConfig where
  processAfterCommit : Option Bool

structure Config where
  eventMap : Dict EventConfig
  collectEventQueueMetrics : Bool
  redisEnabled : Bool

def hasEventAfterCommitFlag (config : Config) (type subType nameSpace : String) : Bool :=
  ((config.eventMap.get? (generateKey nameSpace type subType)).bind EventConfig.processAfterCommit).getD true

/-- The entries of one `INSERT`, and `_skipEventQueueBroadcast` of its transaction at that time. -/
structure Insert where
  skipEventQueueBroadcast : Bool
  data : List Event

structure Tx where
  eventQueuePublishEvents : Dict Bool
  eventQueueStatsOpenCount : Nat
  eventQueueBroadcastCombinations : List String
  eventQueueSucceededHandlerRegistered : Bool
  /-- The handlers of `succeeded` that the requests of the transaction have got. -/
  succeededHandlers : Nat

def Tx.begun : Tx := ⟨Dict.empty,0,[],false,0⟩

/-- A part that the split does not yield is undefined. -/
structure Combination where
  type : Option String
  subType : Option String
  nameSpace : Option String
  deriving DecidableEq

def eventKey (event : Event) : String := Separated.join '#' [event.type,event.subType,event.nameSpace]

def combinationOf (combination : String) : Combination :=
  let parts := Separated.split '#' combination
  ⟨parts[0]?,parts[1]?,parts[2]?⟩

section
variable (config : Config)

def Flagged (event : Event) : Prop := hasEventAfterCommitFlag config event.type event.subType event.nameSpace = true

/-- The body of the `reduce`. -/
def collect (state : Dict Bool × List String) (event : Event) : Dict Bool × List String :=
  let key := eventKey event
  if hasEventAfterCommitFlag config event.type event.subType event.nameSpace && !(state.1.get? key).getD false then
    (state.1.set key true,state.2 ++ [key])
  else state

def afterCreate (tx : Tx) (insert : Insert) : Tx :=
  if insert.skipEventQueueBroadcast then tx
  else
    let collected := insert.data.foldl (collect config) (tx.eventQueuePublishEvents,[])
    {tx with
      eventQueuePublishEvents := collected.1
      eventQueueStatsOpenCount := tx.eventQueueStatsOpenCount + insert.data.length
      eventQueueBroadcastCombinations := tx.eventQueueBroadcastCombinations ++ collected.2
      eventQueueSucceededHandlerRegistered := true
      succeededHandlers :=
        if tx.eventQueueSucceededHandlerRegistered then tx.succeededHandlers else tx.succeededHandlers + 1}

inductive Effect
  | incrementCounters (increment : Nat)
  | broadcastEvent (events : List Combination)
  deriving DecidableEq

def succeededHandler (tx : Tx) : List Effect :=
  (if config.collectEventQueueMetrics && config.redisEnabled && tx.eventQueueStatsOpenCount != 0 then
      [.incrementCounters tx.eventQueueStatsOpenCount]
    else []) ++
  if tx.eventQueueBroadcastCombinations.isEmpty then []
  else [.broadcastEvent (tx.eventQueueBroadcastCombinations.map combinationOf)]

/-- A transaction with these `INSERT`s and what follows on its success. -/
def succeeded (inserts : List Insert) : List Effect :=
  let tx := inserts.foldl (afterCreate config) Tx.begun
  (List.replicate tx.succeededHandlers (succeededHandler config tx)).flatten

end

def Effect.broadcast : Effect → Option (List Combination)
  | .incrementCounters _ => none
  | .broadcastEvent events => some events

def broadcasts (effects : List Effect) : List (List Combination) := effects.filterMap Effect.broadcast

/-- What the transaction inserts without a mark to skip broadcasting. -/
def inserted (inserts : List Insert) : List Event :=
  (inserts.filter (fun insert => !insert.skipEventQueueBroadcast)).flatMap Insert.data

def Event.combination (event : Event) : Combination := ⟨event.type,event.subType,event.nameSpace⟩

/-- No part contains `##`, the type and the subtype do not end with `#`. -/
def SeparableEvent (event : Event) : Prop :=
  Separated.Closed '#' event.type.toList ∧ Separated.Closed '#' event.subType.toList ∧
    Separated.Pairless '#' event.nameSpace.toList

instance decidableSeparableEvent (event : Event) : Decidable (SeparableEvent event) :=
  inferInstanceAs (Decidable (Separated.Closed '#' event.type.toList ∧ Separated.Closed '#' event.subType.toList ∧
    Separated.Pairless '#' event.nameSpace.toList))

/-- The subtype of a successor of an action. -/
def sagaSubType (service action saga : String) : String := service ++ "." ++ action ++ "/" ++ saga

/-- The keys collected of the events inserted so far. -/
structure Collected (config : Config) (events : List Event) (published : Dict Bool) (combinations : List String) :
    Prop where
  distinct : combinations.Nodup
  keys : ∀ key, key ∈ combinations ↔ ∃ event ∈ events, Flagged config event ∧ eventKey event = key
  published : ∀ key, (published.get? key).getD false = true ↔ key ∈ combinations

/-- One handler of `succeeded` at most, and one if there is something to broadcast. -/
structure Invariant (config : Config) (events : List Event) (tx : Tx) : Prop where
  collected : Collected config events tx.eventQueuePublishEvents tx.eventQueueBroadcastCombinations
  registered : tx.eventQueueSucceededHandlerRegistered = true ∨ tx.eventQueueBroadcastCombinations = []
  handlers : tx.succeededHandlers = if tx.eventQueueSucceededHandlerRegistered then 1 else 0

section
variable {config : Config}

theorem collect_collected {before : List String} {events : List Event} {state : Dict Bool × List String}
    (collected : Collected config events state.1 (before ++ state.2)) (event : Event) :
    Collected config (events ++ [event]) (collect config state event).1 (before ++ (collect config state event).2) := by
  obtain ⟨distinct,keys,published⟩ := collected
  have more (key : String) : (∃ other ∈ events ++ [event], Flagged config other ∧ eventKey other = key) ↔
      (∃ other ∈ events, Flagged config other ∧ eventKey other = key) ∨ Flagged config event ∧ eventKey event = key := by
    simp only [List.mem_append,List.mem_singleton,or_and_right,exists_or,exists_eq_left]
  unfold collect
  by_cases added : (hasEventAfterCommitFlag config event.type event.subType event.nameSpace &&
      !(state.1.get? (eventKey event)).getD false) = true
  · obtain ⟨flagged,missing⟩ := Bool.and_eq_true_iff.mp added
    have new : eventKey event ∉ before ++ state.2 := by
      rw [← published]
      simpa using missing
    simp only [added,if_true,← List.append_assoc]
    refine ⟨?_,fun key => ?_,fun key => ?_⟩
    · refine List.nodup_append.mpr ⟨distinct,List.nodup_singleton _,fun key inside other last same => new ?_⟩
      rwa [← List.mem_singleton.mp last,← same]
    · rw [List.mem_append,keys,more,List.mem_singleton]
      refine or_congr_right ⟨?_,fun own => own.2.symm⟩
      rintro rfl
      exact ⟨flagged,rfl⟩
    · rw [List.mem_append,← published,List.mem_singleton,Dict.get?_set]
      by_cases same : eventKey event = key
      · simp [same]
      · simp [Ne.symm same]
  · rw [if_neg added]
    refine ⟨distinct,fun key => ?_,published⟩
    rw [keys,more]
    refine (or_iff_left_of_imp ?_).symm
    rintro ⟨flagged,rfl⟩
    unfold Flagged at flagged
    rw [← keys,← published]
    simpa [flagged] using added

theorem foldl_collect_collected {before : List String} (events earlier : List Event)
    (state : Dict Bool × List String) (collected : Collected config earlier state.1 (before ++ state.2)) :
    Collected config (earlier ++ events) (events.foldl (collect config) state).1
      (before ++ (events.foldl (collect config) state).2) := by
  induction events generalizing earlier state with
  | nil => simpa using collected
  | cons event rest ih =>
    have next := ih (earlier ++ [event]) _ (collect_collected collected event)
    simpa using next

theorem afterCreate_invariant {events : List Event} {tx : Tx} (invariant : Invariant config events tx)
    (insert : Insert) : Invariant config (events ++ inserted [insert]) (afterCreate config tx insert) := by
  obtain ⟨collected,registered,handlers⟩ := invariant
  unfold afterCreate
  cases skipped : insert.skipEventQueueBroadcast with
  | true => simpa [inserted,skipped] using ⟨collected,registered,handlers⟩
  | false =>
    have before : Collected config events tx.eventQueuePublishEvents (tx.eventQueueBroadcastCombinations ++ []) := by
      simpa using collected
    have after := foldl_collect_collected insert.data events (tx.eventQueuePublishEvents,[]) before
    refine ⟨by simpa [inserted,skipped] using after,Or.inl rfl,?_⟩
    cases first : tx.eventQueueSucceededHandlerRegistered with
    | true => simp [handlers,first]
    | false => simp [handlers,first]

/-- The invariant of a whole transaction. -/
theorem foldl_afterCreate_invariant (inserts : List Insert) {events : List Event} {tx : Tx}
    (invariant : Invariant config events tx) :
    Invariant config (events ++ inserted inserts) (inserts.foldl (afterCreate config) tx) := by
  induction inserts generalizing events tx with
  | nil => simpa [inserted] using invariant
  | cons insert rest ih =>
    have both : inserted (insert::rest) = inserted [insert] ++ inserted rest := by
      cases skipped : insert.skipEventQueueBroadcast <;> simp [inserted,skipped]
    rw [both,← List.append_assoc]
    exact ih (afterCreate_invariant invariant insert)

theorem begun_invariant : Invariant config [] Tx.begun where
  collected := ⟨List.nodup_nil,by simp [Tx.begun],by simp [Tx.begun]⟩
  registered := Or.inr rfl
  handlers := rfl

theorem broadcasts_succeededHandler (tx : Tx) : broadcasts (succeededHandler config tx) =
    if tx.eventQueueBroadcastCombinations.isEmpty then []
    else [tx.eventQueueBroadcastCombinations.map combinationOf] := by
  unfold succeededHandler broadcasts
  rw [List.filterMap_append]
  split <;> split <;> rfl

/-- All broadcasts of a transaction: the collected keys in one call, if there are any. -/
theorem broadcasts_succeeded (inserts : List Insert) : broadcasts (succeeded config inserts) =
    if (inserts.foldl (afterCreate config) Tx.begun).eventQueueBroadcastCombinations.isEmpty then []
    else [(inserts.foldl (afterCreate config) Tx.begun).eventQueueBroadcastCombinations.map combinationOf] := by
  obtain ⟨_,registered,handlers⟩ := foldl_afterCreate_invariant inserts (@begun_invariant config)
  simp only [succeeded]
  rw [handlers]
  rcases registered with first | none
  · simp [first,broadcasts_succeededHandler]
  · cases registered : (inserts.foldl (afterCreate config) Tx.begun).eventQueueSucceededHandlerRegistered with
    | true => simp [broadcasts_succeededHandler]
    | false => simp [none,broadcasts]

/-- What comes out of a split is what a separable event would be joined from. -/
theorem separable_of_combinationOf {event : Event} {text : String} (parsed : combinationOf text = Event.combination event) :
    SeparableEvent event := by
  have initial : [event.type,event.subType,event.nameSpace] <+: Separated.split '#' text := by
    unfold combinationOf Event.combination at parsed
    generalize Separated.split '#' text = parts at parsed
    match parts with
    | [] => simp at parsed
    | [first] => simp at parsed
    | [first,second] => simp at parsed
    | first::second::third::rest =>
      cases parsed
      exact ⟨rest,rfl⟩
  exact Separated.separable_of_split initial

theorem combinationOf_join_iff (type subType nameSpace : String) :
    combinationOf (Separated.join '#' [type,subType,nameSpace]) = ⟨type,subType,nameSpace⟩ ↔
      SeparableEvent ⟨type,subType,nameSpace⟩ := by
  constructor
  · exact fun parsed => separable_of_combinationOf parsed
  · intro separable
    have parts : Separated.split '#' (Separated.join '#' [type,subType,nameSpace]) = [type,subType,nameSpace] :=
      Separated.split_join (by simp) separable
    unfold combinationOf
    rw [parts]
    rfl

theorem combinationOf_eventKey {event : Event} (separable : SeparableEvent event) :
    combinationOf (eventKey event) = Event.combination event := (combinationOf_join_iff _ _ _).mpr separable

/-- The marks of a saga are not at an end, so its subtype is as good as the names of service and action. -/
theorem sagaSubType_closed {service action saga : String} (known : saga ∈ [SAGA_SUCCESS,SAGA_FAILED,SAGA_DONE])
    (servicePairless : Separated.Pairless '#' service.toList) (actionPairless : Separated.Pairless '#' action.toList) :
    Separated.Closed '#' (sagaSubType service action saga).toList := by
  have suffix : Separated.Closed '#' saga.toList := by
    simp only [List.mem_cons,List.not_mem_nil,or_false] at known
    rcases known with rfl | rfl | rfl <;> decide
  have chars : (sagaSubType service action saga).toList =
      service.toList ++ '.'::(action.toList ++ '/'::saga.toList) := by simp [sagaSubType]
  rw [chars,Separated.closed_append_cons (by decide),Separated.closed_append_cons (by decide)]
  exact ⟨servicePairless,actionPairless,suffix⟩

end

/-- On success a transaction broadcasts at most once, with one element for each combination that it has inserted and
that is flagged, because the keys of separable events come apart as they were joined; no others do. -/
theorem broadcast_after_commit (config : Config) (inserts : List Insert)
    (separable : ∀ event ∈ inserted inserts, SeparableEvent event) :
    ((broadcasts (succeeded config inserts) = [] ∧ ∀ event ∈ inserted inserts, ¬Flagged config event) ∨
      ∃ events, broadcasts (succeeded config inserts) = [events] ∧ events.Nodup ∧
        ∀ combination, combination ∈ events ↔
          ∃ event ∈ inserted inserts, Flagged config event ∧ Event.combination event = combination) ∧
    (∀ type subType nameSpace : String,
      combinationOf (Separated.join '#' [type,subType,nameSpace]) = ⟨type,subType,nameSpace⟩ ↔
        SeparableEvent ⟨type,subType,nameSpace⟩) ∧
    ∀ service action : String, ∀ saga ∈ [SAGA_SUCCESS,SAGA_FAILED,SAGA_DONE],
      Separated.Pairless '#' service.toList → Separated.Pairless '#' action.toList →
        Separated.Closed '#' (sagaSubType service action saga).toList := by
  refine ⟨?_,combinationOf_join_iff,fun service action saga known => sagaSubType_closed known⟩
  have collected := (foldl_afterCreate_invariant inserts (@begun_invariant config)).collected
  rw [List.nil_append] at collected
  rw [broadcasts_succeeded]
  generalize (inserts.foldl (afterCreate config) Tx.begun).eventQueueBroadcastCombinations = combinations at collected ⊢
  obtain ⟨distinct,keys,_⟩ := collected
  have apart (key : String) (listed : key ∈ combinations) :
      ∃ event ∈ inserted inserts, Flagged config event ∧ eventKey event = key ∧
        combinationOf key = Event.combination event := by
    obtain ⟨event,member,flagged,rfl⟩ := (keys key).mp listed
    exact ⟨event,member,flagged,rfl,combinationOf_eventKey (separable event member)⟩
  cases combinations with
  | nil =>
    refine Or.inl ⟨rfl,fun event member flagged => ?_⟩
    exact absurd ((keys _).mpr ⟨event,member,flagged,rfl⟩) (List.not_mem_nil)
  | cons first rest =>
    refine Or.inr ⟨_,rfl,?_,fun combination => ?_⟩
    · refine List.Nodup.map_on (fun key listed other also same => ?_) distinct
      obtain ⟨event,_,_,rfl,own⟩ := apart key listed
      obtain ⟨another,_,_,rfl,its⟩ := apart other also
      rw [own,its] at same
      simp only [Event.combination,Combination.mk.injEq,Option.some.injEq] at same
      simp [eventKey,same]
    · rw [List.mem_map]
      constructor
      · rintro ⟨key,listed,rfl⟩
        obtain ⟨event,member,flagged,_,own⟩ := apart key listed
        exact ⟨event,member,flagged,own.symm⟩
      · rintro ⟨event,member,flagged,rfl⟩
        exact ⟨_,(keys _).mpr ⟨event,member,flagged,rfl⟩,combinationOf_eventKey (separable event member)⟩

def quietConfig : Config :=
  ⟨Dict.empty.set (generateKey "default" "Notifications" "Task") ⟨some false⟩,false,true⟩

def failedSaga : Event := ⟨"CAP_OUTBOX",sagaSubType "S" "a" SAGA_FAILED,"default"⟩

theorem broadcast_after_commit_failed_saga : ∃ events,
    broadcasts (succeeded quietConfig [⟨false,[failedSaga,⟨"Notifications","Task","default"⟩]⟩,⟨false,[failedSaga]⟩]) =
      [events] ∧ events.Nodup ∧ Event.combination failedSaga ∈ events := by
  rcases (broadcast_after_commit quietConfig
    [⟨false,[failedSaga,⟨"Notifications","Task","default"⟩]⟩,⟨false,[failedSaga]⟩] (by decide)).1 with
    ⟨_,none⟩ | ⟨events,once,distinct,members⟩
  · exact absurd (show Flagged quietConfig failedSaga from rfl) (none failedSaga (by simp [inserted]))
  · exact ⟨events,once,distinct,(members _).mpr ⟨failedSaga,by simp [inserted],rfl,rfl⟩⟩

end EventQueue.AfterCommit

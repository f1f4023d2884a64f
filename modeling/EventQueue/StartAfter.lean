import EventQueue.OutboxRoundTrip

/-! `startAfter` on its way into the table: an event may bring its own date, also through a header of an
outboxed request, and an event without one is due at the next tick of the time bucket. -/
namespace EventQueue.StartAfter
open Js (Value)
open Publish hiding entryOf
open Outbox

section
variable (runtime : Runtime) (config : Config) (call : Call) (event : Dict Value)

/-- The next tick of the time bucket, as text. -/
def tick : Option String := (timeBucket config event).map (fun expression => runtime.next expression call.now)

def Absent (startAfter : Value) : Prop := startAfter = .undefined ∨ startAfter = .null

/-- A row that was inserted for an event with this `startAfter`. -/
structure Scheduled (next : Option String) (startAfter : Value) (row : Dict Value) : Prop where
  explicit : startAfter.truthy = true → dateOf runtime (property row "startAfter") = dateOf runtime startAfter
  byBucket : Absent startAfter → ∀ text, next = some text → property row "startAfter" = .str text
  unplanned : Absent startAfter → next = none → Absent (property row "startAfter")

/-- With a time bucket, a date of the event's own has to be the next tick or the name of a property, and no
property may have the name that a missing date is looked up under. -/
structure Respected (startAfter : Value) : Prop where
  explicit : ∀ text, tick runtime config call event = some text → startAfter.truthy = true →
    Named call event (runtime.propertyKey startAfter) ∨ runtime.parseDate text = dateOf runtime startAfter
  absent : tick runtime config call event ≠ none → Absent startAfter →
    ¬Named call event (runtime.propertyKey startAfter)

end

section
variable {runtime : Runtime} {config : Config} {call : Call} {event : Dict Value}

theorem absent_ne_text {startAfter : Value} (absent : Absent startAfter) (text : String) : startAfter ≠ .str text := by
  rcases absent with rfl | rfl <;> simp

theorem scheduled_iff :
    Scheduled runtime (tick runtime config call event) (property event "startAfter") (stored runtime config call event) ↔
      Respected runtime config call event (property event "startAfter") := by
  rcases @startAfter_stored runtime config call event with
    ⟨kept,unset | named⟩ | ⟨expression,bucket,unnamed,replaced⟩
  · have none : tick runtime config call event = none := by rw [tick,unset,Option.map_none]
    refine ⟨fun _ => ⟨fun text next => ?_,fun set => ?_⟩,fun _ => ⟨fun _ => ?_,fun _ text next => ?_,fun absent _ => ?_⟩⟩
    · rw [none] at next
      cases next
    · exact absurd none set
    · rw [kept]
    · rw [none] at next
      cases next
    · rw [kept]
      exact absent
  · constructor
    · intro scheduled
      refine ⟨fun _ _ _ => Or.inl named,fun set absent => ?_⟩
      obtain ⟨text,next⟩ := Option.ne_none_iff_exists'.mp set
      have written := scheduled.byBucket absent text next
      rw [kept] at written
      exact absurd written (absent_ne_text absent text)
    · intro respected
      refine ⟨fun _ => by rw [kept],fun absent text next => ?_,fun absent _ => by rw [kept]; exact absent⟩
      exact absurd named (respected.absent (by simp [next]) absent)
  · have next : tick runtime config call event = some (runtime.next expression call.now) := by
      rw [tick,bucket,Option.map_some]
    constructor
    · intro scheduled
      refine ⟨fun text found given => Or.inr ?_,fun _ _ => unnamed⟩
      have same := scheduled.explicit given
      rw [replaced] at same
      rw [next,Option.some.injEq] at found
      rw [← found]
      exact same
    · intro respected
      refine ⟨fun given => ?_,fun _ text found => ?_,fun _ none => ?_⟩
      · rw [replaced]
        exact (respected.explicit _ next given).resolve_left unnamed
      · rw [replaced]
        rw [next,Option.some.injEq] at found
        rw [found]
      · rw [next] at none
        cases none

end

section
variable (platform : Platform) (opts : OutboxOpts) (context : Context) (request : Request)

/-- The value of the last header that stands for `startAfter`. -/
def headerStartAfter : Value :=
  (((request.headers.entries.filter (fun entry => specificField platform entry.1 = some "startAfter")).getLast?).map
    Prod.snd).getD .undefined

end

section
variable {platform : Platform} {opts : OutboxOpts} {context : Context} {request : Request}

theorem startAfter_specific :
    property (eventQueueSpecificValues platform request) "startAfter" = headerStartAfter platform request := by
  rw [property,get?_eventQueueSpecificValues,headerStartAfter]

theorem startAfter_entryOf (payload : Value) :
    property (entryOf platform opts request payload) "startAfter" = headerStartAfter platform request := by
  rw [← startAfter_specific,property,property,entryOf,Dict.get?_assign]
  cases (eventQueueSpecificValues platform request).get? "startAfter" with
  | none => simp [Dict.get?_set]
  | some value => rfl

end

section
variable {runtime : Runtime} {config : Config} {calls : List Call}

/-- The rows of the transaction: every event has one, and each is what `publishEvent` made of its event. -/
theorem rows_of_publishEvents (initialized : config.initialized = true)
    (valid : ∀ call ∈ calls, ∀ event ∈ call.events, Valid runtime config call event) (table : List TableRow) :
    ∃ tx rows, publishEvents runtime config calls = .ok tx ∧ tx.finish true table = table ++ rows ∧
      (∀ row ∈ rows, ∃ published ∈ publishedEvents calls, row = toRow runtime config published) ∧
      ∀ published ∈ publishedEvents calls, toRow runtime config published ∈ rows := by
  obtain ⟨tx,ok,ran⟩ := ran_publishEvents initialized calls [] Tx.begun valid ⟨rfl,rfl,rfl,rfl,rfl⟩
  rw [List.nil_append] at ran
  refine ⟨tx,_,ok,ran.finish table,?_,?_⟩
  · intro row member
    rw [List.map_append,List.mem_append,List.map_map] at member
    rcases member with now | later
    · obtain ⟨published,listed,rfl⟩ := List.mem_map.mp now
      exact ⟨published,(List.mem_filter.mp listed).1,rfl⟩
    · split at later
      · rw [List.map_map] at later
        obtain ⟨published,listed,rfl⟩ := List.mem_map.mp later
        exact ⟨published,listed,rfl⟩
      · cases later
  · intro published listed
    rw [List.map_append,List.mem_append,List.map_map]
    by_cases later : deferred config published.1.1 = true
    · have registered : calls.any (deferred config) = true :=
        List.any_eq_true.mpr ⟨_,(of_mem_publishedEvents listed).1,later⟩
      rw [if_pos registered,List.map_map]
      exact Or.inr (List.mem_map.mpr ⟨published,listed,rfl⟩)
    · exact Or.inl (List.mem_map.mpr ⟨published,List.mem_filter.mpr ⟨listed,by simp [immediate,later]⟩,rfl⟩)

end

theorem start_after_iff (runtime : Runtime) (config : Config) (initialized : config.initialized = true)
    (calls : List Call) (valid : ∀ call ∈ calls, ∀ event ∈ call.events, Valid runtime config call event)
    (table : List TableRow) :
    (∃ tx rows, publishEvents runtime config calls = .ok tx ∧ tx.finish true table = table ++ rows ∧
      ∀ published ∈ publishedEvents calls, (∃ row ∈ rows, row.event = some published.2) ∧
        ((∀ row ∈ rows, row.event = some published.2 → Scheduled runtime (tick runtime config published.1.1 published.1.2)
            (property published.1.2 "startAfter") row.fields) ↔
          Respected runtime config published.1.1 published.1.2 (property published.1.2 "startAfter"))) ∧
    ∀ (platform : Platform) (opts : OutboxOpts) (context : Context) (request : Request) (now : Nat) (traceContext : Value)
        (payload : Value) (row : Dict Value),
      platform.runtime.stringify (.obj (eventOf platform opts context request).entries) = some payload →
      mapToEventAndPublish platform opts context request config now traceContext = .ok row →
      let entry := entryOf platform opts request payload
      let call := publishCall platform request now traceContext entry
      Scheduled platform.runtime (tick platform.runtime config call entry) (headerStartAfter platform request) row ↔
        Respected platform.runtime config call entry (headerStartAfter platform request) := by
  refine ⟨?_,?_⟩
  · obtain ⟨tx,rows,ok,finished,sound,complete⟩ := rows_of_publishEvents initialized valid table
    refine ⟨tx,rows,ok,finished,fun published listed => ⟨⟨_,complete published listed,rfl⟩,?_⟩⟩
    rw [← scheduled_iff]
    constructor
    · exact fun every => every _ (complete published listed) rfl
    · intro scheduled row member numbered
      obtain ⟨other,also,rfl⟩ := sound row member
      rw [publishedEvents_unique also listed (Option.some.inj numbered)]
      exact scheduled
  · intro platform opts context request now traceContext payload row written mapped entry call
    simp only [mapToEventAndPublish,written] at mapped
    obtain ⟨accepted,rfl⟩ := prepare_ok_iff.mp mapped
    rw [← startAfter_entryOf payload]
    exact scheduled_iff

/-- Every five minutes. -/
def bucketed : Config := {mails with getEventConfig := fun _ _ _ => some ⟨false,some "*/5 * * * *"⟩}

def ticking : Runtime := {newYear with
  parseDate := fun text => if text = "2030-01-01T00:00:00.000Z" then some 1893456000000
    else if text = "2025-01-01T00:05:00.000Z" then some 1735689900000 else none
  propertyKey := fun value =>
    match value with
    | .str text => text
    | _ => "undefined"
  next := fun _ _ => "2025-01-01T00:05:00.000Z"}

theorem start_after_iff_mail :
    ∃ tx rows, publishEvents ticking bucketed [publishing mail false] = .ok tx ∧ tx.finish true [] = rows ∧
      ∀ row ∈ rows, row.event = some 0 → property row.fields "startAfter" = .str "2025-01-01T00:05:00.000Z" := by
  obtain ⟨tx,rows,ok,finished,each⟩ := (start_after_iff ticking bucketed rfl [publishing mail false] (by
    intro call member event inside
    obtain rfl := List.mem_singleton.mp member
    obtain rfl := List.mem_singleton.mp inside
    exact ⟨Or.inl rfl,fun given => Bool.noConfusion given,rfl,rfl⟩) []).1
  refine ⟨tx,rows,ok,finished,fun row member numbered => ?_⟩
  have respected : Respected ticking bucketed (publishing mail false) mail (property mail "startAfter") := by
    refine ⟨fun _ _ given => ?_,fun _ _ named => ?_⟩
    · cases given
    · revert named
      unfold Named
      decide
  have scheduled := (each ((publishing mail false,mail),0) (List.mem_singleton.mpr rfl)).2.mpr respected row member numbered
  exact scheduled.byBucket (Or.inl rfl) _ rfl

/-- The date is looked up as the name of a property, and the next tick takes its place. -/
theorem bucket_overwrites :
    Valid ticking bucketed (publishing planned false) planned ∧
      ∃ tx, publishEvents ticking bucketed [publishing planned false] = .ok tx ∧
        ∃ row ∈ tx.finish true [], row.event = some 0 ∧
          ¬Scheduled ticking (tick ticking bucketed (publishing planned false) planned) (property planned "startAfter")
            row.fields := by
  refine ⟨⟨Or.inl rfl,fun _ => rfl,rfl,rfl⟩,_,rfl,_,List.mem_singleton.mpr rfl,rfl,?_⟩
  intro scheduled
  have same := scheduled.explicit rfl
  revert same
  decide

end EventQueue.StartAfter

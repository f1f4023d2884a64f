import EventQueue.Lib.Dict
import EventQueue.Lib.Parties
import EventQueue.Lib.Transition
import EventQueue.Lib.Value

/-! `ExpiringLazyCache` with callbacks that return promises. One slot of a key is absent, holds a promise that never
expires, or a value with its expiration time; the reactions of a promise find the slot by its key. -/
namespace EventQueue.ExpiringLazyCache
open Js (Number)

inductive KeyOrKeys
  | key (key : String)
  | keys (keys : List String)

inductive Outcome (Value : Type)
  | fulfilled (expiration : Number) (value : Value)
  | rejected

/-- The callback's promise is pending, has settled, or the reactions of the cache have run too. -/
inductive Stage (Value : Type)
  | running
  | settled (outcome : Outcome Value)
  | over (outcome : Outcome Value)

/-- One call of a callback. -/
structure Flight (Value : Type) where
  key : String
  currentTime : Rat
  stage : Stage Value

inductive Content (Value : Type)
  | promise (flight : Nat)
  | value (value : Value)

structure Entry (Value : Type) where
  expirationTime : Number
  content : Content Value

structure State (Value : Type) where
  data : Dict (Entry Value)
  flights : List (Flight Value)

inductive Action (Value : Type)
  | getSetCb (keyOrKeys : KeyOrKeys) (currentTime : Rat)
  | settle (flight : Nat) (outcome : Outcome Value)
  | react (flight : Nat)

variable {Value : Type}

def State.empty : State Value := ⟨Dict.empty,[]⟩

def InFlight (flight : Flight Value) : Prop := ∀ outcome, flight.stage ≠ .over outcome

structure Cache where
  separator : String
  expirationGap : Rat

section
variable (cache : Cache)

def Cache.key : KeyOrKeys → String
  | .key key => key
  | .keys keys => cache.separator.intercalate keys

/-- The `expirationTime` that `set` stores: `currentTime + expiration - this.__expirationGap`. -/
def Cache.expirationTime (currentTime : Rat) : Number → Number
  | .finite expiration => .finite (currentTime + expiration - cache.expirationGap)
  | expiration => expiration

def isValid (expirationTime : Number) (currentTime : Rat) : Bool :=
  (Js.Value.num expirationTime).truthy && expirationTime.ge (.finite currentTime)

/-- The content of the slot, if it has not expired. -/
def State.get (state : State Value) (key : String) (currentTime : Rat) : Option (Content Value) :=
  (state.data.get? key).bind (fun entry => if isValid entry.expirationTime currentTime then some entry.content else none)

def State.setCb (state : State Value) (key : String) (currentTime : Rat) : Content Value × State Value :=
  let promise := Content.promise state.flights.length
  (promise,⟨state.data.set key ⟨.infinity false,promise⟩,state.flights ++ [⟨key,currentTime,.running⟩]⟩)

def State.getSetCb (state : State Value) (keyOrKeys : KeyOrKeys) (currentTime : Rat) : Content Value × State Value :=
  let key := cache.key keyOrKeys
  match state.get key currentTime with
  | some content => (content,state)
  | none => state.setCb key currentTime

/-- The `catch` of a rejected promise deletes the slot, the `then` of a fulfilled one overwrites it. -/
def State.react (state : State Value) (flight : Flight Value) (outcome : Outcome Value) : Dict (Entry Value) :=
  match outcome with
  | .fulfilled expiration value =>
    state.data.set flight.key ⟨cache.expirationTime flight.currentTime expiration,.value value⟩
  | .rejected => state.data.filter (fun key _ => key ≠ flight.key)

def step (state : State Value) : Action Value → Option (State Value)
  | .getSetCb keyOrKeys currentTime => some (state.getSetCb cache keyOrKeys currentTime).2
  | .settle index outcome => state.flights[index]?.bind (fun flight =>
    match flight.stage with
    | .running => some {state with flights := state.flights.set index {flight with stage := .settled outcome}}
    | _ => none)
  | .react index => state.flights[index]?.bind (fun flight =>
    match flight.stage with
    | .settled outcome =>
      some ⟨state.react cache flight outcome,state.flights.set index {flight with stage := .over outcome}⟩
    | _ => none)

/-- No later callback was called for the key of this one. -/
def Latest (state : State Value) (index : Nat) (flight : Flight Value) : Prop :=
  state.flights[index]? = some flight ∧
    ∀ (later : Nat) other, index < later → state.flights[later]? = some other → other.key ≠ flight.key

/-- A value is valid until the gap before its expiration, and never if that is time 0. -/
def Fresh (currentTime : Rat) (expiration : Number) (time : Rat) : Prop :=
  match expiration with
  | .finite expiration => currentTime + expiration - cache.expirationGap ≠ 0 ∧
      time ≤ currentTime + expiration - cache.expirationGap
  | .infinity negative => negative = false
  | .nan => False

/-- The call calls its callback, once, and returns the new promise. -/
def Starts (state : State Value) (keyOrKeys : KeyOrKeys) (time : Rat) : Prop :=
  (state.getSetCb cache keyOrKeys time).1 = .promise state.flights.length ∧
    (state.getSetCb cache keyOrKeys time).2.flights = state.flights ++ [⟨cache.key keyOrKeys,time,.running⟩]

structure SingleFlight (state : State Value) : Prop where
  alone : ∀ (first second : Nat) one other, state.flights[first]? = some one → state.flights[second]? = some other →
    InFlight one → InFlight other → one.key = other.key → first = second
  shared : ∀ (index : Nat) flight, state.flights[index]? = some flight → InFlight flight →
    ∀ keyOrKeys time, cache.key keyOrKeys = flight.key → state.getSetCb cache keyOrKeys time = (.promise index,state)
  fresh : ∀ index flight expiration value, Latest state index flight →
    flight.stage = .over (.fulfilled expiration value) → ∀ keyOrKeys time, cache.key keyOrKeys = flight.key →
      Fresh cache flight.currentTime expiration time → state.getSetCb cache keyOrKeys time = (.value value,state)
  expired : ∀ index flight expiration value, Latest state index flight →
    flight.stage = .over (.fulfilled expiration value) → ∀ keyOrKeys time, cache.key keyOrKeys = flight.key →
      ¬Fresh cache flight.currentTime expiration time → Starts cache state keyOrKeys time
  rejected : ∀ index flight, Latest state index flight → flight.stage = .over .rejected →
    state.data.get? flight.key = none ∧
      ∀ keyOrKeys time, cache.key keyOrKeys = flight.key → Starts cache state keyOrKeys time
  first : ∀ keyOrKeys time, (∀ flight ∈ state.flights, flight.key ≠ cache.key keyOrKeys) →
    Starts cache state keyOrKeys time

/-- What the slot of a key holds while this is its latest flight. -/
def slotOf (index : Nat) (flight : Flight Value) : Option (Entry Value) :=
  match flight.stage with
  | .over (.fulfilled expiration value) => some ⟨cache.expirationTime flight.currentTime expiration,.value value⟩
  | .over .rejected => none
  | _ => some ⟨.infinity false,.promise index⟩

/-- Only the latest flight of a key may be in flight, and it decides what the slot holds. -/
structure Sound (state : State Value) : Prop where
  earlier : ∀ (index later : Nat) flight other, index < later → state.flights[index]? = some flight →
    state.flights[later]? = some other → flight.key = other.key → ¬InFlight flight
  slot : ∀ index flight, Latest state index flight → state.data.get? flight.key = slotOf cache index flight
  unused : ∀ key, (∀ flight ∈ state.flights, flight.key ≠ key) → state.data.get? key = none

end

section
variable {cache : Cache} {state : State Value}

theorem isValid_infinity (time : Rat) : isValid (.infinity false) time = true := rfl

theorem isValid_expirationTime (currentTime time : Rat) (expiration : Number) :
    isValid (cache.expirationTime currentTime expiration) time = true ↔ Fresh cache currentTime expiration time := by
  cases expiration with
  | nan => simp [Cache.expirationTime,isValid,Js.Value.truthy,Fresh]
  | infinity negative => cases negative <;> simp [Cache.expirationTime,isValid,Js.Value.truthy,Number.ge,Fresh]
  | finite expiration => simp [Cache.expirationTime,isValid,Js.Value.truthy,Number.ge,Fresh]

theorem getSetCb_valid {keyOrKeys : KeyOrKeys} {entry : Entry Value} {time : Rat}
    (found : state.data.get? (cache.key keyOrKeys) = some entry) (valid : isValid entry.expirationTime time = true) :
    state.getSetCb cache keyOrKeys time = (entry.content,state) := by
  have content : state.get (cache.key keyOrKeys) time = some entry.content := by
    simp [State.get,found,valid]
  simp only [State.getSetCb,content]

theorem getSetCb_starts {keyOrKeys : KeyOrKeys} {time : Rat}
    (invalid : ∀ entry, state.data.get? (cache.key keyOrKeys) = some entry → isValid entry.expirationTime time = false) :
    state.getSetCb cache keyOrKeys time = state.setCb (cache.key keyOrKeys) time := by
  have nothing : state.get (cache.key keyOrKeys) time = none := by
    unfold State.get
    rw [Option.bind_eq_none_iff]
    intro entry found
    rw [invalid entry found]
    rfl
  simp only [State.getSetCb,nothing]

theorem starts_of_invalid {keyOrKeys : KeyOrKeys} {time : Rat}
    (invalid : ∀ entry, state.data.get? (cache.key keyOrKeys) = some entry → isValid entry.expirationTime time = false) :
    Starts cache state keyOrKeys time := by
  rw [Starts,getSetCb_starts invalid]
  exact ⟨rfl,rfl⟩

theorem Sound.latest_of_inFlight (sound : Sound cache state) {index : Nat} {flight : Flight Value}
    (found : state.flights[index]? = some flight) (inFlight : InFlight flight) : Latest state index flight :=
  ⟨found,fun later other after at_ same => sound.earlier index later flight other after found at_ same.symm inFlight⟩

theorem slotOf_inFlight {flight : Flight Value} (inFlight : InFlight flight) (index : Nat) :
    slotOf cache index flight = some ⟨.infinity false,.promise index⟩ := by
  unfold slotOf
  split
  · rename_i ended
    exact absurd ended (inFlight _)
  · rename_i ended
    exact absurd ended (inFlight _)
  · rfl

theorem Sound.singleFlight (sound : Sound cache state) : SingleFlight cache state := by
  refine ⟨?_,?_,?_,?_,?_,?_⟩
  · intro first second one other foundFirst foundSecond oneInFlight otherInFlight same
    rcases Nat.lt_trichotomy first second with before | equal | after
    · exact absurd oneInFlight (sound.earlier _ _ _ _ before foundFirst foundSecond same)
    · exact equal
    · exact absurd otherInFlight (sound.earlier _ _ _ _ after foundSecond foundFirst same.symm)
  · intro index flight found inFlight keyOrKeys time own
    have slot := sound.slot index flight (sound.latest_of_inFlight found inFlight)
    rw [slotOf_inFlight inFlight,← own] at slot
    exact getSetCb_valid slot (isValid_infinity time)
  · intro index flight expiration value latest ended keyOrKeys time own fresh
    have slot := sound.slot index flight latest
    rw [slotOf,ended,← own] at slot
    exact getSetCb_valid slot ((isValid_expirationTime _ _ _).mpr fresh)
  · intro index flight expiration value latest ended keyOrKeys time own stale
    have slot := sound.slot index flight latest
    rw [slotOf,ended,← own] at slot
    refine starts_of_invalid (fun entry found => ?_)
    rw [slot] at found
    cases found
    exact Bool.eq_false_iff.mpr (fun valid => stale ((isValid_expirationTime _ _ _).mp valid))
  · intro index flight latest ended
    have slot := sound.slot index flight latest
    rw [slotOf,ended] at slot
    refine ⟨slot,fun keyOrKeys time own => starts_of_invalid (fun entry found => ?_)⟩
    rw [own,slot] at found
    cases found
  · intro keyOrKeys time none
    refine starts_of_invalid (fun entry found => ?_)
    rw [sound.unused _ none] at found
    cases found

theorem empty_sound : Sound cache (State.empty : State Value) where
  earlier index later flight other _ found := by simp [State.empty] at found
  slot index flight latest := by
    have found := latest.1
    simp [State.empty] at found
  unused _ _ := rfl

/-- A flight is only started where none is left for its key. -/
theorem Sound.setCb (sound : Sound cache state) (key : String) (time : Rat)
    (idle : ∀ flight ∈ state.flights, flight.key = key → ¬InFlight flight) :
    Sound cache (state.setCb key time).2 := by
  have cases_ : ∀ (index : Nat) flight, (state.flights ++ [⟨key,time,.running⟩])[index]? = some flight →
      state.flights[index]? = some flight ∨ index = state.flights.length ∧ flight = ⟨key,time,.running⟩ :=
    fun _ _ at_ => Parties.getElem?_joined at_
  have newest : (state.flights ++ [(⟨key,time,.running⟩ : Flight Value)])[state.flights.length]? =
      some ⟨key,time,.running⟩ := by simp
  have kept {index : Nat} {flight : Flight Value} (found : state.flights[index]? = some flight) :
      (state.flights ++ [⟨key,time,.running⟩])[index]? = some flight := by
    rw [List.getElem?_append_left (List.getElem?_eq_some_iff.mp found).1]
    exact found
  refine ⟨?_,?_,?_⟩
  · intro index later flight other before found foundLater same
    rcases cases_ index flight found with old | ⟨rfl,_⟩
    · rcases cases_ later other foundLater with oldLater | ⟨_,rfl⟩
      · exact sound.earlier index later flight other before old oldLater same
      · exact idle flight (List.mem_of_getElem? old) same
    · have bound := (List.getElem?_eq_some_iff.mp foundLater).1
      simp only [State.setCb,List.length_append,List.length_singleton] at bound
      omega
  · intro index flight latest
    simp only [State.setCb,Dict.get?_set]
    rcases cases_ index flight latest.1 with old | ⟨rfl,rfl⟩
    · have other : flight.key ≠ key := by
        have bound := (List.getElem?_eq_some_iff.mp old).1
        exact fun same => latest.2 _ _ bound newest same.symm
      rw [if_neg other]
      refine sound.slot index flight ⟨old,fun later other after at_ => latest.2 later other after (kept at_)⟩
    · rw [if_pos rfl]
      rfl
  · intro name unused
    simp only [State.setCb,Dict.get?_set]
    have other : name ≠ key := fun same => unused ⟨key,time,.running⟩ (by simp [State.setCb]) same.symm
    rw [if_neg other]
    exact sound.unused name (fun flight member => unused flight (List.mem_append_left _ member))

theorem Sound.getSetCb (sound : Sound cache state) (keyOrKeys : KeyOrKeys) (time : Rat) :
    Sound cache (state.getSetCb cache keyOrKeys time).2 := by
  cases content : state.get (cache.key keyOrKeys) time with
  | some found =>
    simp only [State.getSetCb,content]
    exact sound
  | none =>
    simp only [State.getSetCb,content]
    refine sound.setCb _ _ (fun flight member own inFlight => ?_)
    -- The slot of a flight that is not over would have been valid.
    obtain ⟨index,found⟩ := List.mem_iff_getElem?.mp member
    have slot := sound.slot index flight (sound.latest_of_inFlight found inFlight)
    rw [slotOf_inFlight inFlight,own] at slot
    simp [State.get,slot,isValid_infinity] at content

/-- A flight changes its stage and with it the slot of its key; no other slot is touched. -/
theorem Sound.advance (sound : Sound cache state) {index : Nat} {flight : Flight Value} {stage : Stage Value}
    {data : Dict (Entry Value)} (found : state.flights[index]? = some flight) (inFlight : InFlight flight)
    (own : data.get? flight.key = slotOf cache index {flight with stage := stage})
    (others : ∀ key, key ≠ flight.key → data.get? key = state.data.get? key) :
    Sound cache ⟨data,state.flights.set index {flight with stage := stage}⟩ := by
  have latest := sound.latest_of_inFlight found inFlight
  have changed : (state.flights.set index {flight with stage := stage})[index]? = some {flight with stage := stage} :=
    List.getElem?_set_self (List.getElem?_eq_some_iff.mp found).1
  refine ⟨?_,?_,?_⟩
  · intro first later one other before foundFirst foundLater same
    rcases Parties.getElem?_moved found foundFirst with ⟨rfl,rfl⟩ | ⟨_,oldFirst⟩
    · rcases Parties.getElem?_moved found foundLater with ⟨rfl,_⟩ | ⟨_,oldLater⟩
      · omega
      · exact absurd same.symm (latest.2 later other before oldLater)
    · rcases Parties.getElem?_moved found foundLater with ⟨rfl,rfl⟩ | ⟨_,oldLater⟩
      · exact sound.earlier _ _ _ _ before oldFirst found same
      · exact sound.earlier _ _ _ _ before oldFirst oldLater same
  · intro position other newest
    rcases Parties.getElem?_moved found newest.1 with ⟨rfl,rfl⟩ | ⟨apart,old⟩
    · exact own
    · have differ : other.key ≠ flight.key := by
        intro same
        rcases Nat.lt_or_gt_of_ne apart with before | after
        · exact newest.2 index _ before changed same.symm
        · exact latest.2 position other after old same
      rw [others _ differ]
      refine sound.slot position other ⟨old,fun later more after at_ => ?_⟩
      by_cases moved : later = index
      · subst moved
        rw [found] at at_
        cases at_
        exact differ.symm
      · exact newest.2 later more after (Parties.getElem?_kept _ at_ moved)
  · intro key none
    rw [others key (fun same => none _ (List.mem_of_getElem? changed) same.symm)]
    refine sound.unused key (fun other member same => ?_)
    rcases Parties.mem_moved {flight with stage := stage} found member with rfl | still
    · exact none _ (List.mem_of_getElem? changed) same
    · exact none other still same

theorem Sound.step {next : State Value} {action : Action Value} (sound : Sound cache state)
    (taken : step cache state action = some next) : Sound cache next := by
  cases action with
  | getSetCb keyOrKeys time =>
    cases taken
    exact sound.getSetCb keyOrKeys time
  | settle index outcome =>
    obtain ⟨flight,found,moved⟩ := Option.bind_eq_some_iff.mp taken
    split at moved
    · rename_i running
      cases moved
      have inFlight : InFlight flight := by
        intro outcome ended
        rw [running] at ended
        cases ended
      refine sound.advance found inFlight ?_ (fun _ _ => rfl)
      rw [sound.slot index flight (sound.latest_of_inFlight found inFlight),slotOf_inFlight inFlight]
      rfl
    · cases moved
  | react index =>
    obtain ⟨flight,found,moved⟩ := Option.bind_eq_some_iff.mp taken
    split at moved
    · rename_i outcome settled
      cases moved
      have inFlight : InFlight flight := by
        intro outcome ended
        rw [settled] at ended
        cases ended
      refine sound.advance found inFlight ?_ (fun key other => ?_)
      · cases outcome with
        | fulfilled expiration value => simp [State.react,Dict.get?_set,slotOf]
        | rejected => cases present : state.data.get? flight.key <;> simp [State.react,Dict.get?_filter,slotOf,present]
      · cases outcome with
        | fulfilled expiration value => simp [State.react,Dict.get?_set,other]
        | rejected => cases present : state.data.get? key <;> simp [State.react,Dict.get?_filter,present,other]
    · cases moved

end

/-- One callback in flight for a key at most, whose promise all calls share; then the value until it expires. -/
theorem single_flight (cache : Cache) (actions : List (Action Value)) (state : State Value)
    (reached : Transition.run (step cache) State.empty actions = some state) : SingleFlight cache state := by
  have sound := Transition.invariant (step cache) (fun _ _ => True) (Sound cache)
    (fun _ _ _ sound _ taken => sound.step taken) State.empty state actions empty_sound
    (Transition.along_true (step cache) State.empty actions) reached
  exact sound.singleFlight

def authContexts : Cache := ⟨"##",60000⟩

/-- A call, a second one that shares its promise, and the token that arrives. -/
def fetched : List (Action String) :=
  [.getSetCb (.key "t1") 1000,.getSetCb (.keys ["t1"]) 1500,.settle 0 (.fulfilled (.finite 3600000) "token"),.react 0]

theorem single_flight_fetched : ∃ state, Transition.run (step authContexts) State.empty fetched = some state ∧
    SingleFlight authContexts state := by
  obtain ⟨state,reached⟩ := Option.isSome_iff_exists.mp
    (show (Transition.run (step authContexts) State.empty fetched).isSome = true by decide +kernel)
  exact ⟨state,reached,single_flight authContexts fetched state reached⟩

/-- An expiration time of 0 counts as none, although the call is not later than it. -/
theorem expiration_time_zero : ∃ state flight, Transition.run (step authContexts) State.empty
      [.getSetCb (.key "t1") 0,.settle 0 (.fulfilled (.finite 60000) "token"),.react 0] = some state ∧
    Latest state 0 flight ∧ flight.key = "t1" ∧ flight.stage = .over (.fulfilled (.finite 60000) "token") ∧
      0 ≤ flight.currentTime + 60000 - authContexts.expirationGap ∧ Starts authContexts state (.key "t1") 0 := by
  let promise : Dict (Entry String) := Dict.empty.set "t1" ⟨.infinity false,.promise 0⟩
  let flight : Flight String := ⟨"t1",0,.over (.fulfilled (.finite 60000) "token")⟩
  refine ⟨⟨promise.set "t1" ⟨authContexts.expirationTime 0 (.finite 60000),.value "token"⟩,[flight]⟩,flight,rfl,
    ⟨rfl,fun later other after at_ => ?_⟩,rfl,rfl,by decide +kernel,starts_of_invalid (fun entry found => ?_)⟩
  · have bound := (List.getElem?_eq_some_iff.mp at_).1
    simp only [List.length_singleton] at bound
    omega
  · rw [show authContexts.key (.key "t1") = "t1" from rfl,Dict.get?_set,if_pos rfl] at found
    cases found
    decide +kernel

end EventQueue.ExpiringLazyCache

import EventQueue.ExpiringLazyCache
import EventQueue.TenantIds
import Mathlib.Algebra.Order.Field.Rat
import Mathlib.Data.Nat.Find
import Mathlib.Tactic.Linarith

/-! `getAuthContext` of `shared/common.js`: the token of a tenant is requested once and kept until a minute before it
expires; the answer that a tenant is unknown is kept for nine minutes, and any other failure not at all. -/
namespace EventQueue.AuthContext
open ExpiringLazyCache (Flight Content Latest authContexts)
open Js (Number)

/-- The answer of the authorization server, with the time a token expires at or the `responseCode` of an error. -/
inductive Reply
  | token (expiresAt : Nat)
  | error (responseCode : Option Nat)
  deriving DecidableEq

/-- What the cache keeps for a tenant: `[null, authInfo]`, `[err, null]` or `null`. -/
inductive Context
  | authInfo (expiresAt : Nat)
  | suspended
  | none
  deriving DecidableEq

/-- Ten minutes. -/
def EXPIRE_TIME_TENANT_404 : Nat := 10 * 60 * 1000

/-- `_getNewAuthContext` when the answer is there. -/
def getNewAuthContext (now : Nat) : Reply → Number × Context
  | .token expiresAt => (.finite ((expiresAt : Rat) - now),.authInfo expiresAt)
  | .error responseCode =>
    if responseCode = some 404 then (.finite EXPIRE_TIME_TENANT_404,.suspended) else (.finite 0,.none)

structure Application where
  filters : TenantIds.Filters
  /-- `cds.requires.auth.credentials`. -/
  credentials : Bool
  isMultiTenancy : Bool
  /-- The kind of `cds.requires.auth` is `jwt` or `xsuaa`, or there is `cds.requires.xsuaa`. -/
  xsuaa : Bool

/-- The tests of `getAuthContext` before it asks the cache. -/
def Application.authenticates (app : Application) (tenantId : String) : Bool :=
  TenantIds.isTenantIdValidCb app.filters .getAuthContext (some tenantId) && app.credentials && app.isMultiTenancy &&
    app.xsuaa

deriving instance DecidableEq for Content

/-- A call of `getAuthContext`, and what it was given; none if there is no context for the tenant. -/
structure Call where
  tenantId : String
  time : Nat
  given : Option (Content Context)

structure Answered where
  flight : Nat
  time : Nat
  reply : Reply

structure State where
  clock : Nat
  cache : ExpiringLazyCache.State Context
  -- The rest is history that no function reads back.
  calls : List Call
  answered : List Answered

inductive Action
  | wait (time : Nat)
  | call (tenantId : String)
  /-- The server answers a request. -/
  | reply (flight : Nat) (reply : Reply)
  /-- The reactions of the cache run. -/
  | react (flight : Nat)

def State.initial : State := ⟨0,.empty,[],[]⟩

section
variable (app : Application)

def State.getAuthContext (state : State) (tenantId : String) : State :=
  if app.authenticates tenantId then
    let (content,cache) := state.cache.getSetCb authContexts (.key tenantId) state.clock
    {state with cache := cache,calls := state.calls ++ [⟨tenantId,state.clock,some content⟩]}
  else {state with calls := state.calls ++ [⟨tenantId,state.clock,none⟩]}

def step (state : State) : Action → Option State
  | .wait time => some {state with clock := state.clock + time}
  | .call tenantId => some (state.getAuthContext app tenantId)
  | .reply flight reply =>
    let (expiration,context) := getNewAuthContext state.clock reply
    (ExpiringLazyCache.step authContexts state.cache (.settle flight (.fulfilled expiration context))).map (fun cache =>
      {state with cache := cache,answered := state.answered ++ [⟨flight,state.clock,reply⟩]})
  | .react flight => (ExpiringLazyCache.step authContexts state.cache (.react flight)).map (fun cache =>
      {state with cache := cache})

end

/-- A request for the tenant was under way or answered at the time. -/
def State.Requested (state : State) (index : Nat) (tenantId : String) (time : Nat) (flight : Flight Context) : Prop :=
  state.cache.flights[index]? = some flight ∧ flight.key = tenantId ∧ flight.currentTime ≤ time

/-- A context is good for another minute, and a tenant counts as suspended only if a request that began within the last
nine minutes was answered with a 404; no other failure is kept. -/
def Current (state : State) (call : Call) : Content Context → Prop
  | .promise index => ∃ flight, state.Requested index call.tenantId call.time flight
  | .value (.authInfo expiresAt) => call.time + 60000 ≤ expiresAt
  | .value .suspended => ∃ index flight, state.Requested index call.tenantId call.time flight ∧
      (call.time : Rat) ≤ flight.currentTime + 540000 ∧
      ∃ answered ∈ state.answered, answered.flight = index ∧ answered.reply = .error (some 404)
  | .value .none => False

/-- The last request of a tenant. -/
theorem exists_latest {cache : ExpiringLazyCache.State Context} {key : String}
    (some_ : ∃ flight ∈ cache.flights, flight.key = key) :
    ∃ index flight, Latest cache index flight ∧ flight.key = key := by
  classical
  let own (index : Nat) : Prop := ∃ flight, cache.flights[index]? = some flight ∧ flight.key = key
  obtain ⟨flight,member,same⟩ := some_
  obtain ⟨index,found⟩ := List.mem_iff_getElem?.mp member
  have inside := (List.getElem?_eq_some_iff.mp found).1
  have last : own (Nat.findGreatest own cache.flights.length) :=
    Nat.findGreatest_spec (Nat.le_of_lt inside) ⟨flight,found,same⟩
  obtain ⟨newest,at_,key_⟩ := last
  refine ⟨_,newest,⟨at_,fun later other after foundLater equal => ?_⟩,key_⟩
  have bound := (List.getElem?_eq_some_iff.mp foundLater).1
  exact Nat.findGreatest_is_greatest after (Nat.le_of_lt bound) ⟨other,foundLater,equal.trans key_⟩

/-- What the reply to a request has become. -/
def Settled (state : State) (index : Nat) (flight : Flight Context) : Prop :=
  ∀ outcome, flight.stage = .settled outcome ∨ flight.stage = .over outcome →
    ∃ answered ∈ state.answered, answered.flight = index ∧ flight.currentTime ≤ answered.time ∧
      outcome = .fulfilled (getNewAuthContext answered.time answered.reply).1
        (getNewAuthContext answered.time answered.reply).2

/-- A call is given nothing only for a tenant that is not authenticated. -/
def Justified (app : Application) (state : State) (call : Call) : Prop :=
  call.given.elim (app.authenticates call.tenantId = false) (Current state call)

structure Sound (app : Application) (state : State) : Prop where
  cache : ExpiringLazyCache.Sound authContexts state.cache
  past : ∀ flight ∈ state.cache.flights, flight.currentTime ≤ state.clock
  settled : ∀ index flight, state.cache.flights[index]? = some flight → Settled state index flight
  calls : ∀ call ∈ state.calls, Justified app state call

/-- The requests stay, with the tenant and the time they began at. -/
structure Kept (state next : State) : Prop where
  flights : ∀ (index : Nat) flight, state.cache.flights[index]? = some flight →
    ∃ kept, next.cache.flights[index]? = some kept ∧ kept.key = flight.key ∧ kept.currentTime = flight.currentTime
  answered : ∀ answered ∈ state.answered, answered ∈ next.answered

theorem Kept.requested {state next : State} (kept : Kept state next) {index : Nat} {tenantId : String} {time : Nat}
    {flight : Flight Context} (requested : state.Requested index tenantId time flight) :
    ∃ other, next.Requested index tenantId time other ∧ other.currentTime = flight.currentTime := by
  obtain ⟨found,own,before⟩ := requested
  obtain ⟨other,there,key,time⟩ := kept.flights index flight found
  exact ⟨other,⟨there,key.trans own,time.le.trans before⟩,time⟩

theorem Kept.current {state next : State} (kept : Kept state next) {call : Call} {content : Content Context}
    (current : Current state call content) : Current next call content := by
  cases content with
  | promise index =>
    obtain ⟨flight,requested⟩ := current
    obtain ⟨other,still,_⟩ := kept.requested requested
    exact ⟨other,still⟩
  | value context =>
    cases context with
    | authInfo expiresAt => exact current
    | suspended =>
      obtain ⟨index,flight,requested,recent,answered,member,own,reply⟩ := current
      obtain ⟨other,still,same⟩ := kept.requested requested
      refine ⟨index,other,still,?_,answered,kept.answered answered member,own,reply⟩
      rw [same]
      exact recent
    | none => exact current

theorem Kept.justified {app : Application} {state next : State} (kept : Kept state next) {call : Call}
    (justified : Justified app state call) : Justified app next call := by
  unfold Justified at justified ⊢
  cases given : call.given with
  | none =>
    rw [given] at justified
    exact justified
  | some content =>
    rw [given] at justified
    exact kept.current justified

section
variable {app : Application} {state next : State} (sound : Sound app state)

include sound

theorem Sound.wait (time : Nat) : Sound app {state with clock := state.clock + time} where
  cache := sound.cache
  past := by
    intro flight member
    have before := sound.past flight member
    push_cast
    have : (0 : Rat) ≤ time := Nat.cast_nonneg time
    linarith
  settled := sound.settled
  calls := sound.calls

/-- A value that is still valid says what it should. -/
theorem Sound.valid {tenantId : String} {entry : ExpiringLazyCache.Entry Context}
    (found : state.cache.data.get? tenantId = some entry)
    (valid : ExpiringLazyCache.isValid entry.expirationTime state.clock = true) (given : Option (Content Context)) :
    Current state ⟨tenantId,state.clock,given⟩ entry.content := by
  have asked : ∃ flight ∈ state.cache.flights, flight.key = tenantId := by
    by_contra none
    push Not at none
    rw [sound.cache.unused tenantId none] at found
    cases found
  obtain ⟨index,flight,latest,own⟩ := exists_latest asked
  have before := sound.past flight (List.mem_of_getElem? latest.1)
  have slot := sound.cache.slot index flight latest
  rw [own,found] at slot
  have settled := sound.settled index flight latest.1
  unfold ExpiringLazyCache.slotOf at slot
  split at slot
  · rename_i expiration value gone
    cases slot
    obtain ⟨answered,member,ofFlight,began,outcome⟩ := settled _ (Or.inr gone)
    cases outcome
    have fresh := (ExpiringLazyCache.isValid_expirationTime _ _ _).mp valid
    cases reply : answered.reply with
    | token expiresAt =>
      rw [reply] at fresh
      have late := fresh.2
      simp only [authContexts] at late
      simp only [getNewAuthContext,Current]
      have : (state.clock : Rat) + 60000 ≤ expiresAt := by linarith
      exact_mod_cast this
    | error responseCode =>
      rw [reply] at fresh
      unfold getNewAuthContext at fresh ⊢
      by_cases unknown : responseCode = some 404
      · simp only [unknown,if_true] at fresh ⊢
        refine ⟨index,flight,⟨latest.1,own,before⟩,?_,answered,member,ofFlight,?_⟩
        · have late := fresh.2
          simp only [EXPIRE_TIME_TENANT_404,authContexts] at late
          norm_num at late
          linarith
        · rw [reply,unknown]
      · simp only [unknown,if_false] at fresh
        have late := fresh.2
        simp only [authContexts] at late
        linarith
  · cases slot
  · cases slot
    exact ⟨flight,latest.1,own,before⟩

omit sound in
theorem kept_joined (joined : Flight Context) (calls : List Call) :
    Kept state {state with
      cache := ⟨state.cache.data.set joined.key ⟨.infinity false,.promise state.cache.flights.length⟩,
        state.cache.flights ++ [joined]⟩
      calls := calls} := by
  refine ⟨fun index flight found => ⟨flight,?_,rfl,rfl⟩,fun answered member => member⟩
  rw [List.getElem?_append_left (List.getElem?_eq_some_iff.mp found).1]
  exact found

theorem Sound.called {call : Call} (justified : Justified app state call) :
    Sound app {state with calls := state.calls ++ [call]} := by
  refine {sound with cache := sound.cache,past := sound.past,settled := sound.settled,calls := ?_}
  intro other member
  rcases List.mem_append.mp member with before | last
  · exact sound.calls other before
  · rw [List.mem_singleton.mp last]
    exact justified

/-- The cache asks the server. -/
theorem Sound.asked (tenantId : String)
    (cache : ExpiringLazyCache.Sound authContexts (state.cache.setCb tenantId state.clock).2) :
    Sound app {state with cache := (state.cache.setCb tenantId state.clock).2} where
  cache := cache
  past := by
    intro flight member
    rcases List.mem_append.mp member with before | last
    · exact sound.past flight before
    · rw [List.mem_singleton.mp last]
  settled := by
    intro index flight found
    rcases Parties.getElem?_joined found with before | ⟨_,rfl⟩
    · exact sound.settled index flight before
    · intro outcome ended
      rcases ended with settled | gone
      · cases settled
      · cases gone
  calls call member := (kept_joined _ _).justified (sound.calls call member)

theorem Sound.getAuthContext (tenantId : String) : Sound app (state.getAuthContext app tenantId) := by
  unfold State.getAuthContext
  split
  · have cache := sound.cache.getSetCb (.key tenantId) state.clock
    have key : authContexts.key (.key tenantId) = tenantId := rfl
    unfold ExpiringLazyCache.State.getSetCb at cache ⊢
    simp only [key] at cache ⊢
    cases content : state.cache.get tenantId state.clock with
    | some content =>
      rw [content] at cache
      obtain ⟨entry,found,valid⟩ := Option.bind_eq_some_iff.mp content
      split at valid
      · rename_i isValid
        cases valid
        exact sound.called (sound.valid found isValid _)
      · cases valid
    | none =>
      rw [content] at cache
      refine (sound.asked tenantId cache).called ?_
      exact ⟨⟨tenantId,state.clock,.running⟩,by simp [ExpiringLazyCache.State.setCb],rfl,le_refl _⟩
  · rename_i refused
    exact sound.called (eq_false_of_ne_true refused)

omit sound in
theorem kept_moved {index : Nat} {flight : Flight Context}
    (found : state.cache.flights[index]? = some flight) (stage : ExpiringLazyCache.Stage Context)
    (data : Dict (ExpiringLazyCache.Entry Context)) (more : List Answered) :
    Kept state {state with
      cache := ⟨data,state.cache.flights.set index {flight with stage := stage}⟩
      answered := state.answered ++ more} := by
  refine ⟨fun position other at_ => ?_,fun answered member => List.mem_append_left _ member⟩
  by_cases same : position = index
  · subst same
    cases found.symm.trans at_
    exact ⟨_,List.getElem?_set_self (List.getElem?_eq_some_iff.mp found).1,rfl,rfl⟩
  · exact ⟨other,Parties.getElem?_kept _ at_ same,rfl,rfl⟩

/-- A request goes on. -/
theorem Sound.moved {index : Nat} {flight : Flight Context}
    (found : state.cache.flights[index]? = some flight) {stage : ExpiringLazyCache.Stage Context}
    {data : Dict (ExpiringLazyCache.Entry Context)} {more : List Answered}
    (cache : ExpiringLazyCache.Sound authContexts ⟨data,state.cache.flights.set index {flight with stage := stage}⟩)
    (settled : Settled {state with answered := state.answered ++ more} index {flight with stage := stage}) :
    Sound app {state with
      cache := ⟨data,state.cache.flights.set index {flight with stage := stage}⟩
      answered := state.answered ++ more} where
  cache := cache
  past := Parties.forall_mem_moved sound.past (sound.past flight (List.mem_of_getElem? found))
  settled := by
    refine Parties.forall_getElem?_moved found (fun position other at_ => ?_) settled
    intro outcome ended
    obtain ⟨answered,member,rest⟩ := sound.settled position other at_ outcome ended
    exact ⟨answered,List.mem_append_left _ member,rest⟩
  calls call member := (kept_moved found stage data more).justified (sound.calls call member)

theorem Sound.reply {index : Nat} {reply : Reply} (taken : step app state (.reply index reply) = some next) :
    Sound app next := by
  obtain ⟨cache,moved,rfl⟩ := Option.map_eq_some_iff.mp taken
  have kept := sound.cache.step moved
  obtain ⟨flight,found,moved⟩ := Option.bind_eq_some_iff.mp moved
  split at moved
  · cases moved
    refine sound.moved found kept (fun outcome ended => ?_)
    rcases ended with settled | gone
    · cases settled
      refine ⟨⟨index,state.clock,reply⟩,List.mem_append_right _ (List.mem_singleton_self _),rfl,?_,rfl⟩
      exact sound.past flight (List.mem_of_getElem? found)
    · cases gone
  · cases moved

theorem Sound.react {index : Nat} (taken : step app state (.react index) = some next) : Sound app next := by
  obtain ⟨cache,moved,rfl⟩ := Option.map_eq_some_iff.mp taken
  have kept := sound.cache.step moved
  obtain ⟨flight,found,moved⟩ := Option.bind_eq_some_iff.mp moved
  split at moved
  · rename_i outcome settled
    cases moved
    have gone : Settled {state with answered := state.answered ++ []} index {flight with stage := .over outcome} := by
      intro other ended
      rcases ended with never | gone
      · cases never
      · cases gone
        simpa using sound.settled index flight found _ (Or.inl settled)
    simpa using sound.moved found kept gone
  · cases moved

theorem Sound.step {action : Action} (taken : step app state action = some next) : Sound app next := by
  cases action with
  | wait time =>
    cases taken
    exact sound.wait time
  | call tenantId =>
    cases taken
    exact sound.getAuthContext tenantId
  | reply index reply => exact sound.reply taken
  | react index => exact sound.react taken

end

theorem initial_sound (app : Application) : Sound app State.initial where
  cache := ExpiringLazyCache.empty_sound
  past flight member := by cases member
  settled index flight found := by simp [State.initial,ExpiringLazyCache.State.empty] at found
  calls call member := by cases member

end EventQueue.AuthContext

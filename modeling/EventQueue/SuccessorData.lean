import EventQueue.Saga
import EventQueue.StatusMap

/-! The data of successor events. `#publishFollowupEvents` runs over the status tuple and hands the
successors of a report its `nextData` or else the data of the request. Both are objects it writes
to on the way, and it deletes `nextData` from the outcome; reports may share any of these objects. -/
namespace EventQueue.SuccessorData
open Js (Value)
open Saga

/-- What a property holds that the loop writes through: an object or a plain value. -/
inductive Data
  | object (ref : Nat)
  | primitive (value : Value)

def Data.isObject : Data → Bool
  | .object _ => true
  | .primitive _ => false

def Data.refersTo (ref : Nat) : Data → Bool
  | .object other => other = ref
  | .primitive _ => false

abbrev Memory := Nat → Dict Value

/-- The data of a successor as it is when it is sent. -/
inductive Content
  | object (fields : Dict Value)
  | primitive (value : Value)

def content (memory : Memory) : Data → Content
  | .object ref => .object (memory ref)
  | .primitive value => .primitive value

def Content.error : Content → Option Value
  | .object fields => fields.get? "error"
  | .primitive _ => none

/-- Equal in what the queue does not add itself. -/
def Content.Agrees : Content → Content → Prop
  | .object left,.object right => ∀ key, key ≠ "error" → key ≠ "triggerEvent" → left.get? key = right.get? key
  | .primitive left,.primitive right => left = right
  | _,_ => False

/-- An outcome object of the status tuple; null and undefined are no `nextData`. -/
structure Outcome where
  status : Value
  error : Value
  nextData : Option Data

/-- A cluster whose service handler has ended, with the objects its status tuple refers to. -/
structure Cluster where
  event : String
  data : Data
  queueEntries : List String
  /-- The JSON text of the handler's result and of the first entry, none if it has no such text. -/
  triggerEvent : Option String
  /-- None if there is no outcome to read. -/
  statusTuple : List (Option Nat)
  outcomes : Nat → Outcome
  memory : Memory

structure Sent where
  index : Nat
  event : String
  data : Content

variable (env : Environment) (onHandlers : List String) (cluster : Cluster)

def setProperty (memory : Memory) (data : Data) (name : String) (value : Value) : Option Memory :=
  match data with
  | .object ref => some (Function.update memory ref ((memory ref).set name value))
  | .primitive _ => none

def single : Bool := cluster.statusTuple.length = 1 && cluster.queueEntries.length = 1

def propagate (data : Data) (memory : Memory) : Option Memory :=
  if single cluster then cluster.triggerEvent.bind (fun text => setProperty memory data "triggerEvent" (.str text))
  else some memory

def addError (outcome : Outcome) (data : Data) (memory : Memory) : Option Memory :=
  if outcome.error.truthy then (env.error2String outcome.error).bind (setProperty memory data "error") else some memory

/-- The memory afterwards, none if it throws, and what has been sent. -/
abbrev Run := Option Memory × List (String × Content)

def send (handler : Option String) (applies : Bool) (prepare : Memory → Option Memory) (data : Data)
    (memory : Memory) : Run :=
  match handler with
  | none => (some memory,[])
  | some event =>
    if applies then
      match prepare memory with
      | none => (none,[])
      | some after => (some after,[(event,content after data)])
    else (some memory,[])

def Run.andThen (run : Run) (next : Memory → Run) : Run :=
  match run.1 with
  | none => run
  | some memory => ((next memory).1,run.2 ++ (next memory).2)

def succeeded : Option String := checkHandlerExists onHandlers cluster.event SAGA_SUCCESS
def failed : Option String := checkHandlerExists onHandlers cluster.event SAGA_FAILED
def done : Option String := checkHandlerExists onHandlers cluster.event SAGA_DONE

def isFirst : Bool := !endsWith cluster.event SAGA_SUCCESS

def Outcome.isDone (outcome : Outcome) : Bool := outcome.status.isOneOf [EventProcessingStatus.Done]
def Outcome.isError (outcome : Outcome) : Bool := outcome.status.isOneOf [EventProcessingStatus.Error]

def iteration (outcome : Outcome) (data : Data) (memory : Memory) : Run :=
  ((send (succeeded onHandlers cluster) (outcome.isDone && isFirst cluster) (propagate cluster data) data
    memory).andThen
      (send (failed onHandlers cluster) outcome.isError
        (fun memory => (addError env outcome data memory).bind (propagate cluster data)) data)).andThen
      (send (done onHandlers cluster) (isFirst cluster) (propagate cluster data) data)

def sends : Nat → List (Option Nat) → (Nat → Outcome) → Memory → List Sent
  | _,[],_,_ => []
  | _,none::_,_,_ => []
  | index,some ref::rest,outcomes,memory =>
    let outcome := outcomes ref
    let run := iteration env onHandlers cluster outcome (outcome.nextData.getD cluster.data) memory
    run.2.map (fun sent => ⟨index,sent.1,sent.2⟩) ++
      match run.1 with
      | none => []
      | some after => sends (index + 1) rest (Function.update outcomes ref {outcome with nextData := none}) after

def publishFollowupEvents : List Sent :=
  if (succeeded onHandlers cluster).isNone && (failed onHandlers cluster).isNone && (done onHandlers cluster).isNone then
    []
  else if endsWith cluster.event SAGA_FAILED || endsWith cluster.event SAGA_DONE then []
  else sends env onHandlers cluster 0 cluster.statusTuple cluster.outcomes cluster.memory

/-- The `nextData` reported, else the data of the request. -/
def own (ref : Nat) : Data := (cluster.outcomes ref).nextData.getD cluster.data

def Outcome.isErrorWithValue (outcome : Outcome) : Bool := outcome.isError && outcome.error.truthy

/-- The successor carries the data of its own report, with its error if there is one and no other. -/
def Right (sent : Sent) : Prop :=
  ∃ ref, cluster.statusTuple[sent.index]? = some (some ref) ∧
    sent.data.Agrees (content cluster.memory (own cluster ref)) ∧
    if (cluster.outcomes ref).isErrorWithValue then
      ∃ text, env.error2String (cluster.outcomes ref).error = some text ∧ sent.data.error = some text
    else sent.data.error = (content cluster.memory (own cluster ref)).error

/-- The data object a report works on after the earlier ones. -/
def carried (before : List Nat) (ref : Nat) : Data := if ref ∈ before then cluster.data else own cluster ref

def added (outcome : Outcome) : Option Value :=
  if (failed onHandlers cluster).isSome && outcome.isErrorWithValue then env.error2String outcome.error else none

/-- The error that the earlier reports, latest first, have added to a data object. -/
def lastAdded : List Nat → Nat → Option Value
  | [],_ => none
  | report::before,ref =>
    if (carried cluster before report).refersTo ref then
      (added env onHandlers cluster (cluster.outcomes report)).or (lastAdded before ref)
    else lastAdded before ref

def errorBefore (before : List Nat) : Data → Option Value
  | .object ref => (lastAdded env onHandlers cluster before ref).or ((cluster.memory ref).get? "error")
  | .primitive _ => none

def sendsAny (outcome : Outcome) : Bool :=
  (succeeded onHandlers cluster).isSome && (outcome.isDone && isFirst cluster) ||
    (failed onHandlers cluster).isSome && outcome.isError ||
    (done onHandlers cluster).isSome && isFirst cluster

def triggerReady (data : Data) : Bool := !single cluster || cluster.triggerEvent.isSome && data.isObject

def errorReady (outcome : Outcome) (data : Data) : Bool :=
  !outcome.error.truthy || (env.error2String outcome.error).isSome && data.isObject

/-- Its data can take what the queue adds. -/
def passes (outcome : Outcome) (data : Data) : Bool :=
  (!sendsAny onHandlers cluster outcome || triggerReady cluster data) &&
    (!((failed onHandlers cluster).isSome && outcome.isError) || errorReady env outcome data)

/-- The report finds its own data, and on it no error but its own. -/
def Fits (before : List Nat) (ref : Nat) : Prop :=
  (content cluster.memory (carried cluster before ref)).Agrees (content cluster.memory (own cluster ref)) ∧
    if (cluster.outcomes ref).isErrorWithValue then
      (failed onHandlers cluster).isSome = true ∨ ∃ text, env.error2String (cluster.outcomes ref).error = some text ∧
        errorBefore env onHandlers cluster before (carried cluster before ref) = some text
    else errorBefore env onHandlers cluster before (carried cluster before ref) =
      (content cluster.memory (own cluster ref)).error

/-- Every report fits for which a successor is sent, as far as the loop gets. -/
def Separate : List Nat → List (Option Nat) → Prop
  | _,[] => True
  | _,none::_ => True
  | before,some ref::rest =>
    passes env onHandlers cluster (cluster.outcomes ref) (carried cluster before ref) = true →
      (sendsAny onHandlers cluster (cluster.outcomes ref) = true → Fits env onHandlers cluster before ref) ∧
        Separate (ref::before) rest

/-- What a step may do to the memory: add an error to one object, and trigger events. -/
structure Kept (data : Data) (error : Option Value) (memory after : Memory) : Prop where
  rest : ∀ ref key, key ≠ "error" → key ≠ "triggerEvent" → (after ref).get? key = (memory ref).get? key
  error : ∀ ref, (after ref).get? "error" =
    if data.refersTo ref then error.or ((memory ref).get? "error") else (memory ref).get? "error"

section
variable {env onHandlers cluster} {data : Data} {memory after : Memory} {outcome : Outcome}

theorem Kept.refl (data : Data) (memory : Memory) : Kept data none memory memory := by
  refine ⟨fun _ _ _ _ => rfl,?_⟩
  intro ref
  rw [Option.none_or,ite_self]

theorem Kept.trans {first second : Option Value} {last : Memory} (one : Kept data first memory after)
    (other : Kept data second after last) : Kept data (second.or first) memory last := by
  constructor
  · intro ref key notError notTrigger
    rw [other.rest ref key notError notTrigger,one.rest ref key notError notTrigger]
  · intro ref
    rw [other.error ref,one.error ref]
    split
    · rw [Option.or_assoc]
    · rfl

theorem setProperty_error {value : Value} (set : setProperty memory data "error" value = some after) :
    Kept data (some value) memory after := by
  cases data with
  | primitive other => cases set
  | object target =>
    simp only [setProperty,Option.some.injEq] at set
    subst set
    constructor
    · intro ref key notError _
      by_cases same : ref = target
      · subst same
        rw [Function.update_self,Dict.get?_set,if_neg notError]
      · rw [Function.update_of_ne same]
    · intro ref
      by_cases same : ref = target
      · subst same
        simp [Data.refersTo,Dict.get?_set]
      · have other : target ≠ ref := fun equal => same equal.symm
        simp [Function.update_of_ne same,Data.refersTo,other]

theorem setProperty_triggerEvent {value : Value} (set : setProperty memory data "triggerEvent" value = some after) :
    Kept data none memory after := by
  cases data with
  | primitive other => cases set
  | object target =>
    simp only [setProperty,Option.some.injEq] at set
    subst set
    have same : ∀ ref key, key ≠ "triggerEvent" →
        (Function.update memory target ((memory target).set "triggerEvent" value) ref).get? key =
          (memory ref).get? key := by
      intro ref key other
      by_cases same : ref = target
      · subst same
        rw [Function.update_self,Dict.get?_set,if_neg other]
      · rw [Function.update_of_ne same]
    refine ⟨fun ref key _ other => same ref key other,?_⟩
    intro ref
    rw [same ref "error" (by decide),Option.none_or,ite_self]

theorem propagate_kept (propagated : propagate cluster data memory = some after) : Kept data none memory after := by
  unfold propagate at propagated
  split at propagated
  · obtain ⟨text,_,set⟩ := Option.bind_eq_some_iff.mp propagated
    exact setProperty_triggerEvent set
  · cases propagated
    exact Kept.refl data memory

theorem addError_kept (written : addError env outcome data memory = some after) :
    Kept data (if outcome.error.truthy then env.error2String outcome.error else none) memory after := by
  unfold addError at written
  split at written
  · rename_i truthy
    obtain ⟨text,serialised,set⟩ := Option.bind_eq_some_iff.mp written
    rw [if_pos truthy,serialised]
    exact setProperty_error set
  · rename_i falsy
    cases written
    rw [if_neg falsy]
    exact Kept.refl data memory

theorem send_kept {handler : Option String} {applies : Bool} {prepare : Memory → Option Memory} {error : Option Value}
    (prepared : ∀ after, prepare memory = some after → Kept data error memory after) :
    (∀ after, (send handler applies prepare data memory).1 = some after →
      Kept data (if handler.isSome && applies then error else none) memory after) ∧
    ∀ sent ∈ (send handler applies prepare data memory).2, (handler.isSome && applies) = true ∧
      ∃ after, Kept data error memory after ∧ sent.2 = content after data := by
  unfold send
  cases handler with
  | none =>
    refine ⟨?_,fun sent member => by cases member⟩
    intro after same
    cases same
    exact Kept.refl data memory
  | some event =>
    cases applies with
    | false =>
      refine ⟨?_,fun sent member => by cases member⟩
      intro after same
      cases same
      exact Kept.refl data memory
    | true =>
      cases ready : prepare memory with
      | none =>
        refine ⟨?_,fun sent member => by cases member⟩
        intro after same
        cases same
      | some next =>
        refine ⟨?_,?_⟩
        · intro after same
          cases same
          exact prepared next ready
        · intro sent member
          rw [List.mem_singleton.mp member]
          exact ⟨rfl,next,prepared next ready,rfl⟩

theorem andThen_some {run : Run} {next : Memory → Run} :
    (run.andThen next).1 = some after ↔ ∃ middle, run.1 = some middle ∧ (next middle).1 = some after := by
  obtain ⟨result,sent⟩ := run
  cases result <;> simp [Run.andThen]

theorem mem_andThen {run : Run} {next : Memory → Run} {sent : String × Content} :
    sent ∈ (run.andThen next).2 ↔ sent ∈ run.2 ∨ ∃ middle, run.1 = some middle ∧ sent ∈ (next middle).2 := by
  obtain ⟨result,list⟩ := run
  cases result <;> simp [Run.andThen]

theorem Outcome.not_isError (isDone : outcome.isDone = true) : outcome.isError = false := by
  obtain ⟨status,member,same⟩ := Js.isOneOf_exists isDone
  rw [Outcome.isError,same,Js.isOneOf_nat]
  rw [List.mem_singleton.mp member]
  decide

theorem added_failed (applies : ((failed onHandlers cluster).isSome && outcome.isError) = true) :
    added env onHandlers cluster outcome =
      if outcome.error.truthy then env.error2String outcome.error else none := by
  rw [Bool.and_eq_true] at applies
  simp [added,Outcome.isErrorWithValue,applies.1,applies.2]

theorem added_eq_none
    (spared : ((failed onHandlers cluster).isSome && outcome.isErrorWithValue) = false) :
    added env onHandlers cluster outcome = none := by
  rw [added,spared]
  rfl

theorem added_none (spared : ((failed onHandlers cluster).isSome && outcome.isError) = false) :
    added env onHandlers cluster outcome = none := by
  apply added_eq_none
  rw [Outcome.isErrorWithValue,← Bool.and_assoc,spared,Bool.false_and]

/-- One report adds its own error to its data and nothing else, and what it sends has that error. -/
theorem iteration_kept :
    (∀ after, (iteration env onHandlers cluster outcome data memory).1 = some after →
      Kept data (added env onHandlers cluster outcome) memory after) ∧
    ∀ sent ∈ (iteration env onHandlers cluster outcome data memory).2,
      ∃ after, Kept data (added env onHandlers cluster outcome) memory after ∧ sent.2 = content after data := by
  have plain : ∀ handler applies start, (∀ after, (send handler applies (propagate cluster data) data start).1 =
      some after → Kept data none start after) ∧
      ∀ sent ∈ (send handler applies (propagate cluster data) data start).2, (handler.isSome && applies) = true ∧
        ∃ after, Kept data none start after ∧ sent.2 = content after data := by
    intro handler applies start
    have spec := @send_kept data start handler applies (propagate cluster data) none
      (fun _ propagated => propagate_kept propagated)
    refine ⟨?_,spec.2⟩
    intro after same
    have kept := spec.1 after same
    rwa [ite_self] at kept
  have failing : ∀ start, (∀ after, (send (failed onHandlers cluster) outcome.isError
      (fun memory => (addError env outcome data memory).bind (propagate cluster data)) data start).1 = some after →
        Kept data (added env onHandlers cluster outcome) start after) ∧
      ∀ sent ∈ (send (failed onHandlers cluster) outcome.isError
        (fun memory => (addError env outcome data memory).bind (propagate cluster data)) data start).2,
        ∃ after, Kept data (added env onHandlers cluster outcome) start after ∧ sent.2 = content after data := by
    intro start
    have spec := @send_kept data start (failed onHandlers cluster) outcome.isError
      (fun memory => (addError env outcome data memory).bind (propagate cluster data)) _ (by
        intro after ready
        obtain ⟨middle,written,propagated⟩ := Option.bind_eq_some_iff.mp ready
        exact (addError_kept written).trans (propagate_kept propagated))
    rw [Option.none_or] at spec
    constructor
    · intro after same
      have kept := spec.1 after same
      by_cases applies : ((failed onHandlers cluster).isSome && outcome.isError) = true
      · rwa [if_pos applies,← added_failed applies] at kept
      · rw [Bool.not_eq_true] at applies
        rwa [applies,if_neg Bool.false_ne_true,← added_none applies] at kept
    · intro sent member
      obtain ⟨applies,found⟩ := spec.2 sent member
      rwa [← added_failed applies] at found
  unfold iteration
  constructor
  · intro after same
    obtain ⟨second,reached,last⟩ := andThen_some.mp same
    obtain ⟨first,start,middle⟩ := andThen_some.mp reached
    have kept := (((plain _ _ _).1 _ start).trans ((failing _).1 _ middle)).trans ((plain _ _ _).1 _ last)
    rwa [Option.or_none,Option.none_or] at kept
  · intro sent member
    rcases mem_andThen.mp member with early | ⟨second,reached,late⟩
    · rcases mem_andThen.mp early with first | ⟨first,start,middle⟩
      · obtain ⟨applies,after,kept,same⟩ := (plain _ _ _).2 _ first
        rw [Bool.and_eq_true,Bool.and_eq_true] at applies
        have spared : added env onHandlers cluster outcome = none := by
          apply added_none
          rw [Outcome.not_isError applies.2.1,Bool.and_false]
        rw [spared]
        exact ⟨after,kept,same⟩
      · obtain ⟨after,kept,same⟩ := (failing _).2 _ middle
        have whole := ((plain _ _ _).1 _ start).trans kept
        rw [Option.or_none] at whole
        exact ⟨after,whole,same⟩
    · obtain ⟨first,start,middle⟩ := andThen_some.mp reached
      obtain ⟨_,after,kept,same⟩ := (plain _ _ _).2 _ late
      have whole := (((plain _ _ _).1 _ start).trans ((failing _).1 _ middle)).trans kept
      rw [Option.or_none,Option.none_or] at whole
      exact ⟨after,whole,same⟩

theorem setProperty_isSome {name : String} {value : Value} :
    (setProperty memory data name value).isSome = data.isObject := by
  cases data <;> rfl

theorem propagate_isSome : (propagate cluster data memory).isSome = triggerReady cluster data := by
  unfold propagate triggerReady
  cases single cluster with
  | false => rfl
  | true => cases cluster.triggerEvent <;> simp [setProperty_isSome]

theorem addError_isSome : ((addError env outcome data memory).bind (propagate cluster data)).isSome =
    (errorReady env outcome data && triggerReady cluster data) := by
  unfold addError errorReady
  cases outcome.error.truthy with
  | false => exact propagate_isSome
  | true =>
    cases env.error2String outcome.error with
    | none => rfl
    | some text =>
      cases data with
      | object ref => exact propagate_isSome
      | primitive value => rfl

theorem send_result {handler : Option String} {applies ready : Bool} {prepare : Memory → Option Memory}
    (prepared : (prepare memory).isSome = ready) :
    (send handler applies prepare data memory).1.isSome = (!(handler.isSome && applies) || ready) ∧
      ((send handler applies prepare data memory).2 ≠ [] ↔ (handler.isSome && applies && ready) = true) := by
  unfold send
  subst prepared
  cases handler with
  | none => simp
  | some event =>
    cases applies with
    | false => simp
    | true => cases prepare memory <;> simp

theorem andThen_isSome {run : Run} {next : Memory → Run} {ready : Bool}
    (independent : ∀ memory, (next memory).1.isSome = ready) : (run.andThen next).1.isSome = (run.1.isSome && ready) := by
  obtain ⟨result,sent⟩ := run
  cases result <;> simp [Run.andThen,independent]

theorem andThen_nonempty {run : Run} {next : Memory → Run} {some : Prop}
    (independent : ∀ memory, (next memory).2 ≠ [] ↔ some) :
    (run.andThen next).2 ≠ [] ↔ run.2 ≠ [] ∨ run.1.isSome = true ∧ some := by
  obtain ⟨result,sent⟩ := run
  cases result with
  | none => simp [Run.andThen]
  | some memory =>
    simp only [Run.andThen,ne_eq,List.append_eq_nil_iff,not_and_or,Option.isSome_some,true_and]
    rw [← independent memory]

theorem all_or_nothing : ∀ succeeds fails ends error trigger : Bool, (succeeds && fails) = false →
    ((!succeeds || trigger) && (!fails || error && trigger) && (!ends || trigger)) =
        ((!(succeeds || fails || ends) || trigger) && (!fails || error)) ∧
      (((succeeds && trigger) = true ∨ (!succeeds || trigger) = true ∧ (fails && (error && trigger)) = true) ∨
          ((!succeeds || trigger) && (!fails || error && trigger)) = true ∧ (ends && trigger) = true ↔
        (succeeds || fails || ends) = true ∧ ((!(succeeds || fails || ends) || trigger) && (!fails || error)) = true) := by
  decide

/-- A report has all of its successors sent or none. -/
theorem iteration_result :
    (iteration env onHandlers cluster outcome data memory).1.isSome = passes env onHandlers cluster outcome data ∧
      ((iteration env onHandlers cluster outcome data memory).2 ≠ [] ↔
        sendsAny onHandlers cluster outcome = true ∧ passes env onHandlers cluster outcome data = true) := by
  have plain := fun handler applies start =>
    @send_result data start handler applies _ (propagate cluster data) propagate_isSome
  have failing := fun start => @send_result data start (failed onHandlers cluster) outcome.isError _
    (fun memory => (addError env outcome data memory).bind (propagate cluster data)) addError_isSome
  have apart : ((succeeded onHandlers cluster).isSome && (outcome.isDone && isFirst cluster) &&
      ((failed onHandlers cluster).isSome && outcome.isError)) = false := by
    cases isDone : outcome.isDone with
    | false => simp
    | true => simp [Outcome.not_isError isDone]
  have both := all_or_nothing _ _ ((done onHandlers cluster).isSome && isFirst cluster)
    (errorReady env outcome data) (triggerReady cluster data) apart
  unfold iteration
  rw [andThen_isSome (fun start => (plain _ _ start).1),andThen_isSome (fun start => (failing start).1),
    andThen_nonempty (fun start => (plain _ _ start).2),andThen_nonempty (fun start => (failing start).2),
    andThen_isSome (fun start => (failing start).1),(plain _ _ memory).1,(plain _ _ memory).2]
  exact both

end

/-- The objects as the earlier reports have left them. -/
structure Follows (before : List Nat) (outcomes : Nat → Outcome) (memory : Memory) : Prop where
  outcomes : ∀ ref, outcomes ref =
    if ref ∈ before then {cluster.outcomes ref with nextData := none} else cluster.outcomes ref
  rest : ∀ ref key, key ≠ "error" → key ≠ "triggerEvent" → (memory ref).get? key = (cluster.memory ref).get? key
  error : ∀ ref, (memory ref).get? "error" =
    (lastAdded env onHandlers cluster before ref).or ((cluster.memory ref).get? "error")

section
variable {env onHandlers cluster} {before : List Nat} {outcomes : Nat → Outcome} {memory after : Memory}

theorem Follows.start : Follows env onHandlers cluster [] cluster.outcomes cluster.memory := by
  refine ⟨?_,fun _ _ _ _ => rfl,?_⟩
  · intro ref
    simp
  · intro ref
    simp [lastAdded]

theorem Follows.carried (follows : Follows env onHandlers cluster before outcomes memory) (ref : Nat) :
    (outcomes ref).nextData.getD cluster.data = carried cluster before ref := by
  rw [follows.outcomes ref,SuccessorData.carried]
  split <;> rfl

theorem Follows.iteration (follows : Follows env onHandlers cluster before outcomes memory) (ref : Nat) (data : Data) :
    iteration env onHandlers cluster (outcomes ref) data memory =
      iteration env onHandlers cluster (cluster.outcomes ref) data memory := by
  rw [follows.outcomes ref]
  split <;> rfl

theorem Follows.step (follows : Follows env onHandlers cluster before outcomes memory) (ref : Nat)
    (kept : Kept (SuccessorData.carried cluster before ref) (added env onHandlers cluster (cluster.outcomes ref))
      memory after) :
    Follows env onHandlers cluster (ref::before)
      (Function.update outcomes ref {outcomes ref with nextData := none}) after := by
  constructor
  · intro other
    by_cases same : other = ref
    · subst same
      rw [Function.update_self,follows.outcomes other,if_pos List.mem_cons_self]
      split <;> rfl
    · rw [Function.update_of_ne same,follows.outcomes other]
      simp [same]
  · intro other key notError notTrigger
    rw [kept.rest other key notError notTrigger,follows.rest other key notError notTrigger]
  · intro other
    rw [kept.error other,follows.error other,lastAdded]
    split
    · rw [Option.or_assoc]
    · rfl

theorem content_agrees {data : Data} {other : Content}
    (same : ∀ ref key, key ≠ "error" → key ≠ "triggerEvent" → (after ref).get? key = (memory ref).get? key) :
    (content after data).Agrees other ↔ (content memory data).Agrees other := by
  cases data with
  | primitive value => rfl
  | object ref =>
    cases other with
    | primitive value => rfl
    | object fields =>
      simp only [content,Content.Agrees]
      constructor
      · intro agrees key notError notTrigger
        rw [← same ref key notError notTrigger,agrees key notError notTrigger]
      · intro agrees key notError notTrigger
        rw [same ref key notError notTrigger,agrees key notError notTrigger]

theorem Follows.content_error (follows : Follows env onHandlers cluster before outcomes memory) {data : Data}
    {error : Option Value} (kept : Kept data error memory after) (fits : data.isObject = true ∨ error = none) :
    (content after data).error = error.or (errorBefore env onHandlers cluster before data) := by
  cases data with
  | primitive value =>
    rcases fits with object | none
    · cases object
    · rw [none]
      rfl
  | object ref =>
    have written := kept.error ref
    rw [if_pos (by simp [Data.refersTo]),follows.error ref] at written
    exact written

theorem added_ready {outcome : Outcome} {data : Data} (passed : passes env onHandlers cluster outcome data = true)
    (adds : (failed onHandlers cluster).isSome = true) (error : outcome.isErrorWithValue = true) :
    ∃ text, env.error2String outcome.error = some text ∧ added env onHandlers cluster outcome = some text ∧
      data.isObject = true := by
  rw [Outcome.isErrorWithValue,Bool.and_eq_true] at error
  rw [passes,Bool.and_eq_true] at passed
  have ready := passed.2
  simp only [adds,error.1,Bool.and_self,Bool.not_true,Bool.false_or,errorReady,error.2,Bool.and_eq_true] at ready
  obtain ⟨text,serialised⟩ := Option.isSome_iff_exists.mp ready.1
  refine ⟨text,serialised,?_,ready.2⟩
  simp [added,adds,Outcome.isErrorWithValue,error.1,error.2,serialised]

/-- Whether a successor is right does not depend on which of the report's successors it is. -/
theorem Follows.right_iff (follows : Follows env onHandlers cluster before outcomes memory) {ref : Nat} {event : String}
    (listed : cluster.statusTuple[before.length]? = some (some ref))
    (kept : Kept (SuccessorData.carried cluster before ref) (added env onHandlers cluster (cluster.outcomes ref))
      memory after)
    (passed : passes env onHandlers cluster (cluster.outcomes ref) (SuccessorData.carried cluster before ref) = true) :
    Right env cluster ⟨before.length,event,content after (SuccessorData.carried cluster before ref)⟩ ↔
      Fits env onHandlers cluster before ref := by
  have agrees := @content_agrees cluster.memory after (SuccessorData.carried cluster before ref)
    (content cluster.memory (own cluster ref)) (by
      intro other key notError notTrigger
      rw [kept.rest other key notError notTrigger,follows.rest other key notError notTrigger])
  simp only [Right,listed,Option.some.injEq,exists_eq_left',Fits,agrees]
  apply and_congr_right
  intro _
  by_cases error : (cluster.outcomes ref).isErrorWithValue = true
  · rw [if_pos error,if_pos error]
    cases adds : (failed onHandlers cluster).isSome with
    | true =>
      obtain ⟨text,serialised,own,object⟩ := added_ready passed adds error
      rw [follows.content_error kept (Or.inl object),own]
      exact iff_of_true ⟨text,serialised,rfl⟩ (Or.inl rfl)
    | false =>
      have spared := @added_eq_none env onHandlers cluster (cluster.outcomes ref) (by simp [adds])
      rw [follows.content_error kept (Or.inr spared),spared]
      simp
  · rw [if_neg error,if_neg error]
    have spared := @added_eq_none env onHandlers cluster (cluster.outcomes ref) (by simp [error])
    rw [follows.content_error kept (Or.inr spared),spared,Option.none_or]

theorem Follows.sends_right (follows : Follows env onHandlers cluster before outcomes memory)
    (rest : List (Option Nat)) (listed : cluster.statusTuple = before.reverse.map some ++ rest) :
    (∀ sent ∈ sends env onHandlers cluster before.length rest outcomes memory, Right env cluster sent) ↔
      Separate env onHandlers cluster before rest := by
  induction rest generalizing before outcomes memory with
  | nil => simp [sends,Separate]
  | cons report rest ih =>
    cases report with
    | none => simp [sends,Separate]
    | some ref =>
      have here : cluster.statusTuple[before.length]? = some (some ref) := by simp [listed]
      have further : cluster.statusTuple = (ref::before).reverse.map some ++ rest := by simp [listed]
      have kept := @iteration_kept env onHandlers cluster (SuccessorData.carried cluster before ref) memory
        (cluster.outcomes ref)
      have result := @iteration_result env onHandlers cluster (SuccessorData.carried cluster before ref) memory
        (cluster.outcomes ref)
      simp only [sends,follows.carried,follows.iteration,Separate]
      cases ends : (SuccessorData.iteration env onHandlers cluster (cluster.outcomes ref)
          (SuccessorData.carried cluster before ref) memory).1 with
      | none =>
        have stopped : passes env onHandlers cluster (cluster.outcomes ref)
            (SuccessorData.carried cluster before ref) = false := by
          rw [← result.1,ends]
          rfl
        have nothing : (SuccessorData.iteration env onHandlers cluster (cluster.outcomes ref)
            (SuccessorData.carried cluster before ref) memory).2 = [] := by
          by_contra some
          have passed := (result.2.mp some).2
          rw [stopped] at passed
          cases passed
        simp [nothing,stopped]
      | some next =>
        have passed : passes env onHandlers cluster (cluster.outcomes ref)
            (SuccessorData.carried cluster before ref) = true := by
          rw [← result.1,ends]
          rfl
        have later := ih (follows.step ref (kept.1 next ends)) further
        rw [List.length_cons] at later
        simp only [List.mem_append,or_imp,forall_and,later,passed,true_implies]
        apply and_congr_left
        intro _
        constructor
        · intro right some
          obtain ⟨sent,member⟩ := List.exists_mem_of_ne_nil _ (result.2.mpr ⟨some,passed⟩)
          obtain ⟨left,own,same⟩ := kept.2 sent member
          have one := right ⟨before.length,sent.1,sent.2⟩ (List.mem_map.mpr ⟨sent,member,rfl⟩)
          rw [same] at one
          exact (follows.right_iff here own passed).mp one
        · intro fits sent member
          obtain ⟨pair,found,rfl⟩ := List.mem_map.mp member
          obtain ⟨left,own,same⟩ := kept.2 pair found
          have some := (result.2.mp (List.ne_nil_of_mem found)).1
          rw [same]
          exact (follows.right_iff here own passed).mpr (fits some)

theorem separate_of_quiet (quiet : ∀ outcome, sendsAny onHandlers cluster outcome = false) (before : List Nat)
    (rest : List (Option Nat)) : Separate env onHandlers cluster before rest := by
  induction rest generalizing before with
  | nil => trivial
  | cons report rest ih =>
    cases report with
    | none => trivial
    | some ref =>
      intro _
      refine ⟨?_,ih (ref::before)⟩
      intro sent
      rw [quiet] at sent
      cases sent

end

theorem successor_data_own_iff :
    (∀ sent ∈ publishFollowupEvents env onHandlers cluster, Right env cluster sent) ↔
      (endsWith cluster.event SAGA_FAILED || endsWith cluster.event SAGA_DONE) = true ∨
        Separate env onHandlers cluster [] cluster.statusTuple := by
  unfold publishFollowupEvents
  split
  · rename_i unregistered
    simp only [Bool.and_eq_true,Option.isNone_iff_eq_none] at unregistered
    have quiet : ∀ outcome, sendsAny onHandlers cluster outcome = false := by
      intro outcome
      simp [sendsAny,unregistered]
    exact iff_of_true (by simp) (Or.inr (separate_of_quiet quiet [] cluster.statusTuple))
  · split
    · rename_i terminal
      exact iff_of_true (by simp) (Or.inl terminal)
    · rename_i continues
      rw [or_iff_right continues]
      exact Follows.start.sends_right cluster.statusTuple rfl

def request : Dict Value := Dict.empty.set "customer" (.str "c1")

def order : Dict Value := Dict.empty.set "orderId" (.str "o1")

/-- One outcome object with `nextData` for both entries. -/
def sharedOutcome : Cluster :=
  ⟨"created",.object 0,["a","b"],none,[some 0,some 0],
    fun _ => ⟨.nat EventProcessingStatus.Done,.undefined,some (.object 1)⟩,fun ref => if ref = 0 then request else order⟩

/-- An error for the first entry, done for the second, no `nextData`. -/
def errorThenDone : Cluster :=
  ⟨"created",.object 0,["a","b"],none,[some 0,some 1],
    fun ref => if ref = 0 then ⟨.nat EventProcessingStatus.Error,.str "boom",none⟩
      else ⟨.nat EventProcessingStatus.Done,.undefined,none⟩,fun _ => request⟩

/-- Texts as `JSON.stringify` writes them. -/
def quoting : Environment :=
  {Environment.plain with
    error2String := fun error => match error with
      | .str text => some (.str ("\"" ++ text ++ "\""))
      | other => some other}

theorem shared_data_mixed_up :
    (∃ sent ∈ publishFollowupEvents quoting ["created/#succeeded"] sharedOutcome,
      sent.index = 1 ∧ sent.data = .object request ∧ ¬ Right quoting sharedOutcome sent) ∧
    ∃ sent ∈ publishFollowupEvents quoting ["created/#succeeded","created/#failed"] errorThenDone,
      sent.index = 1 ∧ sent.data.error = some (.str "\"boom\"") ∧ ¬ Right quoting errorThenDone sent := by
  constructor
  · refine ⟨⟨1,"created/#succeeded",.object request⟩,List.Mem.tail _ (List.Mem.head _),rfl,rfl,?_⟩
    rintro ⟨ref,listed,agrees,_⟩
    have lost := agrees "customer" (by decide) (by decide)
    cases lost
  · refine ⟨⟨1,"created/#succeeded",.object (request.set "error" (.str "\"boom\""))⟩,
      List.Mem.tail _ (List.Mem.head _),rfl,rfl,?_⟩
    rintro ⟨ref,listed,_,error⟩
    have second : ref = 1 := by
      simpa [errorThenDone,eq_comm] using listed
    subst second
    cases error

end EventQueue.SuccessorData

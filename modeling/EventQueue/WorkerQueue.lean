import EventQueue.Constants
import EventQueue.Lib.Transition
import Mathlib.Tactic

/-! The load-limited worker queue of `shared/WorkerQueue.js`: four priority
arrays, the sum of the running loads, and the mutually recursive pair of
`#checkForNext` and `_executeFunction`. One settlement of a job is one step. -/
namespace EventQueue.WorkerQueue

/-- One array `[load, label, cb, resolve, reject, increasePriorityOverTime, startTime, ...shifts]`;
`id` stands for the callback and the promise that belong to one accepted call. -/
structure Entry where
  id : Nat
  load : Nat
  label : String
  increasePriorityOverTime : Bool
  startTime : Nat
  shifts : List Nat

/-- What the queue looked like when `_executeFunction` took an entry. -/
structure Start where
  priority : Priorities
  entry : Entry
  runningLoad : Nat
  queue : Priorities → List Entry

structure State where
  concurrencyLimit : Nat
  runningPromises : List Entry
  runningLoad : Nat
  queue : Priorities → List Entry
  -- The rest is history that no function reads back.
  accepted : Nat
  started : List Start
  settled : List (Nat × Bool)

inductive AddError
  | loadHigherThanLimit (load : Nat) (label : String)
  | priorityNotAllowed (priority : String) (label : String)
  deriving DecidableEq

def AddError.message : AddError → String
  | .loadHigherThanLimit _ _ =>
    "The defined load of an event is higher than the maximum defined limit. Check your configuration!"
  | .priorityNotAllowed _ _ =>
    "The supplied priority is not allowed. Only LOW, MEDIUM, HIGH is allowed!"

def PRIORITIES : List Priorities := Priorities.values.reverse

def NANO_TO_MS : Nat := 1000000
def MIN_TO_MS : Nat := 60 * 1000
def INCREASE_PRIORITY_AFTER : Nat := 3

def create (concurrency : Int) : State where
  concurrencyLimit := if concurrency ≤ 0 then 1 else concurrency.toNat
  runningPromises := []
  runningLoad := 0
  queue := fun _ => []
  accepted := 0
  started := []
  settled := []

def State.setQueue (state : State) (priority : Priorities) (entries : List Entry) : State :=
  {state with queue := fun other => if other = priority then entries else state.queue other}

def State.fits (state : State) (entry : Entry) : Bool :=
  state.runningLoad + entry.load ≤ state.concurrencyLimit

def State.waiting (state : State) : Nat :=
  (Priorities.values.map (fun priority => (state.queue priority).length)).sum

/-- The nested scan: the first entry that fits, in the first priority that has one. -/
def State.firstFit (state : State) : Option (Priorities × Entry) :=
  PRIORITIES.findSome? (fun priority =>
    ((state.queue priority).find? state.fits).map (fun entry => (priority,entry)))

def State.splice (state : State) (priority : Priorities) : State :=
  state.setQueue priority ((state.queue priority).eraseP state.fits)

/-- The synchronous part of `_executeFunction` up to the nested `#checkForNext`. -/
def State.start (state : State) (priority : Priorities) (entry : Entry) : State :=
  {state.splice priority with
    runningPromises := state.runningPromises ++ [entry]
    runningLoad := state.runningLoad + entry.load
    started := state.started ++ [⟨priority,entry,state.runningLoad,state.queue⟩]}

def executeFunction (checkForNext : State → State) (state : State)
    (priority : Priorities) (entry : Entry) : State :=
  let running := state.start priority entry
  if running.runningLoad ≠ running.concurrencyLimit then checkForNext running else running

def checkForNextFuel : Nat → State → State
  | 0,state => state
  | fuel + 1,state =>
    if state.waiting = 0 ∨ state.runningLoad = state.concurrencyLimit then state
    else match state.firstFit with
      | none => state
      | some (priority,entry) => executeFunction (checkForNextFuel fuel) state priority entry

/-- Every nested call has one entry less to scan, so the number of entries bounds the depth. -/
def checkForNext (state : State) : State := checkForNextFuel state.waiting state

/-- An absent priority is `undefined`, for which the parameter's default applies. -/
def addToQueue (state : State) (load : Nat) (label : String) (priority : Option String)
    (increasePriorityOverTime : Bool) (startTime : Nat) : Except AddError Nat × State :=
  if load > state.concurrencyLimit then (.error (.loadHigherThanLimit load label),state)
  else match Priorities.ofString (priority.getD "medium") with
    | none => (.error (.priorityNotAllowed (priority.getD "medium") label),state)
    | some priority =>
      let entry := ⟨state.accepted,load,label,increasePriorityOverTime,startTime,[]⟩
      let pushed := state.setQueue priority (state.queue priority ++ [entry])
      (.ok state.accepted,checkForNext {pushed with accepted := state.accepted + 1})

/-- The `finally` reaction of a running job's promise. -/
def settle (state : State) (id : Nat) (fulfilled : Bool) : Option State :=
  match state.runningPromises.find? (fun entry => entry.id == id) with
  | none => none
  | some entry =>
    some (checkForNext {state with
      runningLoad := state.runningLoad - entry.load
      runningPromises := state.runningPromises.eraseP (fun other => other.id == id)
      settled := state.settled ++ [(id,fulfilled)]})

def due (checkTime : Nat) (entry : Entry) : Bool :=
  entry.increasePriorityOverTime &&
    ((checkTime - entry.shifts.head?.getD entry.startTime + NANO_TO_MS / 2) / NANO_TO_MS >
      INCREASE_PRIORITY_AFTER * MIN_TO_MS)

/-- The inner loop over one queue: what stays and what is spliced out. The index is
incremented after a splice as well, so the entry behind a moved one is not looked at. -/
def adjustEntries (checkTime : Nat) : List Entry → List Entry × List Entry
  | [] => ([],[])
  | [entry] =>
    if due checkTime entry then ([],[{entry with shifts := entry.shifts ++ [checkTime]}])
    else ([entry],[])
  | entry::next::rest =>
    if due checkTime entry then
      let (kept,moved) := adjustEntries checkTime rest
      (next::kept,{entry with shifts := entry.shifts ++ [checkTime]}::moved)
    else
      let (kept,moved) := adjustEntries checkTime (next::rest)
      (entry::kept,moved)

def adjustLevel (checkTime : Nat) (state : State) (priority nextPriority : Priorities) : State :=
  let (kept,moved) := adjustEntries checkTime (state.queue priority)
  (state.setQueue priority kept).setQueue nextPriority (state.queue nextPriority ++ moved)

def adjustPriority (state : State) (checkTime : Nat) : State :=
  let low := adjustLevel checkTime state .low .medium
  let medium := adjustLevel checkTime low .medium .high
  adjustLevel checkTime medium .high .veryHigh

inductive Action
  | add (load : Nat) (label : String) (priority : Option String)
      (increasePriorityOverTime : Bool) (startTime : Nat)
  | settle (id : Nat) (fulfilled : Bool)
  | adjust (checkTime : Nat)

def step (state : State) : Action → Option State
  | .add load label priority increase startTime =>
    some (addToQueue state load label priority increase startTime).2
  | .settle id fulfilled => settle state id fulfilled
  | .adjust checkTime => some (adjustPriority state checkTime)

def Action.Positive : Action → Prop
  | .add load _ _ _ _ => 0 < load
  | _ => True

end EventQueue.WorkerQueue

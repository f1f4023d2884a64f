import EventQueue.Saga
import EventQueue.Lib.Parties
import Mathlib.Data.List.Nodup

/-! Every successor event of a chunk is inserted exactly once, in isolated mode by the transaction
that writes its cluster's statuses, as long as clusters do not meet in `nextSagaEvents`: nobody sets
the field while events wait in it, inserts what another cluster left there, or ends without inserting
its own. -/
namespace EventQueue.Saga

def successors (events : List QueuedEvent) : List QueuedEvent := events.filter (fun event => event.cluster.isSome)

def isPublishing : Stage → Bool
  | .publishing _ _ => true
  | _ => false

/-- The cluster's successors are in the table. -/
def isWritten (phase : Phase) : Stage → Bool
  | .inserting | .settled => true
  | .reported => decide (phase = .inserting) || decide (phase = .finished)
  | .handling | .publishing _ _ => false

namespace State

def Separate (onHandlers : List String) (state : State) : Action → Prop
  | .publishFollowupEvents _ event statuses => (followupEvents onHandlers event statuses).isSome →
      state.transactionMode = .isolated ∨ ∀ cluster ∈ state.clusters, isPublishing cluster.stage = false
  | .setNextSagaEvents _ => state.nextSagaEvents = []
  | .failPublishing index => ∀ cluster ∈ state.clusters[index]?, cluster.sent = []
  | .insert index => ∀ event ∈ state.nextSagaEvents, event.cluster = some index
  | .leave index => ∀ event ∈ state.nextSagaEvents, event.cluster ≠ some index
  | .leaveChunk => ∀ event ∈ state.nextSagaEvents, event.cluster = none
  | _ => True

instance (onHandlers : List String) (state : State) :
    (action : Action) → Decidable (Separate onHandlers state action)
  | .publishFollowupEvents _ event statuses => inferInstanceAs (Decidable
      ((followupEvents onHandlers event statuses).isSome →
        state.transactionMode = .isolated ∨ ∀ cluster ∈ state.clusters, isPublishing cluster.stage = false))
  | .setNextSagaEvents _ => inferInstanceAs (Decidable (state.nextSagaEvents = []))
  | .failPublishing index => inferInstanceAs (Decidable (∀ cluster ∈ state.clusters[index]?, cluster.sent = []))
  | .insert index => inferInstanceAs (Decidable (∀ event ∈ state.nextSagaEvents, event.cluster = some index))
  | .leave index => inferInstanceAs (Decidable (∀ event ∈ state.nextSagaEvents, event.cluster ≠ some index))
  | .leaveChunk => inferInstanceAs (Decidable (∀ event ∈ state.nextSagaEvents, event.cluster = none))
  | .publishEvent _ _ | .outdated _ | .send _ | .reset _ | .endMap _ | .insertChunk | .resetChunk => .isTrue trivial

structure Orderly (state : State) : Prop where
  numbered : ∀ (index : Nat) (cluster : Cluster), state.clusters[index]? = some cluster → ∀ event ∈ cluster.sent,
    ∃ number name, event = .successor index number name ∧ number < cluster.sent.length
  distinct : ∀ cluster ∈ state.clusters, cluster.sent.Nodup
  handling : ∀ cluster ∈ state.clusters, cluster.stage = .handling → cluster.sent = []
  publishing : ∀ (index : Nat) (cluster : Cluster), state.clusters[index]? = some cluster → ∀ nextEvents followups,
    cluster.stage = .publishing nextEvents followups →
      successors (state.events (state.tx index)) = cluster.sent ∧ successors nextEvents = []
  alone : ∀ (first second : Nat) (one other : Cluster),
    state.clusters[first]? = some one → state.clusters[second]? = some other →
    isPublishing one.stage = true → isPublishing other.stage = true → state.tx first = state.tx second →
      first = second
  idle : ∀ tx, (∀ (index : Nat) (cluster : Cluster),
      state.clusters[index]? = some cluster → isPublishing cluster.stage = true →
    state.tx index ≠ tx) → successors (state.events tx) = []
  reported : state.phase ≠ .finished → ∀ cluster ∈ state.clusters, cluster.stage = .reported → cluster.sent ≠ [] →
    successors state.nextSagaEvents = cluster.sent
  inserting : ∀ (index : Nat) (cluster : Cluster), state.clusters[index]? = some cluster → cluster.stage = .inserting →
    state.nextSagaEvents ≠ [] ∧ (∀ event ∈ state.nextSagaEvents, event.cluster = some index) ∧
      successors state.nextSagaEvents = cluster.sent
  waiting : ∀ event ∈ successors state.nextSagaEvents, ∃ cluster ∈ state.clusters,
    (cluster.stage = .reported ∨ cluster.stage = .inserting) ∧ event ∈ cluster.sent
  counted : ∀ cluster ∈ state.clusters, ∀ event ∈ cluster.sent,
    (state.inserted.map Prod.fst).count event = if isWritten state.phase cluster.stage then 1 else 0
  known : ∀ event ∈ successors (state.inserted.map Prod.fst), ∃ cluster ∈ state.clusters, event ∈ cluster.sent
  writer : state.transactionMode = .isolated → ∀ entry ∈ state.inserted, ∀ index, entry.1.cluster = some index →
    entry.2 = .cluster index
  ended : state.phase ≠ .processing → ∀ cluster ∈ state.clusters, state.isDone cluster = true

theorem Orderly.owner {state : State} (orderly : Orderly state) {index : Nat} {cluster : Cluster}
    (found : state.clusters[index]? = some cluster) {event : QueuedEvent} (member : event ∈ cluster.sent) :
    event.cluster = some index := by
  obtain ⟨number,name,rfl,_⟩ := orderly.numbered index cluster found event member
  rfl

theorem Orderly.setEvents {state : State} (orderly : Orderly state) (index : Nat) (events : List QueuedEvent)
    (same : successors events = successors (state.events (state.tx index))) :
    Orderly (state.setEvents index events) := by
  have kept : ∀ tx, successors ((state.setEvents index events).events tx) = successors (state.events tx) := by
    intro tx
    by_cases own : tx = state.tx index
    · subst own
      simpa [State.setEvents] using same
    · simp [State.setEvents,own]
  exact
    { orderly with
      publishing := by
        intro position other at_ nextEvents followups stage
        rw [kept]
        exact orderly.publishing position other at_ nextEvents followups stage
      idle := by
        intro tx others
        rw [kept]
        exact orderly.idle tx others }

theorem Orderly.restage {state : State} (orderly : Orderly state) {index : Nat} {cluster : Cluster}
    (found : state.clusters[index]? = some cluster) (phase : state.phase = .processing) (stage : Stage)
    (none : cluster.sent = []) (plain : stage ≠ .inserting)
    (fresh : ∀ nextEvents followups, stage = .publishing nextEvents followups →
      successors (state.events (state.tx index)) = [] ∧ successors nextEvents = [] ∧
        ∀ position other, state.clusters[position]? = some other → isPublishing other.stage = true →
          state.tx position = state.tx index → position = index) :
    Orderly (state.setCluster index {cluster with stage := stage}) := by
  have separate : isPublishing stage = true → ∀ position other, state.clusters[position]? = some other →
      isPublishing other.stage = true → state.tx position = state.tx index → position = index := by
    intro isOwn
    cases current : stage with
    | publishing nextEvents followups => exact (fresh nextEvents followups current).2.2
    | _ => simp [current,isPublishing] at isOwn
  have kept : ∀ other ∈ state.clusters, ∀ event ∈ other.sent,
      other ∈ (state.setCluster index {cluster with stage := stage}).clusters := by
    intro other listed event sent
    rcases Parties.mem_moved {cluster with stage := stage} found listed with rfl | kept
    · simp [none] at sent
    · exact kept
  exact
    { numbered := by
        apply Parties.forall_getElem?_moved found orderly.numbered
        simp [none]
      distinct := by
        apply Parties.forall_mem_moved orderly.distinct
        simp [none]
      handling := by
        apply Parties.forall_mem_moved orderly.handling
        exact fun _ => none
      publishing := by
        apply Parties.forall_getElem?_moved found orderly.publishing
        intro nextEvents followups same
        obtain ⟨nothing,own,_⟩ := fresh nextEvents followups same
        exact ⟨nothing.trans none.symm,own⟩
      alone := Parties.alone_moved found orderly.alone separate
      idle := by
        intro tx others
        by_cases own : isPublishing cluster.stage = true ∧ state.tx index = tx
        · obtain ⟨isOwn,rfl⟩ := own
          cases current : cluster.stage with
          | publishing nextEvents followups =>
            exact (orderly.publishing index cluster found nextEvents followups current).1.trans none
          | _ => simp [current,isPublishing] at isOwn
        · refine orderly.idle tx ?_
          intro position other at_ isOther same
          by_cases equal : position = index
          · subst equal
            rw [found] at at_
            cases at_
            exact own ⟨isOther,same⟩
          · exact others position other (Parties.getElem?_kept _ at_ equal) isOther same
      reported := by
        intro unfinished
        apply Parties.forall_mem_moved (orderly.reported unfinished)
        exact fun _ some => absurd none some
      inserting := by
        apply Parties.forall_getElem?_moved found orderly.inserting
        exact fun same => absurd same plain
      waiting := by
        intro event listed
        obtain ⟨other,inside,staged,sent⟩ := orderly.waiting event listed
        exact ⟨other,kept other inside event sent,staged,sent⟩
      counted := by
        apply Parties.forall_mem_moved orderly.counted
        simp [none]
      known := by
        intro event listed
        obtain ⟨other,inside,sent⟩ := orderly.known event listed
        exact ⟨other,kept other inside event sent,sent⟩
      writer := orderly.writer
      ended := fun away => absurd phase away }

theorem Orderly.publishFollowupEvents {state : State} (orderly : Orderly state) {index : Nat} {cluster : Cluster}
    (found : state.clusters[index]? = some cluster) (phase : state.phase = .processing)
    (stage : cluster.stage = .handling) (followups : List String)
    (separate : state.transactionMode = .isolated ∨ ∀ cluster ∈ state.clusters, isPublishing cluster.stage = false) :
    Orderly ((state.setEvents index []).setCluster index
      {cluster with stage := .publishing (state.events (state.tx index)) followups}) := by
  have none := orderly.handling cluster (List.mem_of_getElem? found) stage
  have others : ∀ position other, state.clusters[position]? = some other → isPublishing other.stage = true →
      state.tx position ≠ state.tx index := by
    intro position other at_ isOther same
    rcases separate with isolated | nobody
    · simp only [tx,isolated] at same
      subst same
      rw [found] at at_
      cases at_
      simp [stage,isPublishing] at isOther
    · rw [nobody other (List.mem_of_getElem? at_)] at isOther
      cases isOther
  have empty := orderly.idle (state.tx index) others
  refine (orderly.setEvents index [] empty.symm).restage found phase _ none (by simp) ?_
  intro nextEvents rest same
  cases same
  refine ⟨by simp [State.setEvents,tx,successors],empty,?_⟩
  exact fun position other at_ isOther equal => absurd equal (others position other at_ isOther)

theorem isPublishing_iff (stage : Stage) :
    isPublishing stage = true ↔ ∃ nextEvents followups, stage = .publishing nextEvents followups := by
  cases stage <;> simp [isPublishing]

theorem mem_successors {events : List QueuedEvent} {event : QueuedEvent} {index : Nat}
    (owner : event.cluster = some index) : event ∈ successors events ↔ event ∈ events := by
  simp [successors,owner]

theorem count_successors {events : List QueuedEvent} {event : QueuedEvent} {index : Nat}
    (owner : event.cluster = some index) : events.count event = (successors events).count event := by
  rw [successors,List.count_filter]
  simp [owner]

theorem Orderly.otherTx {state : State} (orderly : Orderly state) {index position : Nat} {cluster other : Cluster}
    (found : state.clusters[index]? = some cluster) (own : isPublishing cluster.stage = true)
    (at_ : state.clusters[position]? = some other) (differ : position ≠ index)
    (isOther : isPublishing other.stage = true) : state.tx position ≠ state.tx index :=
  fun same => differ (orderly.alone position index other cluster at_ found isOther own same)

theorem Orderly.unsentNext {state : State} (orderly : Orderly state) {index : Nat} {cluster : Cluster}
    (found : state.clusters[index]? = some cluster) (followup : String) (other : Cluster)
    (listed : other ∈ state.clusters) : .successor index cluster.sent.length followup ∉ other.sent := by
  intro sent
  obtain ⟨position,at_⟩ := List.mem_iff_getElem?.mp listed
  obtain ⟨number,name,same,small⟩ := orderly.numbered position other at_ _ sent
  cases same
  rw [found] at at_
  cases at_
  exact Nat.lt_irrefl _ small

theorem Orderly.uninsertedNext {state : State} (orderly : Orderly state) {index : Nat} {cluster : Cluster}
    (found : state.clusters[index]? = some cluster) (followup : String) :
    (state.inserted.map Prod.fst).count (.successor index cluster.sent.length followup) = 0 := by
  refine List.count_eq_zero.mpr (fun listed => ?_)
  obtain ⟨other,inside,sent⟩ := orderly.known _ ((mem_successors rfl).mpr listed)
  exact orderly.unsentNext found followup other inside sent

theorem Orderly.send {state : State} (orderly : Orderly state) {index : Nat} {cluster : Cluster}
    (found : state.clusters[index]? = some cluster) (phase : state.phase = .processing)
    {nextEvents : List QueuedEvent} {followup : String} {followups : List String}
    (stage : cluster.stage = .publishing nextEvents (followup::followups)) :
    Orderly (state.send index cluster nextEvents followup followups) := by
  have member := List.mem_of_getElem? found
  have small := (List.getElem?_eq_some_iff.mp found).1
  have own : isPublishing cluster.stage = true := by simp [stage,isPublishing]
  obtain ⟨inTx,ordinary⟩ := orderly.publishing index cluster found nextEvents _ stage
  have elsewhere : ∀ position other, state.clusters[position]? = some other → position ≠ index →
      isPublishing other.stage = true →
      (state.send index cluster nextEvents followup followups).events (state.tx position) =
        state.events (state.tx position) := by
    intro position other at_ differ isOther
    have apart := orderly.otherTx found own at_ differ isOther
    simp [State.send,State.setEvents,State.setCluster,apart]
  exact
    { numbered := by
        apply Parties.forall_getElem?_moved found orderly.numbered
        intro event sent
        rcases List.mem_append.mp sent with before | new
        · obtain ⟨number,name,same,small⟩ := orderly.numbered index cluster found event before
          exact ⟨number,name,same,by simp; omega⟩
        · rw [List.mem_singleton] at new
          exact ⟨_,_,new,by simp⟩
      distinct := by
        apply Parties.forall_mem_moved orderly.distinct
        refine List.nodup_append.mpr ⟨orderly.distinct cluster member,by simp,?_⟩
        intro event sent other new same
        rw [List.mem_singleton] at new
        subst same new
        exact orderly.unsentNext found followup cluster member sent
      handling := by
        apply Parties.forall_mem_moved orderly.handling
        simp
      publishing := by
        intro position other at_ current rest same
        rcases Parties.getElem?_moved found at_ with ⟨rfl,rfl⟩ | ⟨differ,old⟩
        · cases same
          refine ⟨?_,ordinary⟩
          have grown : (state.send position cluster nextEvents followup followups).events (state.tx position) =
              state.events (state.tx position) ++ [.successor position cluster.sent.length followup] := by
            simp [State.send,State.setEvents,State.setCluster]
          exact (congrArg successors grown).trans (by
            rw [successors,List.filter_append,← successors,inTx]
            rfl)
        · have isOther : isPublishing other.stage = true := by simp [same,isPublishing]
          exact (congrArg (fun events => successors events = other.sent ∧ successors current = [])
            (elsewhere position other old differ isOther)).mpr
            (orderly.publishing position other old current rest same)
      alone := by
        apply Parties.alone_moved found orderly.alone
        intro _ position other at_ isOther same
        exact orderly.alone position index other cluster at_ found isOther own same
      idle := by
        intro tx others
        have away : state.tx index ≠ tx := others index _ (List.getElem?_set_self small) rfl
        have unchanged : (state.send index cluster nextEvents followup followups).events tx = state.events tx := by
          simp [State.send,State.setEvents,State.setCluster,away.symm]
        refine (congrArg successors unchanged).trans (orderly.idle tx ?_)
        intro position other at_ isOther
        by_cases equal : position = index
        · exact equal ▸ away
        · exact others position other (Parties.getElem?_kept _ at_ equal) isOther
      reported := by
        intro unfinished
        apply Parties.forall_mem_moved (orderly.reported unfinished)
        simp
      inserting := by
        apply Parties.forall_getElem?_moved found orderly.inserting
        simp
      waiting := by
        intro event listed
        obtain ⟨other,inside,staged,sent⟩ := orderly.waiting event listed
        rcases Parties.mem_moved _ found inside with rfl | kept
        · rcases staged with same | same <;> rw [stage] at same <;> cases same
        · exact ⟨other,kept,staged,sent⟩
      counted := by
        apply Parties.forall_mem_moved orderly.counted
        intro event sent
        rcases List.mem_append.mp sent with before | new
        · have counted := orderly.counted cluster member event before
          rw [stage] at counted
          exact counted
        · rw [List.mem_singleton] at new
          subst new
          exact orderly.uninsertedNext found followup
      known := by
        intro event listed
        obtain ⟨other,inside,sent⟩ := orderly.known event listed
        rcases Parties.mem_moved _ found inside with rfl | kept
        · exact ⟨_,List.mem_set small _,List.mem_append_left _ sent⟩
        · exact ⟨other,kept,sent⟩
      writer := orderly.writer
      ended := fun away => absurd phase away }

/-- A step of one cluster from which on it is not publishing: what stays as it was. -/
theorem Orderly.settle {state next : State} (orderly : Orderly state) {index : Nat} {cluster : Cluster}
    (found : state.clusters[index]? = some cluster) (phase : state.phase = .processing) (stage : Stage)
    (clusters : next.clusters = state.clusters.set index {cluster with stage := stage})
    (mode : next.transactionMode = state.transactionMode) (same : next.phase = state.phase)
    (plain : stage ≠ .handling ∧ isPublishing stage = false)
    (txs : ∀ position other, state.clusters[position]? = some other → position ≠ index →
      isPublishing other.stage = true → successors (next.events (state.tx position)) =
        successors (state.events (state.tx position)))
    (idle : ∀ tx, (∀ position other, state.clusters[position]? = some other → position ≠ index →
      isPublishing other.stage = true → state.tx position ≠ tx) → successors (next.events tx) = [])
    (reported : ∀ other ∈ next.clusters, other.stage = .reported → other.sent ≠ [] →
      successors next.nextSagaEvents = other.sent)
    (inserting : ∀ position other, next.clusters[position]? = some other → other.stage = .inserting →
      next.nextSagaEvents ≠ [] ∧ (∀ event ∈ next.nextSagaEvents, event.cluster = some position) ∧
        successors next.nextSagaEvents = other.sent)
    (waiting : ∀ event ∈ successors next.nextSagaEvents, ∃ other ∈ next.clusters,
      (other.stage = .reported ∨ other.stage = .inserting) ∧ event ∈ other.sent)
    (counted : ∀ other ∈ next.clusters, ∀ event ∈ other.sent,
      (next.inserted.map Prod.fst).count event = if isWritten .processing other.stage then 1 else 0)
    (known : ∀ event ∈ successors (next.inserted.map Prod.fst), ∃ other ∈ state.clusters, event ∈ other.sent)
    (writer : next.transactionMode = .isolated → ∀ entry ∈ next.inserted, ∀ position,
      entry.1.cluster = some position → entry.2 = .cluster position) : Orderly next := by
  have member := List.mem_of_getElem? found
  have small := (List.getElem?_eq_some_iff.mp found).1
  have tx : ∀ position, next.tx position = state.tx position := by
    intro position
    rw [State.tx,mode,State.tx]
  exact
    { numbered := by
        rw [clusters]
        exact Parties.forall_getElem?_moved found orderly.numbered (orderly.numbered index cluster found)
      distinct := by
        rw [clusters]
        exact Parties.forall_mem_moved orderly.distinct (orderly.distinct cluster member)
      handling := by
        rw [clusters]
        exact Parties.forall_mem_moved orderly.handling (fun current => absurd current plain.1)
      publishing := by
        intro position other at_ nextEvents followups current
        have isOther : isPublishing other.stage = true := (isPublishing_iff _).mpr ⟨_,_,current⟩
        rw [clusters] at at_
        rcases Parties.getElem?_moved found at_ with ⟨_,rfl⟩ | ⟨differ,old⟩
        · rw [plain.2] at isOther
          cases isOther
        · rw [tx,txs position other old differ isOther]
          exact orderly.publishing position other old nextEvents followups current
      alone := by
        simp only [clusters,tx]
        apply Parties.alone_moved found orderly.alone
        intro isOwn
        rw [plain.2] at isOwn
        cases isOwn
      idle := by
        intro current others
        refine idle current ?_
        intro position other at_ differ isOther
        rw [← tx]
        refine others position other ?_ isOther
        rw [clusters]
        exact Parties.getElem?_kept _ at_ differ
      reported := fun _ => reported
      inserting := inserting
      waiting := waiting
      counted := by
        rw [same,phase]
        exact counted
      known := by
        intro event inside
        obtain ⟨other,present,sent⟩ := known event inside
        rw [clusters]
        rcases Parties.mem_moved {cluster with stage := stage} found present with rfl | kept
        · exact ⟨_,List.mem_set small _,sent⟩
        · exact ⟨other,kept,sent⟩
      writer := writer
      ended := fun away => absurd (same.trans phase) away }

theorem Orderly.idleOthers {state : State} (orderly : Orderly state) {index : Nat} {cluster : Cluster}
    (found : state.clusters[index]? = some cluster) (calm : isPublishing cluster.stage = false) (tx : Nat)
    (others : ∀ position other, state.clusters[position]? = some other → position ≠ index →
      isPublishing other.stage = true → state.tx position ≠ tx) : successors (state.events tx) = [] := by
  refine orderly.idle tx ?_
  intro position other at_ isOther
  by_cases equal : position = index
  · subst equal
    rw [found] at at_
    cases at_
    rw [calm] at isOther
    cases isOther
  · exact others position other at_ equal isOther

theorem Orderly.recounted {state : State} (orderly : Orderly state) {index : Nat} {cluster : Cluster}
    (found : state.clusters[index]? = some cluster) (phase : state.phase = .processing) {stage : Stage}
    (same : isWritten .processing stage = isWritten .processing cluster.stage) (other : Cluster)
    (inside : other ∈ state.clusters.set index {cluster with stage := stage}) (event : QueuedEvent)
    (sent : event ∈ other.sent) :
    (state.inserted.map Prod.fst).count event = if isWritten .processing other.stage then 1 else 0 := by
  rcases List.mem_or_eq_of_mem_set inside with old | rfl
  · rw [← phase]
    exact orderly.counted other old event sent
  · have counted := orderly.counted cluster (List.mem_of_getElem? found) event sent
    rw [phase] at counted
    rw [counted,same]

theorem Orderly.setNextSagaEvents {state : State} (orderly : Orderly state) {index : Nat} {cluster : Cluster}
    (found : state.clusters[index]? = some cluster) (phase : state.phase = .processing)
    {nextEvents : List QueuedEvent} (stage : cluster.stage = .publishing nextEvents [])
    (empty : state.nextSagaEvents = []) : Orderly (state.setNextSagaEvents index cluster nextEvents) := by
  have small := (List.getElem?_eq_some_iff.mp found).1
  have own : isPublishing cluster.stage = true := by simp [stage,isPublishing]
  obtain ⟨inTx,ordinary⟩ := orderly.publishing index cluster found nextEvents _ stage
  have elsewhere : ∀ tx, tx ≠ state.tx index →
      (state.setNextSagaEvents index cluster nextEvents).events tx = state.events tx := by
    intro tx differ
    simp [State.setNextSagaEvents,State.setEvents,State.setCluster,differ]
  refine orderly.settle found phase .reported rfl rfl rfl (by simp [isPublishing]) ?_ ?_ ?_ ?_ ?_ ?_
    orderly.known orderly.writer
  · intro position other at_ differ isOther
    rw [elsewhere _ (orderly.otherTx found own at_ differ isOther)]
  · intro tx others
    by_cases same : tx = state.tx index
    · have restored : (state.setNextSagaEvents index cluster nextEvents).events tx = nextEvents := by
        simp [State.setNextSagaEvents,State.setEvents,State.setCluster,same]
      rw [restored]
      exact ordinary
    · rw [elsewhere tx same]
      refine orderly.idle tx ?_
      intro position other at_ isOther
      by_cases equal : position = index
      · exact fun shared => same (shared.symm.trans (by rw [equal]))
      · exact others position other at_ equal isOther
  · intro other inside current some
    rcases List.mem_or_eq_of_mem_set inside with old | rfl
    · have impossible := orderly.reported (by simp [phase]) other old current some
      rw [empty] at impossible
      exact absurd impossible.symm some
    · exact inTx
  · intro position other at_ current
    rcases Parties.getElem?_moved found at_ with ⟨_,rfl⟩ | ⟨_,old⟩
    · cases current
    · exact absurd empty (orderly.inserting position other old current).1
  · intro event inside
    refine ⟨_,List.mem_set small _,Or.inl rfl,?_⟩
    exact inTx ▸ inside
  · exact orderly.recounted found phase (by simp [stage,isWritten])

theorem Orderly.waitingFor {state : State} (orderly : Orderly state) {index : Nat} {cluster : Cluster}
    (found : state.clusters[index]? = some cluster) {event : QueuedEvent} (listed : event ∈ state.nextSagaEvents)
    (owner : event.cluster = some index) : event ∈ cluster.sent := by
  obtain ⟨other,inside,_,sent⟩ := orderly.waiting event ((mem_successors owner).mpr listed)
  obtain ⟨position,at_⟩ := List.mem_iff_getElem?.mp inside
  have same : position = index := Option.some.inj ((orderly.owner at_ sent).symm.trans owner)
  subst same
  rw [found] at at_
  cases at_
  exact sent

theorem map_fst_inserted (state : State) (events : List QueuedEvent) (writer : Writer) :
    (state.insertAll events writer).inserted.map Prod.fst = state.inserted.map Prod.fst ++ events := by
  simp [State.insertAll,Function.comp_def]

theorem Orderly.insert {state : State} (orderly : Orderly state) {index : Nat} {cluster : Cluster}
    (found : state.clusters[index]? = some cluster) (phase : state.phase = .processing)
    (stage : cluster.stage = .reported) (more : state.nextSagaEvents ≠ [])
    (own : ∀ event ∈ state.nextSagaEvents, event.cluster = some index) :
    Orderly ((state.insertAll state.nextSagaEvents (.cluster index)).setCluster index
      {cluster with stage := .inserting}) := by
  have member := List.mem_of_getElem? found
  have small := (List.getElem?_eq_some_iff.mp found).1
  obtain ⟨first,listed⟩ := List.exists_mem_of_ne_nil _ more
  have some : cluster.sent ≠ [] := List.ne_nil_of_mem (orderly.waitingFor found listed (own first listed))
  have all := orderly.reported (by simp [phase]) cluster member stage some
  refine orderly.settle found phase .inserting rfl rfl rfl (by simp [isPublishing]) (fun _ _ _ _ _ => rfl)
    ?_ ?_ ?_ ?_ ?_ ?_ ?_
  · exact orderly.idleOthers found (by simp [stage,isPublishing])
  · apply Parties.forall_mem_moved (orderly.reported (by simp [phase]))
    simp
  · apply Parties.forall_getElem?_moved found orderly.inserting
    exact fun _ => ⟨more,own,all⟩
  · intro event inside
    exact ⟨_,List.mem_set small _,Or.inr rfl,all ▸ inside⟩
  · intro other inside event sent
    rw [State.setCluster,map_fst_inserted,List.count_append]
    obtain ⟨position,at_⟩ := List.mem_iff_getElem?.mp inside
    rcases Parties.getElem?_moved found at_ with ⟨rfl,rfl⟩ | ⟨differ,old⟩
    · have owner := orderly.owner found sent
      have before := orderly.counted cluster member event sent
      rw [phase,stage] at before
      rw [before,count_successors owner,all,List.count_eq_one_of_mem (orderly.distinct cluster member) sent]
      rfl
    · have owner := orderly.owner old sent
      have before := orderly.counted other (List.mem_of_getElem? old) event sent
      have absent : state.nextSagaEvents.count event = 0 := by
        refine List.count_eq_zero.mpr (fun present => differ ?_)
        exact Option.some.inj (owner.symm.trans (own event present))
      rw [phase] at before
      rw [before,absent,Nat.add_zero]
  · intro event inside
    rw [State.setCluster,map_fst_inserted,successors,List.filter_append] at inside
    rcases List.mem_append.mp inside with old | new
    · exact orderly.known event old
    · obtain ⟨other,present,_,sent⟩ := orderly.waiting event new
      exact ⟨other,present,sent⟩
  · intro isolated entry inside position owner
    rcases List.mem_append.mp inside with old | new
    · exact orderly.writer isolated entry old position owner
    · obtain ⟨event,present,rfl⟩ := List.mem_map.mp new
      exact congrArg Writer.cluster (Option.some.inj ((own event present).symm.trans owner))

theorem Orderly.reset {state : State} (orderly : Orderly state) {index : Nat} {cluster : Cluster}
    (found : state.clusters[index]? = some cluster) (phase : state.phase = .processing)
    (stage : cluster.stage = .inserting) :
    Orderly {state.setCluster index {cluster with stage := .settled} with nextSagaEvents := []} := by
  obtain ⟨more,own,all⟩ := orderly.inserting index cluster found stage
  obtain ⟨first,listed⟩ := List.exists_mem_of_ne_nil _ more
  have sentFirst := orderly.waitingFor found listed (own first listed)
  refine orderly.settle found phase .settled rfl rfl rfl (by simp [isPublishing]) (fun _ _ _ _ _ => rfl) ?_ ?_ ?_
    (by simp [successors]) ?_ orderly.known orderly.writer
  · exact orderly.idleOthers found (by simp [stage,isPublishing])
  · intro other inside current some
    obtain ⟨position,at_⟩ := List.mem_iff_getElem?.mp inside
    rcases Parties.getElem?_moved found at_ with ⟨_,rfl⟩ | ⟨differ,old⟩
    · cases current
    · have shared := orderly.reported (by simp [phase]) other (List.mem_of_getElem? old) current some
      have sent : first ∈ other.sent := shared ▸ all.symm ▸ sentFirst
      exact absurd (Option.some.inj ((orderly.owner old sent).symm.trans (own first listed))) differ
  · intro position other at_ current
    rcases Parties.getElem?_moved found at_ with ⟨_,rfl⟩ | ⟨differ,old⟩
    · cases current
    · have owner := (orderly.inserting position other old current).2.1 first listed
      exact absurd (Option.some.inj (owner.symm.trans (own first listed))) differ
  · exact orderly.recounted found phase (by simp [stage,isWritten])

theorem isDone_calm {state : State} {cluster : Cluster} (done : state.isDone cluster = true) :
    isPublishing cluster.stage = false := by
  unfold isDone at done
  split at done <;> simp [of_decide_eq_true done,isPublishing]

theorem Orderly.endMap {state : State} (orderly : Orderly state) (phase : state.phase = .processing) (commit : Bool)
    (done : ∀ cluster ∈ state.clusters, state.isDone cluster)
    (allowed : commit = true → state.transactionMode = .alwaysCommit) :
    Orderly {state.insertAll (if commit then state.events 0 else []) .processing with phase := .ended} := by
  have empty : successors (if commit then state.events 0 else []) = [] := by
    cases commit with
    | false => rfl
    | true =>
      refine orderly.idle 0 ?_
      intro index cluster at_ publishing
      rw [isDone_calm (done cluster (List.mem_of_getElem? at_))] at publishing
      cases publishing
  exact
    { orderly with
      reported := fun _ => orderly.reported (by simp [phase])
      counted := by
        intro cluster member event sent
        obtain ⟨index,at_⟩ := List.mem_iff_getElem?.mp member
        have owner := orderly.owner at_ sent
        have before := orderly.counted cluster member event sent
        have ended : isWritten .ended cluster.stage = isWritten .processing cluster.stage := by
          cases cluster.stage <;> rfl
        have absent : (if commit then state.events 0 else []).count event = 0 := by
          rw [count_successors owner,empty]
          rfl
        rw [map_fst_inserted,List.count_append,absent,before,phase,ended,Nat.add_zero]
      known := by
        intro event inside
        rw [map_fst_inserted,successors,List.filter_append,← successors,← successors,empty,List.append_nil] at inside
        exact orderly.known event inside
      writer := by
        intro isolated entry inside index owner
        rcases List.mem_append.mp inside with old | new
        · exact orderly.writer isolated entry old index owner
        · have aborted : commit = false := by
            cases commit with
            | false => rfl
            | true => cases (allowed rfl).symm.trans isolated
          simp [aborted] at new
      ended := fun _ => done }

theorem Orderly.left {state : State} (orderly : Orderly state) (phase : state.phase ≠ .processing)
    {event : QueuedEvent}
    (listed : event ∈ successors state.nextSagaEvents) : state.transactionMode ≠ .isolated := by
  intro isolated
  obtain ⟨cluster,member,staged,_⟩ := orderly.waiting event listed
  have done := orderly.ended phase cluster member
  simp only [isDone,isolated,decide_eq_true_eq] at done
  rcases staged with same | same <;> rw [done] at same <;> cases same

theorem Orderly.finishChunk {state : State} (orderly : Orderly state) (phase : state.phase = .ended)
    (nothing : successors state.nextSagaEvents = []) : Orderly {state with phase := .finished} :=
  { orderly with
    reported := fun unfinished => absurd rfl unfinished
    counted := by
      intro cluster member event sent
      have before := orderly.counted cluster member event sent
      have settled : cluster.stage ≠ .reported := by
        intro stage
        have all := orderly.reported (by simp [phase]) cluster member stage (List.ne_nil_of_mem sent)
        rw [nothing] at all
        exact List.ne_nil_of_mem sent all.symm
      have same : isWritten .finished cluster.stage = isWritten state.phase cluster.stage := by
        cases current : cluster.stage with
        | reported => exact absurd current settled
        | _ => rfl
      rw [same]
      exact before
    ended := fun _ => orderly.ended (by simp [phase]) }

theorem Orderly.insertChunk {state : State} (orderly : Orderly state) (phase : state.phase = .ended) :
    Orderly {state.insertAll state.nextSagaEvents .chunk with phase := .inserting} := by
  have away : state.phase ≠ .processing := by simp [phase]
  exact
    { orderly with
      reported := fun _ => orderly.reported (by simp [phase])
      counted := by
        intro cluster member event sent
        obtain ⟨index,at_⟩ := List.mem_iff_getElem?.mp member
        have owner := orderly.owner at_ sent
        have before := orderly.counted cluster member event sent
        have done := orderly.ended away cluster member
        rw [map_fst_inserted,List.count_append,before,count_successors owner]
        by_cases isolated : state.transactionMode = .isolated
        · simp only [isDone,isolated,decide_eq_true_eq] at done
          have absent : (successors state.nextSagaEvents).count event = 0 :=
            List.count_eq_zero.mpr (fun listed => orderly.left away listed isolated)
          rw [absent,done]
          rfl
        · have stage : cluster.stage = .reported := by
            unfold isDone at done
            split at done
            · exact absurd ‹_› isolated
            · exact of_decide_eq_true done
          have all := orderly.reported (by simp [phase]) cluster member stage (List.ne_nil_of_mem sent)
          rw [all,List.count_eq_one_of_mem (orderly.distinct cluster member) sent,phase,stage]
          rfl
      known := by
        intro event inside
        rw [map_fst_inserted,successors,List.filter_append] at inside
        rcases List.mem_append.mp inside with old | new
        · exact orderly.known event old
        · obtain ⟨other,present,_,sent⟩ := orderly.waiting event new
          exact ⟨other,present,sent⟩
      writer := by
        intro isolated entry inside index owner
        rcases List.mem_append.mp inside with old | new
        · exact orderly.writer isolated entry old index owner
        · obtain ⟨event,present,rfl⟩ := List.mem_map.mp new
          exact absurd isolated (orderly.left away ((mem_successors owner).mpr present))
      ended := fun _ => orderly.ended away }

theorem Orderly.resetChunk {state : State} (orderly : Orderly state) (phase : state.phase = .inserting) :
    Orderly {state with nextSagaEvents := [],phase := .finished} :=
  { orderly with
    reported := fun unfinished => absurd rfl unfinished
    inserting := by
      intro index cluster at_ stage
      have done := orderly.ended (by simp [phase]) cluster (List.mem_of_getElem? at_)
      unfold isDone at done
      split at done <;> simp [stage] at done
    waiting := by simp [successors]
    counted := by
      intro cluster member event sent
      have before := orderly.counted cluster member event sent
      have same : isWritten .finished cluster.stage = isWritten .inserting cluster.stage := by
        cases cluster.stage <;> rfl
      rw [phase] at before
      rw [same]
      exact before
    ended := fun _ => orderly.ended (by simp [phase]) }

theorem Orderly.unsent {state : State} (orderly : Orderly state) {index : Nat} {cluster : Cluster}
    (found : state.clusters[index]? = some cluster) (phase : state.phase = .processing)
    (stage : cluster.stage = .reported) (foreign : ∀ event ∈ state.nextSagaEvents, event.cluster ≠ some index) :
    cluster.sent = [] := by
  by_contra some
  have all := orderly.reported (by simp [phase]) cluster (List.mem_of_getElem? found) stage some
  obtain ⟨event,sent⟩ := List.exists_mem_of_ne_nil _ some
  have owner := orderly.owner found sent
  exact foreign event ((mem_successors owner).mp (all ▸ sent)) owner

theorem Orderly.step {onHandlers : List String} {state next : State} (orderly : Orderly state) {action : Action}
    (separate : Separate onHandlers state action) (taken : Taken onHandlers state action next) : Orderly next := by
  cases taken with
  | publishEvent index event cluster phase found =>
    exact orderly.setEvents index _ (by simp [successors,QueuedEvent.cluster])
  | unpublished action index cluster phase found stage =>
    exact orderly.restage found phase _ (orderly.handling cluster (List.mem_of_getElem? found) stage) (by simp) (by simp)
  | publishFollowupEvents index event statuses followups cluster phase found stage known =>
    exact orderly.publishFollowupEvents found phase stage followups (separate (by simp [known]))
  | send index cluster nextEvents followup followups phase found stage => exact orderly.send found phase stage
  | failPublishing index cluster nextEvents followups phase found stage =>
    exact orderly.restage found phase _ (separate cluster found) (by simp) (by simp)
  | setNextSagaEvents index cluster nextEvents phase found stage =>
    exact orderly.setNextSagaEvents found phase stage separate
  | insertNothing index cluster phase found stage isolated empty =>
    exact orderly.restage found phase _ (orderly.unsent found phase stage (by simp [empty])) (by simp) (by simp)
  | insert index cluster phase found stage isolated more => exact orderly.insert found phase stage more separate
  | reset index cluster phase found stage => exact orderly.reset found phase stage
  | leave index cluster phase found stage isolated =>
    exact orderly.restage found phase _ (orderly.unsent found phase stage separate) (by simp) (by simp)
  | endMap commit phase done allowed => exact orderly.endMap phase commit done allowed
  | finishChunk action phase left =>
    refine orderly.finishChunk phase ?_
    rcases left with rfl | empty
    · simpa [successors,Separate] using separate
    · simp [empty,successors]
  | insertChunk phase => exact orderly.insertChunk phase
  | resetChunk phase => exact orderly.resetChunk phase

theorem Taken.transactionMode {onHandlers : List String} {state next : State} {action : Action}
    (taken : Taken onHandlers state action next) : next.transactionMode = state.transactionMode := by
  cases taken <;> rfl

theorem orderly_initial (transactionMode : TransactionMode) (count : Nat) :
    Orderly (initial transactionMode count) := by
  have handling : ∀ cluster ∈ (initial transactionMode count).clusters, cluster = ⟨.handling,[]⟩ :=
    fun cluster member => List.eq_of_mem_replicate member
  exact
    { numbered := by
        intro index cluster at_
        simp [handling cluster (List.mem_of_getElem? at_)]
      distinct := by
        intro cluster member
        simp [handling cluster member]
      handling := by
        intro cluster member _
        simp [handling cluster member]
      publishing := by
        intro index cluster at_
        simp [handling cluster (List.mem_of_getElem? at_)]
      alone := by
        intro first second one other at_
        simp [handling one (List.mem_of_getElem? at_),isPublishing]
      idle := by
        intro tx _
        rfl
      reported := by
        intro _ cluster member
        simp [handling cluster member]
      inserting := by
        intro index cluster at_
        simp [handling cluster (List.mem_of_getElem? at_)]
      waiting := by simp [initial,successors]
      counted := by
        intro cluster member
        simp [handling cluster member]
      known := by simp [initial,successors]
      writer := by simp [initial]
      ended := by simp [initial] }

/-- In every run in which clusters do not meet in `nextSagaEvents`, each successor event of a cluster
is inserted exactly once by the end of the chunk, in isolated mode together with the cluster's statuses. -/
theorem successors_inserted_once (onHandlers : List String) (transactionMode : TransactionMode) (count : Nat)
    (actions : List Action) (state : State)
    (guarded : Transition.Along (step onHandlers) (Separate onHandlers) (initial transactionMode count) actions)
    (reached : Transition.run (step onHandlers) (initial transactionMode count) actions = some state)
    (finished : state.phase = .finished) (index : Nat) (cluster : Cluster)
    (found : state.clusters[index]? = some cluster) (event : QueuedEvent) (sent : event ∈ cluster.sent) :
    (state.inserted.map Prod.fst).count event = 1 ∧
      (transactionMode = .isolated → (event,.cluster index) ∈ state.inserted) := by
  have invariant : Orderly state ∧ state.transactionMode = transactionMode := by
    refine Transition.invariant (step onHandlers) _
      (fun state => Orderly state ∧ state.transactionMode = transactionMode) ?_ _ _ _
      ⟨orderly_initial transactionMode count,rfl⟩ guarded reached
    rintro state action next ⟨orderly,mode⟩ separate taken
    have known := step_taken onHandlers state next action taken
    exact ⟨orderly.step separate known,known.transactionMode.trans mode⟩
  obtain ⟨orderly,mode⟩ := invariant
  have member := List.mem_of_getElem? found
  have owner := orderly.owner found sent
  have once : (state.inserted.map Prod.fst).count event = 1 := by
    have done := orderly.ended (by simp [finished]) cluster member
    have written : isWritten .finished cluster.stage = true := by
      unfold isDone at done
      split at done <;> rw [of_decide_eq_true done] <;> rfl
    have counted := orderly.counted cluster member event sent
    rw [finished,written] at counted
    exact counted
  refine ⟨once,?_⟩
  intro isolated
  have listed : event ∈ state.inserted.map Prod.fst := List.count_pos_iff.mp (by rw [once]; exact Nat.one_pos)
  obtain ⟨entry,inside,rfl⟩ := List.mem_map.mp listed
  have writer := orderly.writer (mode.trans isolated) entry inside index owner
  exact writer ▸ inside

/-- A cluster whose event is done and has one successor. -/
def publishes (index : Nat) : List Action :=
  [.publishFollowupEvents index "saga" [.nat EventProcessingStatus.Done],.send index,.setNextSagaEvents index]

def sagaHandlers : List String := ["saga","saga/#succeeded","#failed"]

def oneByOne : List Action :=
  publishes 0 ++ [.insert 0,.reset 0] ++ publishes 1 ++ [.insert 1,.reset 1,.endMap false,.insertChunk]

theorem successors_inserted_once_one_by_one :
    ∃ state ∈ Transition.run (step sagaHandlers) (initial .isolated 2) oneByOne,
      ∃ cluster ∈ state.clusters[1]?, ∃ event ∈ cluster.sent, (state.inserted.map Prod.fst).count event = 1 ∧
        (event,.cluster 1) ∈ state.inserted := by
  have computed : ∃ state ∈ Transition.run (step sagaHandlers) (initial .isolated 2) oneByOne,
      state.phase = .finished ∧ ∃ cluster ∈ state.clusters[1]?,
        cluster.sent = [.successor 1 0 "saga/#succeeded"] := by decide
  obtain ⟨state,reached,finished,cluster,found,sent⟩ := computed
  refine ⟨state,reached,cluster,found,.successor 1 0 "saga/#succeeded",by simp [sent],?_⟩
  obtain ⟨once,together⟩ := successors_inserted_once sagaHandlers .isolated 2 oneByOne state (by decide) reached
    finished 1 cluster found (.successor 1 0 "saga/#succeeded") (by simp [sent])
  exact ⟨once,together rfl⟩

/-- Two clusters in parallel: the second one overwrites the successor of the first one, which then
inserts that of the second one with its own statuses. -/
theorem parallel_successor_lost :
    ∃ state ∈ Transition.run (step sagaHandlers) (initial .isolated 2)
        (publishes 0 ++ publishes 1 ++ [.insert 0,.reset 0,.insert 1,.endMap false,.insertChunk]),
      state.phase = .finished ∧
      (∃ cluster ∈ state.clusters[0]?, ∃ event ∈ cluster.sent, (state.inserted.map Prod.fst).count event = 0) ∧
      ∃ cluster ∈ state.clusters[1]?, ∃ event ∈ cluster.sent, (event,.cluster 0) ∈ state.inserted := by
  decide

end State

end EventQueue.Saga

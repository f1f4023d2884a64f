import EventQueue.ChunkAttempts
import EventQueue.PersistableStatus

/-! Failures while exceeded entries are handled. A hook that throws and a first status write that
fails stay inside `handleExceededEvents`; a failing commit and a failure of the transaction that
sets an error status leave it and end the chunk with its open entries in progress. -/
namespace EventQueue.Chunk
open Js (Value)

variable {env : Environment} {setting : Setting}

/-- The transactions of `handleExceededEvents` can always be opened and written. -/
theorem exceeded_opens (now : Nat) (selectedEventMap ids : List String) {status : Nat}
    (allowed : status ∈ allowedStatuses) :
    ∃ tx, (persistChecked selectedEventMap (exceededStatusMap ids status)).bind (StatusTx.open env now) = some tx ∧
      SoundTx env (fun id _ => id ∈ ids) tx := by
  have sound : SoundMap env (fun id _ => id ∈ ids) (exceededStatusMap ids status) := by
    intro id value found
    obtain ⟨listed,rfl⟩ := (exceededStatusMap_iff ids status id value).mp found
    exact ⟨status,persists_status allowed,listed⟩
  obtain ⟨tx,opened,fine,_⟩ := sound.opens now selectedEventMap
  exact ⟨tx,opened,fine⟩

theorem openExceeded_phase (env : Environment) (chunk : Chunk) (now : Nat) (job : ExceededJob) (hookThrew : Bool)
    (jobs : List ExceededJob) :
    ∃ tx, chunk.openExceeded env now job hookThrew jobs = {chunk with phase := .exceededTx job hookThrew tx jobs} ∧
      SoundTx env (fun id _ => id ∈ job.ids) tx := by
  have allowed : (if hookThrew then EventProcessingStatus.Error else EventProcessingStatus.Exceeded) ∈
      allowedStatuses := by
    cases hookThrew <;> decide
  obtain ⟨tx,opened,fine⟩ := @exceeded_opens env now chunk.selectedEventMap job.ids _ allowed
  refine ⟨tx,?_,fine⟩
  simp only [Chunk.openExceeded,opened]

theorem inFlight_zero {chunk : Chunk}
    (waits : ∀ cluster ∈ chunk.clusters, isWaiting cluster = true ∨ isSettled cluster = true) : chunk.inFlight = 0 := by
  rw [Chunk.inFlight,List.countP_eq_zero]
  intro cluster member
  rcases waits cluster member with waiting | settled
  · unfold isWaiting at waiting
    split at waiting
    · rename_i state
      simp [state]
    · cases waiting
  · unfold isSettled at settled
    split at settled
    · rename_i state
      simp [state]
    · rename_i state
      simp [state]
    · cases settled

/-- Nothing fails, and payloads, clusters and results of handlers are the given ones. -/
def Prompted (payloads : String → Payload) (clusters : List (String × List String)) (outcomes : String → Outcome)
    (chunk : Chunk) : Action → Prop
  | .preprocess given => given = payloads
  | .cluster given => given = some clusters
  | .report index outcome => ∀ cluster, chunk.clusters[index]? = some cluster → outcome = outcomes cluster.key
  | action => Undisturbed chunk action

section
variable {payloads : String → Payload} {clusters : List (String × List String)} {outcomes : String → Outcome}

/-- The map of clusters goes on: one that is under way, the first one that waits, or the end. -/
theorem processing_enabled {chunk : Chunk} (now : Nat) (phase : chunk.phase = .processing) :
    ∃ action, Prompted payloads clusters outcomes chunk action ∧ (chunk.step env setting now action).isSome = true := by
  by_cases waits : ∀ cluster ∈ chunk.clusters, isWaiting cluster = true ∨ isSettled cluster = true
  · by_cases settled : chunk.clusters.all isSettled = true
    · refine ⟨.endMap true,rfl,?_⟩
      simp only [Chunk.step,phase,settled,if_true,Bool.not_true,Bool.false_eq_true,if_false]
      split <;> rfl
    · have first : (chunk.clusters.findIdx? isWaiting).isSome = true := by
        rw [List.findIdx?_isSome,List.any_eq_true]
        simp only [List.all_eq_true] at settled
        push Not at settled
        obtain ⟨cluster,member,open_⟩ := settled
        exact ⟨cluster,member,(waits cluster member).resolve_right open_⟩
      obtain ⟨index,found⟩ := Option.isSome_iff_exists.mp first
      obtain ⟨small,waiting,before⟩ := List.findIdx?_eq_some_iff_getElem.mp found
      refine ⟨.launch index,trivial,?_⟩
      have state : (chunk.clusters[index]).state = .waiting := by
        unfold isWaiting at waiting
        split at waiting
        · assumption
        · cases waiting
      have next : chunk.isNext setting index = true := by
        rw [Chunk.isNext,inFlight_zero waits,Bool.and_eq_true,List.all_eq_true]
        refine ⟨?_,by simp⟩
        intro cluster member
        obtain ⟨position,inside,rfl⟩ := List.mem_take_iff_getElem.mp member
        simpa using before position (by omega)
      have there : chunk.clusters[index]? = some chunk.clusters[index] := List.getElem?_eq_getElem small
      simp [Chunk.step,Chunk.clusterAt,phase,there,state,next]
  · push Not at waits
    obtain ⟨cluster,member,running,unsettled⟩ := waits
    obtain ⟨index,found⟩ := List.mem_iff_getElem?.mp member
    cases state : cluster.state with
    | waiting => simp [isWaiting,state] at running
    | fulfilled => simp [isSettled,state] at unsettled
    | rejected => simp [isSettled,state] at unsettled
    | launched => exact ⟨.processEvent index true,rfl,by simp [Chunk.step,Chunk.clusterAt,phase,found,state]⟩
    | running =>
      refine ⟨.report index (outcomes cluster.key),?_,by simp [Chunk.step,Chunk.clusterAt,phase,found,state]⟩
      intro other same
      rw [Option.some.inj (found.symm.trans same)]
    | reported statusMap => exact ⟨.settle index false true,rfl,by simp [Chunk.step,Chunk.clusterAt,phase,found,state]⟩
    | writing tx =>
      by_cases written : tx.groups = []
      · exact ⟨.commit index true,rfl,by simp [Chunk.step,Chunk.clusterAt,phase,found,state,written]⟩
      · exact ⟨.write index true,rfl,by simp [Chunk.step,Chunk.clusterAt,phase,found,state,written]⟩

/-- A chunk that is neither finished nor aborted has a next step. -/
theorem prompted_enabled {chunk : Chunk} (now : Nat)
    (valid : chunk.phase = .exceeding [] → validClusters chunk.queueEntriesWithPayloadMap clusters = true)
    (unfinished : chunk.phase ≠ .finished) (alive : chunk.phase ≠ .aborted) :
    ∃ action, Prompted payloads clusters outcomes chunk action ∧ (chunk.step env setting now action).isSome = true := by
  cases phase : chunk.phase with
  | preprocessing => exact ⟨.preprocess payloads,rfl,by simp [Chunk.step,phase]⟩
  | exceeding jobs =>
    cases jobs with
    | cons job jobs => exact ⟨.exceededOpen false,trivial,by simp [Chunk.step,phase]⟩
    | nil =>
      by_cases none : chunk.queueEntriesWithPayloadMap = []
      · exact ⟨.noPayload,trivial,by simp [Chunk.step,phase,none]⟩
      · exact ⟨.cluster (some clusters),rfl,by simp [Chunk.step,phase,none,valid phase]⟩
  | exceededTx job hookThrew tx jobs =>
    by_cases written : tx.groups = []
    · exact ⟨.exceededCommit true,rfl,by simp [Chunk.step,phase,written]⟩
    · exact ⟨.exceededWrite true,rfl,by simp [Chunk.step,phase,written]⟩
  | processing => exact processing_enabled now phase
  | persisting => exact ⟨.persistOpen,trivial,by simp [Chunk.step,phase]⟩
  | persistTx tx =>
    by_cases written : tx.groups = []
    · exact ⟨.persistCommit true,rfl,by simp [Chunk.step,phase,written]⟩
    · exact ⟨.persistWrite true,rfl,by simp [Chunk.step,phase,written]⟩
  | finished => exact absurd phase unfinished
  | aborted => exact absurd phase alive

end

theorem validClusters_base {withPayload : List String} (distinct : withPayload.Nodup) :
    validClusters withPayload (clusterQueueEntries withPayload) = true := by
  have keys : (clusterQueueEntries withPayload).map Prod.fst = withPayload := by
    simp [clusterQueueEntries,Function.comp_def]
  rw [validClusters,keys,Bool.and_eq_true,List.all_eq_true]
  refine ⟨decide_eq_true distinct,?_⟩
  intro cluster member
  obtain ⟨id,listed,rfl⟩ := List.mem_map.mp member
  simp [listed]

theorem enabled {chunk : Chunk} (now : Nat) (distinct : chunk.queueEntriesWithPayloadMap.Nodup)
    (unfinished : chunk.phase ≠ .finished) (alive : chunk.phase ≠ .aborted) :
    ∃ action, (chunk.step env setting now action).isSome = true := by
  obtain ⟨action,_,possible⟩ := @prompted_enabled env setting (fun _ => .value)
    (clusterQueueEntries chunk.queueEntriesWithPayloadMap) (fun _ => .returned .undefined) chunk now
    (fun _ => validClusters_base distinct) unfinished alive
  exact ⟨action,possible⟩

def isAborted : Phase → Bool
  | .aborted => true
  | _ => false

/-- Nothing has failed: no cluster is rejected, no keep-alive violation, not aborted. -/
structure Unharmed (chunk : Chunk) : Prop where
  alive : isAborted chunk.phase = false
  calm : chunk.keepAliveViolated = false
  accepted : ∀ cluster ∈ chunk.clusters, isRejected cluster = false

/-- Failures happen while exceeded entries are handled and nowhere else; the clustering keeps every entry. -/
def Confined (env : Environment) (setting : Setting) (chunk : Chunk) (entry : Nat × Action) : Prop :=
  match entry.2 with
  | .exceededOpen _ | .exceededWrite _ | .exceededCommit _ => True
  | .cluster none => False
  | .cluster (some clusters) => ∀ id ∈ chunk.queueEntriesWithPayloadMap, ∃ cluster ∈ clusters, id ∈ cluster.2
  | action => ∀ next ∈ chunk.step env setting entry.1 action, Unharmed next

/-- The failures `handleExceededEvents` catches: the hook and the first status write after it. -/
def Tolerated (env : Environment) (setting : Setting) (chunk : Chunk) (entry : Nat × Action) : Prop :=
  match entry.2,chunk.phase with
  | .exceededWrite ok,.exceededTx job hookThrew tx _ =>
    (advance env setting entry.1 ok tx).isSome = true ∨ hookRuns job = true ∧ hookThrew = false
  | .exceededCommit ok,_ => ok = true
  | _,_ => True

def Attempted (chunk : Chunk) (job : ExceededJob) : Prop :=
  ∀ id ∈ job.ids, ∃ update ∈ chunk.committed,
    id ∈ update.ids ∧ update.status ∈ [EventProcessingStatus.Error,EventProcessingStatus.Exceeded]

structure Serving (chunk : Chunk) : Prop where
  unharmed : Unharmed chunk
  exceeding : Exceeding chunk
  entries : chunk.queueEntries.Nodup
  payload : chunk.queueEntriesWithPayloadMap.Nodup
  covered : chunk.phase = .processing → ∀ id ∈ chunk.queueEntriesWithPayloadMap,
    ∃ cluster ∈ chunk.clusters, id ∈ cluster.queueEntries
  started : ∀ cluster ∈ chunk.clusters, rank cluster.state ≤ 1 ∨ cluster.queueEntries ⊆ chunk.invoked
  processed : ¬Early chunk.phase → chunk.phase ≠ .processing → chunk.queueEntriesWithPayloadMap ⊆ chunk.invoked
  attempted : ∀ job ∈ chunk.exceededJobs, job ∈ chunk.jobsLeft ∨ Attempted chunk job

theorem exceededJobs_fixed {chunk next : Chunk} {now : Nat} {action : Action}
    (taken : Taken env setting chunk now action next) : next.exceededJobs = chunk.exceededJobs := by
  obtain ⟨_,_,tries,exceeded⟩ := taken.fixed
  simp only [Chunk.exceededJobs,tries,exceeded]

theorem attempted_commit {chunk : Chunk} (exceeding : Exceeding chunk) {job : ExceededJob} {hookThrew : Bool}
    {tx : StatusTx} {jobs : List ExceededJob} (phase : chunk.phase = .exceededTx job hookThrew tx jobs)
    (written : tx.groups = []) : Attempted (chunk.exceededCommit tx jobs true) job := by
  intro id listed
  have planned := (exceeding.writes job hookThrew tx jobs phase id (exceededStatus hookThrew)).mpr ⟨listed,rfl⟩
  rw [StatusTx.writes,written,List.flatMap_nil,List.append_nil] at planned
  obtain ⟨update,member,own⟩ := List.mem_flatMap.mp planned
  obtain ⟨other,inside,same⟩ := List.mem_map.mp own
  obtain ⟨rfl,status⟩ := Prod.mk.inj same
  refine ⟨update,List.mem_append_right _ member,inside,?_⟩
  rw [status]
  cases hookThrew <;> simp [exceededStatus]

theorem Attempted.grow {chunk next : Chunk} {job : ExceededJob} (attempted : Attempted chunk job)
    (committed : chunk.committed ⊆ next.committed) : Attempted next job := by
  intro id listed
  obtain ⟨update,member,facts⟩ := attempted id listed
  exact ⟨update,committed member,facts⟩

theorem Serving.exceededStep {chunk next : Chunk} (serving : Serving chunk) {now : Nat} {action : Action}
    (taken : Taken env setting chunk now action next) (after : Early next.phase)
    (violated : next.keepAliveViolated = chunk.keepAliveViolated)
    (left : ∀ job ∈ chunk.jobsLeft, job ∈ next.jobsLeft ∨ Attempted next job) : Serving next := by
  obtain ⟨entries,_⟩ := taken.fixed
  have jobs := exceededJobs_fixed taken
  have committed : chunk.committed ⊆ next.committed := by
    rw [taken.committed]
    exact List.subset_append_left _ _
  have kept : next.clusters = chunk.clusters ∧ next.invoked = chunk.invoked := by
    cases taken.shift with
    | still _ clusters invoked => exact ⟨clusters,invoked⟩
    | clustered _ _ _ phase => simp [phase,Early] at after
    | moved _ _ _ _ phase => simp [phase,Early] at after
    | started _ _ _ _ phase => simp [phase,Early] at after
  have payload : next.queueEntriesWithPayloadMap.Nodup := by
    rcases taken.payload with ⟨payloads,rfl⟩ | same
    · exact serving.entries.filter _
    · rw [same]
      exact serving.payload
  exact
    { unharmed :=
        { alive := by cases phase : next.phase <;> simp_all [Early,isAborted]
          calm := violated.trans serving.unharmed.calm
          accepted := kept.1 ▸ serving.unharmed.accepted }
      exceeding := serving.exceeding.step taken
      entries := entries ▸ serving.entries
      payload := payload
      covered := fun phase => by simp [phase,Early] at after
      started := by
        rw [kept.1,kept.2]
        exact serving.started
      processed := fun late => absurd after late
      attempted := by
        intro job member
        rcases serving.attempted job (jobs ▸ member) with open_ | done
        · exact left job open_
        · exact Or.inr (done.grow committed) }

theorem Serving.lateStep {chunk next : Chunk} (serving : Serving chunk) {now : Nat} {action : Action}
    (taken : Taken env setting chunk now action next) (unharmed : Unharmed next) (left : chunk.jobsLeft = [])
    (started : ∀ cluster ∈ next.clusters, rank cluster.state ≤ 1 ∨ cluster.queueEntries ⊆ next.invoked)
    (covered : next.phase = .processing → ∀ id ∈ next.queueEntriesWithPayloadMap,
      ∃ cluster ∈ next.clusters, id ∈ cluster.queueEntries)
    (processed : ¬Early next.phase → next.phase ≠ .processing → next.queueEntriesWithPayloadMap ⊆ next.invoked)
    (payload : next.queueEntriesWithPayloadMap = chunk.queueEntriesWithPayloadMap) : Serving next where
  unharmed := unharmed
  exceeding := serving.exceeding.step taken
  entries := by
    rw [taken.fixed.1]
    exact serving.entries
  payload := by
    rw [payload]
    exact serving.payload
  covered := covered
  started := started
  processed := processed
  attempted := by
    intro job member
    rw [exceededJobs_fixed taken] at member
    rcases serving.attempted job member with open_ | done
    · rw [left] at open_
      cases open_
    · right
      apply done.grow
      rw [taken.committed]
      exact List.subset_append_left _ _

/-- A step of the processing phase: no cluster is skipped, so every one that goes on was handed over. -/
theorem Serving.started_step {chunk next : Chunk} (serving : Serving chunk) {now : Nat} {action : Action}
    (taken : Taken env setting chunk now action next) (unharmed : Unharmed next) (phase : chunk.phase = .processing) :
    ∀ cluster ∈ next.clusters, rank cluster.state ≤ 1 ∨ cluster.queueEntries ⊆ next.invoked := by
  have running : ∀ {index : Nat} {cluster : Cluster} {state : ClusterState}, chunk.clusters[index]? = some cluster →
      (rank cluster.state ≤ 1 → rank state ≤ 1) → ∀ other ∈ chunk.clusters.set index {cluster with state := state},
      rank other.state ≤ 1 ∨ other.queueEntries ⊆ chunk.invoked := by
    intro index cluster state found open_
    apply Parties.forall_mem_moved serving.started
    exact (serving.started cluster (List.mem_of_getElem? found)).imp_left open_
  cases taken with
  | launch index cluster _ found state => exact running found (by simp [rank])
  | processEvent index ok cluster _ found state isolated =>
    have accepted := unharmed.accepted
    unfold Chunk.processEvent at accepted ⊢
    cases ok with
    | false =>
      have rejected := accepted _ (mem_setCluster_self chunk .rejected found)
      simp [isRejected] at rejected
    | true =>
      simp only [Bool.not_true,Bool.false_eq_true,if_false,serving.unharmed.calm]
      intro other member
      rcases mem_setCluster member with rfl | old
      · exact Or.inr (List.subset_append_right _ _)
      · exact (serving.started other old).imp_right (fun inside => List.subset_append_of_subset_left _ inside)
  | report index outcome cluster _ found state =>
    have late : ∀ {state' : ClusterState}, rank cluster.state ≤ 1 → rank state' ≤ 1 := by simp [state,rank]
    unfold Chunk.report
    split
    · exact running found late
    · simp only
      split
      · split
        · exact running found late
        · exact running found late
      · split
        · exact running found late
        · exact running found late
  | settle index shouldRollback rollbackOk cluster statusMap _ found state =>
    have late : ∀ {state' : ClusterState}, rank cluster.state ≤ 1 → rank state' ≤ 1 := by simp [state,rank]
    unfold Chunk.settle
    split
    · exact running found late
    · split
      · exact running found late
      · split
        · exact running found late
        · exact running found late
  | write index ok cluster tx _ found state more => exact running found (by simp [state,rank])
  | commit index ok cluster tx _ found state written =>
    unfold Chunk.commit
    split
    · exact running found (by simp [state,rank])
    · exact running found (by simp [state,rank])
  | tick found ok _ own =>
    unfold Chunk.tick
    split <;> exact serving.started
  | endMapFailed => exact serving.started
  | endMapRejected => exact serving.started
  | endMap => exact serving.started
  | _ => simp_all

theorem covered_set {chunk next : Chunk} {index : Nat} {cluster : Cluster} {state : ClusterState}
    (found : chunk.clusters[index]? = some cluster)
    (set : next.clusters = chunk.clusters.set index {cluster with state := state}) {id : String}
    (covered : ∃ other ∈ chunk.clusters, id ∈ other.queueEntries) : ∃ other ∈ next.clusters, id ∈ other.queueEntries := by
  obtain ⟨other,member,listed⟩ := covered
  rw [set]
  rcases Parties.mem_moved {cluster with state := state} found member with rfl | kept
  · exact ⟨_,List.mem_set (List.getElem?_eq_some_iff.mp found).1 _,listed⟩
  · exact ⟨other,kept,listed⟩

theorem Serving.covered_step {chunk next : Chunk} (serving : Serving chunk) {now : Nat} {action : Action}
    (taken : Taken env setting chunk now action next) (phase : chunk.phase = .processing)
    (payload : next.queueEntriesWithPayloadMap = chunk.queueEntriesWithPayloadMap) :
    ∀ id ∈ next.queueEntriesWithPayloadMap, ∃ cluster ∈ next.clusters, id ∈ cluster.queueEntries := by
  intro id listed
  have before := serving.covered phase id (payload ▸ listed)
  cases taken.shift with
  | still early clusters invoked =>
    rw [clusters]
    exact before
  | clustered clusters given early => simp [phase,Early] at early
  | moved index cluster state found after set later invoked => exact covered_set found set before
  | started index cluster found launched after set invoked => exact covered_set found set before

/-- All clusters are settled, so everything with a payload was handed over. -/
theorem Serving.all_invoked {chunk : Chunk} (serving : Serving chunk) (phase : chunk.phase = .processing)
    (settled : ∀ cluster ∈ chunk.clusters, isSettled cluster = true) :
    chunk.queueEntriesWithPayloadMap ⊆ chunk.invoked := by
  intro id listed
  obtain ⟨cluster,member,own⟩ := serving.covered phase id listed
  rcases serving.started cluster member with open_ | handed
  · have done := settled cluster member
    unfold isSettled at done
    split at done <;> simp_all [rank]
  · exact handed own

theorem Confined.unharmed {chunk next : Chunk} {now : Nat} {action : Action}
    (confined : Confined env setting chunk (now,action)) (moved : chunk.step env setting now action = some next)
    (late : ¬Early chunk.phase) : Unharmed next := by
  have known := step_taken env setting chunk next now action moved
  unfold Confined at confined
  cases known with
  | exceededOpen _ _ _ phase => simp [phase,Early] at late
  | exceededWrite _ _ _ _ _ phase => simp [phase,Early] at late
  | exceededCommit _ _ _ _ _ phase => simp [phase,Early] at late
  | cluster _ phase => simp [phase,Early] at late
  | clusterError phase => simp [phase,Early] at late
  | _ => exact confined _ moved

theorem leaves_processing {chunk next : Chunk} {now : Nat} {action : Action}
    (taken : Taken env setting chunk now action next) (phase : chunk.phase = .processing)
    (leaves : next.phase ≠ .processing) :
    (∀ cluster ∈ chunk.clusters, isSettled cluster = true) ∧ next.invoked = chunk.invoked := by
  cases taken with
  | endMapFailed _ settled => exact ⟨settled,rfl⟩
  | endMapRejected _ settled rejected => exact ⟨settled,rfl⟩
  | endMap _ settled fulfilled => exact ⟨settled,rfl⟩
  | launch index cluster _ found state => exact absurd phase leaves
  | write index ok cluster tx _ found state more => exact absurd phase leaves
  | processEvent index ok cluster _ found state isolated =>
    unfold Chunk.processEvent at leaves
    split at leaves
    · exact absurd phase leaves
    · split at leaves <;> exact absurd phase leaves
  | report index outcome cluster _ found state =>
    unfold Chunk.report at leaves
    split at leaves
    · exact absurd phase leaves
    · simp only at leaves
      split at leaves <;> split at leaves <;> exact absurd phase leaves
  | settle index shouldRollback rollbackOk cluster statusMap _ found state =>
    unfold Chunk.settle at leaves
    split at leaves
    · exact absurd phase leaves
    · split at leaves
      · exact absurd phase leaves
      · split at leaves <;> exact absurd phase leaves
  | commit index ok cluster tx _ found state written =>
    unfold Chunk.commit at leaves
    split at leaves <;> exact absurd phase leaves
  | tick found ok _ own =>
    unfold Chunk.tick at leaves
    split at leaves <;> exact absurd phase leaves
  | _ => simp_all

theorem late_still {chunk next : Chunk} {now : Nat} {action : Action}
    (taken : Taken env setting chunk now action next) (late : ¬Early chunk.phase) (phase : chunk.phase ≠ .processing) :
    next.clusters = chunk.clusters ∧ next.invoked = chunk.invoked ∧ next.phase ≠ .processing := by
  cases taken with
  | persistOpen before =>
    unfold Chunk.persistOpen
    split <;> exact ⟨rfl,rfl,by simp⟩
  | persistWrite ok tx before more =>
    unfold Chunk.persistWrite
    split <;> exact ⟨rfl,rfl,by simp⟩
  | persistCommit ok tx before written =>
    unfold Chunk.persistCommit
    split <;> exact ⟨rfl,rfl,by simp⟩
  | _ => simp_all [Early]

/-- A write of an exceeded job that fails and is caught goes on in the transaction of an error status. -/
theorem exceededWrite_tolerated {chunk : Chunk} {now : Nat} {job : ExceededJob} {hookThrew : Bool} {tx : StatusTx}
    {jobs : List ExceededJob} {ok : Bool}
    (tolerated : (advance env setting now ok tx).isSome = true ∨ hookRuns job = true ∧ hookThrew = false) :
    ∃ threw current, (chunk.exceededWrite env setting now job hookThrew tx jobs ok).phase =
        .exceededTx job threw current jobs ∧
      (chunk.exceededWrite env setting now job hookThrew tx jobs ok).keepAliveViolated = chunk.keepAliveViolated := by
  unfold Chunk.exceededWrite
  split
  · exact ⟨_,_,rfl,rfl⟩
  · rename_i failed
    simp [failed,hookRuns] at tolerated
  · rename_i failed
    simp only [failed,Option.isSome_none,Bool.false_eq_true,hookRuns,false_or,true_and] at tolerated
    simp only [tolerated,Bool.false_eq_true,if_false]
    obtain ⟨opened,same,_⟩ := openExceeded_phase env (chunk.mark tx.nextIds) now (.exceededTries _) true jobs
    rw [same]
    exact ⟨_,_,rfl,rfl⟩

theorem Serving.cluster {chunk next : Chunk} (serving : Serving chunk) {now : Nat} {action : Action}
    {clusters : List (String × List String)} (phase : chunk.phase = .exceeding [])
    (covers : ∀ id ∈ chunk.queueEntriesWithPayloadMap, ∃ cluster ∈ clusters, id ∈ cluster.2)
    (set : next = {chunk with
      clusters := clusters.map (fun cluster => ⟨cluster.1,cluster.2,.waiting⟩),phase := .processing})
    (taken : Taken env setting chunk now action next) : Serving next := by
  subst set
  have waiting : ∀ cluster ∈ clusters.map (fun cluster => (⟨cluster.1,cluster.2,.waiting⟩ : Cluster)),
      cluster.state = .waiting := by
    intro cluster member
    obtain ⟨given,_,rfl⟩ := List.mem_map.mp member
    rfl
  refine serving.lateStep taken ⟨rfl,serving.unharmed.calm,?_⟩ (by simp [jobsLeft,phase]) ?_ ?_ (by simp) rfl
  · intro cluster member
    simp [isRejected,waiting cluster member]
  · intro cluster member
    simp [waiting cluster member,rank]
  · intro _ id listed
    obtain ⟨given,member,own⟩ := covers id listed
    exact ⟨_,List.mem_map_of_mem member,own⟩

theorem Serving.early {chunk next : Chunk} (serving : Serving chunk) {now : Nat} {action : Action}
    (confined : Confined env setting chunk (now,action)) (tolerated : Tolerated env setting chunk (now,action))
    (moved : chunk.step env setting now action = some next) (early : Early chunk.phase) : Serving next := by
  have taken := step_taken env setting chunk next now action moved
  have known := taken
  cases taken with
  | preprocess payloads phase =>
    have unharmed : Unharmed (chunk.preprocess env payloads) := confined _ moved
    have after : (chunk.preprocess env payloads).phase = .exceeding chunk.exceededJobs := by
      have alive := unharmed.alive
      simp only [Chunk.preprocess] at alive ⊢
      split
      · rfl
      · rename_i failed
        simp [failed,isAborted] at alive
    refine serving.exceededStep known (by simp [after,Early]) rfl ?_
    intro job left
    simp only [jobsLeft,phase] at left
    simp only [jobsLeft,after]
    exact Or.inl left
  | exceededOpen hookThrew job jobs phase hooked =>
    obtain ⟨tx,opened,_⟩ := openExceeded_phase env chunk now job hookThrew jobs
    refine serving.exceededStep known (by simp [opened,Early]) (by rw [opened]) ?_
    intro other left
    simp only [jobsLeft,phase] at left
    simp only [jobsLeft,opened]
    exact Or.inl left
  | exceededWrite ok job hookThrew tx jobs phase more =>
    simp only [Tolerated,phase] at tolerated
    obtain ⟨threw,current,still,violated⟩ := exceededWrite_tolerated tolerated
    refine serving.exceededStep known (by simp [still,Early]) violated ?_
    intro other left
    simp only [jobsLeft,phase] at left
    simp only [jobsLeft,still]
    exact Or.inl left
  | exceededCommit ok job hookThrew tx jobs phase written =>
    have success : ok = true := by simpa [Tolerated,phase] using tolerated
    subst success
    have after : (chunk.exceededCommit tx jobs true).phase = .exceeding jobs := rfl
    refine serving.exceededStep known (by simp [after,Early]) rfl ?_
    intro other left
    simp only [jobsLeft,phase,List.mem_cons] at left
    simp only [jobsLeft,after]
    rcases left with rfl | later
    · exact Or.inr (attempted_commit serving.exceeding phase written)
    · exact Or.inl later
  | noPayload phase none =>
    refine serving.lateStep known (confined _ moved) (by simp [jobsLeft,phase]) serving.started (by simp) ?_ rfl
    intro _ _
    simp [none]
  | clusterError phase => exact absurd confined (by simp [Confined])
  | cluster clusters phase valid => exact serving.cluster phase confined rfl known
  | _ => simp_all [Early]

theorem Serving.later {chunk next : Chunk} (serving : Serving chunk) {now : Nat} {action : Action}
    (taken : Taken env setting chunk now action next) (unharmed : Unharmed next) (late : ¬Early chunk.phase) :
    Serving next := by
  have left := (jobsLeft_late late).1
  have after := taken.late late
  have payload : next.queueEntriesWithPayloadMap = chunk.queueEntriesWithPayloadMap := by
    rcases taken.payload with ⟨payloads,rfl⟩ | same
    · have alive := unharmed.alive
      simp only [Chunk.preprocess] at after alive
      split at after <;> simp_all [Early,isAborted]
    · exact same
  by_cases phase : chunk.phase = .processing
  · refine serving.lateStep taken unharmed left (serving.started_step taken unharmed phase)
      (fun _ => serving.covered_step taken phase payload) ?_ payload
    intro _ leaves
    obtain ⟨settled,invoked⟩ := leaves_processing taken phase leaves
    rw [payload,invoked]
    exact serving.all_invoked phase settled
  · obtain ⟨clusters,invoked,outside⟩ := late_still taken late phase
    refine serving.lateStep taken unharmed left ?_ (fun back => absurd back outside) ?_ payload
    · rw [clusters,invoked]
      exact serving.started
    · intro _ _
      rw [payload,invoked]
      exact serving.processed late phase

theorem Serving.step {chunk next : Chunk} (serving : Serving chunk) {now : Nat} {action : Action}
    (confined : Confined env setting chunk (now,action)) (tolerated : Tolerated env setting chunk (now,action))
    (moved : chunk.step env setting now action = some next) : Serving next := by
  by_cases early : Early chunk.phase
  · exact serving.early confined tolerated moved early
  · exact serving.later (step_taken env setting chunk next now action moved) (confined.unharmed moved early) early

theorem Serving.calm {chunk : Chunk} (serving : Serving chunk) {now : Nat} {action : Action} {next : Chunk}
    (confined : Confined env setting chunk (now,action)) (moved : chunk.step env setting now action = some next) :
    Calm chunk action := by
  cases action with
  | tick found ok =>
    have unharmed : Unharmed next := confined next moved
    have taken := step_taken env setting chunk next now _ moved
    cases taken with
    | tick _ _ phase own =>
      have calm := unharmed.calm
      change chunk.outdated found = []
      simpa [Chunk.tick,serving.unharmed.calm] using calm
  | _ => trivial

/-- A failure that is not caught ends the chunk at once. -/
theorem aborted_of_not_tolerated {chunk next : Chunk} {now : Nat} {action : Action}
    (moved : chunk.step env setting now action = some next) (bad : ¬Tolerated env setting chunk (now,action)) :
    next.phase = .aborted := by
  have taken := step_taken env setting chunk next now action moved
  cases taken with
  | exceededWrite ok job hookThrew tx jobs phase more =>
    simp only [Tolerated,phase,not_or,Bool.not_eq_true,Option.isSome_eq_false_iff,Option.isNone_iff_eq_none] at bad
    obtain ⟨failed,outside⟩ := bad
    unfold Chunk.exceededWrite
    cases job with
    | exceededTriesExceeded ids => simp [failed]
    | exceededTries id =>
      have threw : hookThrew = true := by simpa [hookRuns] using outside
      simp [failed,threw]
  | exceededCommit ok job hookThrew tx jobs phase written =>
    have failed : ok = false := by simpa [Tolerated,phase] using bad
    simp [Chunk.exceededCommit,failed]
  | _ => exact absurd trivial bad

/-- The chunk has not been stopped: it can go on, and at its end all open entries were processed and
have a status, and all exceeded ones have one. -/
structure Unstopped (env : Environment) (setting : Setting) (openEvents exceeded : List String) (chunk : Chunk) : Prop where
  alive : chunk.phase ≠ .aborted
  goesOn : chunk.phase ≠ .finished → ∀ now, ∃ action, (chunk.step env setting now action).isSome = true
  processed : chunk.phase = .finished → chunk.queueEntriesWithPayloadMap ⊆ chunk.invoked
  persisted : chunk.phase = .finished → ∀ id ∈ openEvents,
    setting.transactionMode = .isolated ∨ AllowedOutcome env chunk.reports id →
      rowStatus chunk.committed id ∈ allowedStatuses
  attempted : chunk.phase = .finished → ∀ id ∈ exceeded, ∃ update ∈ chunk.committed,
    id ∈ update.ids ∧ update.status ∈ [EventProcessingStatus.Error,EventProcessingStatus.Exceeded]

structure Surviving (env : Environment) (setting : Setting) (openEvents exceededTriesExceeded exceededTries : List String)
    (chunk : Chunk) : Prop where
  base : setting.transactionMode = .isolated → Base chunk
  complete : Complete env setting chunk
  serving : Serving chunk
  entries : chunk.queueEntries = openEvents
  first : chunk.exceededTriesExceeded = exceededTriesExceeded
  second : chunk.eventsWithExceededTries = exceededTries

section
variable {openEvents exceededTriesExceeded exceededTries : List String}

theorem Surviving.unstopped {chunk : Chunk}
    (surviving : Surviving env setting openEvents exceededTriesExceeded exceededTries chunk) :
    Unstopped env setting openEvents (exceededTriesExceeded ++ exceededTries) chunk := by
  have serving := surviving.serving
  have alive : chunk.phase ≠ .aborted := by
    intro aborted
    have kept := serving.unharmed.alive
    simp [aborted,isAborted] at kept
  refine ⟨alive,fun unfinished now => enabled now serving.payload unfinished alive,?_,?_,?_⟩
  · intro finished
    exact serving.processed (by simp [finished,Early]) (by simp [finished])
  · intro finished id listed outcome
    rw [rowStatus_iff chunk.committed surviving.complete.allowed]
    exact (surviving.complete.finished finished id (surviving.entries ▸ listed)).mpr outcome
  · intro finished id listed
    have late : ¬Early chunk.phase := by simp [finished,Early]
    have none := (jobsLeft_late late).1
    have done : ∀ job ∈ chunk.exceededJobs, Attempted chunk job := by
      intro job member
      rcases serving.attempted job member with left | attempted
      · simp [none] at left
      · exact attempted
    rcases List.mem_append.mp listed with batch | single
    · refine done (.exceededTriesExceeded chunk.exceededTriesExceeded) (mem_exceededJobs.mpr (Or.inl ⟨?_,rfl⟩)) id ?_
      · rw [surviving.first]
        exact List.ne_nil_of_mem batch
      · exact surviving.first ▸ batch
    · have listed : .exceededTries id ∈ chunk.exceededJobs :=
        mem_exceededJobs.mpr (Or.inr ⟨id,surviving.second ▸ single,rfl⟩)
      exact done (.exceededTries id) listed id (by simp [ExceededJob.ids])

theorem surviving_selected (env : Environment) (setting : Setting) (timestamp : Nat)
    (distinct : (openEvents ++ exceededTriesExceeded ++ exceededTries).Nodup) :
    Surviving env setting openEvents exceededTriesExceeded exceededTries
      (Chunk.selected openEvents exceededTriesExceeded exceededTries timestamp) where
  base _ := base_selected _ _ _ _
  complete := complete_selected env setting _ _ _ _ distinct
  serving :=
    { unharmed := ⟨rfl,rfl,by simp [Chunk.selected]⟩
      exceeding := exceeding_selected _ _ _ _
      entries := (List.nodup_append.mp (List.nodup_append.mp distinct).1).1
      payload := List.nodup_nil
      covered := by simp [Chunk.selected]
      started := by simp [Chunk.selected]
      processed := by simp [Chunk.selected]
      attempted := fun job member => Or.inl member }
  entries := rfl
  first := rfl
  second := rfl

theorem Surviving.step {chunk next : Chunk}
    (surviving : Surviving env setting openEvents exceededTriesExceeded exceededTries chunk) {now : Nat} {action : Action}
    (confined : Confined env setting chunk (now,action)) (tolerated : Tolerated env setting chunk (now,action))
    (moved : chunk.step env setting now action = some next) :
    Surviving env setting openEvents exceededTriesExceeded exceededTries next := by
  have taken := step_taken env setting chunk next now action moved
  obtain ⟨entries,_,tries,exceeded⟩ := taken.fixed
  exact
    { base := fun isolated => (surviving.base isolated).step now action isolated taken
      complete := surviving.complete.step surviving.base now action (surviving.serving.calm confined moved) taken
      serving := surviving.serving.step confined tolerated moved
      entries := entries.trans surviving.entries
      first := exceeded.trans surviving.first
      second := tries.trans surviving.second }

end

/-- With failures in the transactions of exceeded entries only, a chunk goes on to its end exactly if
`handleExceededEvents` catches each of them. -/
theorem exceeded_failures_survived_iff (env : Environment) (setting : Setting)
    (openEvents exceededTriesExceeded exceededTries : List String) (timestamp : Nat) (actions : List (Nat × Action))
    (distinct : (openEvents ++ exceededTriesExceeded ++ exceededTries).Nodup)
    (confined : Transition.Along (timed env setting) (Confined env setting)
      (Chunk.selected openEvents exceededTriesExceeded exceededTries timestamp) actions) :
    (∀ first chunk, first <+: actions → Transition.run (timed env setting)
        (Chunk.selected openEvents exceededTriesExceeded exceededTries timestamp) first = some chunk →
      Unstopped env setting openEvents (exceededTriesExceeded ++ exceededTries) chunk) ↔
    Transition.Along (timed env setting)
      (fun chunk entry => (chunk.timed env setting entry).isSome → Tolerated env setting chunk entry)
      (Chunk.selected openEvents exceededTriesExceeded exceededTries timestamp) actions := by
  apply Transition.always_iff_along_assuming (timed env setting) (Confined env setting) _
    (Surviving env setting openEvents exceededTriesExceeded exceededTries)
  · exact fun chunk surviving => surviving.unstopped
  · intro chunk entry refused possible
    simp [refused] at possible
  · rintro chunk ⟨now,action⟩ next surviving _ moved unstopped _
    by_contra bad
    exact unstopped.alive (aborted_of_not_tolerated moved bad)
  · rintro chunk ⟨now,action⟩ next surviving holds tolerated moved
    have possible : (chunk.timed env setting (now,action)).isSome := by
      simp [timed,show chunk.step env setting now action = some next from moved]
    exact surviving.step holds (tolerated possible) moved
  · exact surviving_selected env setting timestamp distinct
  · exact confined

instance (chunk : Chunk) : Decidable (Unharmed chunk) :=
  decidable_of_iff (isAborted chunk.phase = false ∧ chunk.keepAliveViolated = false ∧
      ∀ cluster ∈ chunk.clusters, isRejected cluster = false)
    ⟨fun facts => ⟨facts.1,facts.2.1,facts.2.2⟩,fun unharmed => ⟨unharmed.alive,unharmed.calm,unharmed.accepted⟩⟩

instance (env : Environment) (setting : Setting) (chunk : Chunk) (entry : Nat × Action) :
    Decidable (Confined env setting chunk entry) := by
  unfold Confined
  split <;> infer_instance

instance (env : Environment) (setting : Setting) (chunk : Chunk) (entry : Nat × Action) :
    Decidable (Tolerated env setting chunk entry) := by
  unfold Tolerated
  split <;> infer_instance

/-- An open and an exceeded entry; the hook throws, or the commit after it fails. -/
def hookThrows : List (Nat × Action) :=
  [(100,.preprocess (fun _ => .value)),(100,.exceededOpen true),(101,.exceededWrite true),(101,.exceededCommit true),
    (102,.cluster (some [("e1",["e1"])])),(102,.launch 0),(102,.processEvent 0 true),
    (103,.report 0 (.returned (.arr [.arr [.str "e1",.nat 2]]))),(103,.settle 0 false true),(103,.write 0 true),
    (103,.commit 0 true),(104,.endMap true),(104,.persistOpen),(104,.persistCommit true)]

def hookCommitFails : List (Nat × Action) :=
  [(100,.preprocess (fun _ => .value)),(100,.exceededOpen false),(101,.exceededWrite true),(101,.exceededCommit false)]

def isolatedChunk : Setting := ⟨.isolated,1,⟨300000,10000⟩⟩

theorem exceeded_failures_survived_iff_hook :
    ∃ chunk, Transition.run (timed .plain isolatedChunk) (Chunk.selected ["e1"] [] ["x"] 100) hookThrows = some chunk ∧
      chunk.phase = .finished ∧ Unstopped .plain isolatedChunk ["e1"] ["x"] chunk := by
  have computed : (Transition.run (timed .plain isolatedChunk) (Chunk.selected ["e1"] [] ["x"] 100) hookThrows).map
      (fun chunk => isFinished chunk.phase) = some true := by decide
  obtain ⟨chunk,reached,finished⟩ := Option.map_eq_some_iff.mp computed
  refine ⟨chunk,reached,(isFinished_iff chunk.phase).mp finished,?_⟩
  exact (exceeded_failures_survived_iff .plain isolatedChunk ["e1"] [] ["x"] 100 hookThrows (by decide) (by decide)).mpr
    (by decide) hookThrows chunk List.prefix_rfl reached

/-- The commit of the hook transaction fails: the open entry is never clustered. -/
theorem hook_commit_failure_stops_chunk :
    ∃ chunk, Transition.run (timed .plain isolatedChunk) (Chunk.selected ["e1"] [] ["x"] 100) hookCommitFails = some chunk ∧
      Transition.Along (timed .plain isolatedChunk) (Confined .plain isolatedChunk)
        (Chunk.selected ["e1"] [] ["x"] 100) hookCommitFails ∧
      chunk.phase = .aborted ∧ "e1" ∈ chunk.queueEntriesWithPayloadMap ∧ chunk.invoked = [] ∧
      rowStatus chunk.committed "e1" = EventProcessingStatus.InProgress := by
  refine ⟨_,rfl,by decide,rfl,by decide,rfl,rfl⟩

end EventQueue.Chunk

import EventQueue.ChunkFrame

/-! `handleExceededEvents`: which statuses its transactions write, in which order its jobs are
taken, and how often `hookForExceededEvents` is still to be called for an entry. -/
namespace EventQueue.Chunk
open Js (Value)

variable {env : Environment} {setting : Setting}

/-- The status the transaction of a job sets. -/
def exceededStatus (hookThrew : Bool) : Nat :=
  if hookThrew then EventProcessingStatus.Error else EventProcessingStatus.Exceeded

/-- The jobs that are not yet committed. -/
def jobsLeft (chunk : Chunk) : List ExceededJob :=
  match chunk.phase with
  | .preprocessing => chunk.exceededJobs
  | .exceeding jobs => jobs
  | .exceededTx job _ _ jobs => job::jobs
  | .processing | .persisting | .persistTx _ | .finished | .aborted => []

theorem mem_exceededJobs {chunk : Chunk} {job : ExceededJob} :
    job ∈ chunk.exceededJobs ↔
      chunk.exceededTriesExceeded ≠ [] ∧ job = .exceededTriesExceeded chunk.exceededTriesExceeded ∨
        ∃ id ∈ chunk.eventsWithExceededTries, job = .exceededTries id := by
  unfold Chunk.exceededJobs
  rw [List.mem_append,List.mem_map]
  refine or_congr ?_ (by simp [eq_comm])
  split
  · rename_i empty
    simp [List.isEmpty_iff.mp empty]
  · rename_i more
    rw [List.mem_singleton]
    exact (and_iff_right (by simpa using more)).symm

theorem exceededStatusMap_iff (ids : List String) (status : Nat) (id : String) (value : Value) :
    (exceededStatusMap ids status).get? id = some value ↔ id ∈ ids ∧ value = updateDataOf (.nat status) .undefined := by
  rw [exceededStatusMap,Dict.get?_setAll]
  split
  · rename_i listed
    simp [listed,eq_comm]
  · rename_i absent
    simp [absent,Dict.empty,Dict.get?]

theorem exceeded_writes {now : Nat} {selectedEventMap ids : List String} {status : Nat} {tx : StatusTx}
    (selected : ids ⊆ selectedEventMap) (allowed : status ∈ allowedStatuses)
    (opened : (persistChecked selectedEventMap (exceededStatusMap ids status)).bind (StatusTx.open env now) = some tx)
    (id : String) (number : Nat) : (id,number) ∈ tx.writes ↔ id ∈ ids ∧ number = status := by
  constructor
  · intro written
    obtain ⟨_,_,value,found,stands⟩ := opened_writes opened written
    obtain ⟨listed,fixed⟩ := exceededStatusMap_get _ _ _ _ found
    exact ⟨listed,stands_unique stands fixed⟩
  · rintro ⟨listed,rfl⟩
    obtain ⟨checked,known,started⟩ := Option.bind_eq_some_iff.mp opened
    have spec := persistChecked_get _ _ _ known
    obtain ⟨data,normalized,same⟩ := stands_updateDataOf number .undefined
    refine (open_writes env now checked tx (fun name data found => ((spec name data).mp found).2.1) started _ _).mpr ?_
    refine ⟨data,(spec id data).mpr ⟨selected listed,(hasStatus_iff _ _).mpr ⟨number,allowed,same⟩,?_⟩,
      (statusNumber_iff _ _).mpr ⟨allowed,same⟩⟩
    rw [(exceededStatusMap_iff ids number id _).mpr ⟨listed,rfl⟩]
    exact normalized

structure Exceeding (chunk : Chunk) : Prop where
  selected : ∀ job ∈ chunk.exceededJobs, job.ids ⊆ chunk.selectedEventMap
  left : chunk.jobsLeft ⊆ chunk.exceededJobs
  writes : ∀ job hookThrew tx jobs, chunk.phase = .exceededTx job hookThrew tx jobs → ∀ id status,
    (id,status) ∈ tx.writes ↔ id ∈ job.ids ∧ status = exceededStatus hookThrew
  unhooked : ∀ job hookThrew tx jobs, chunk.phase = .exceededTx job hookThrew tx jobs → hookRuns job = false →
    hookThrew = false
  handled : ∀ ids, .exceededTriesExceeded ids ∈ chunk.exceededJobs → .exceededTriesExceeded ids ∉ chunk.jobsLeft →
    chunk.phase ≠ .aborted → ∀ id ∈ ids, ∃ update ∈ chunk.committed,
      id ∈ update.ids ∧ update.status = EventProcessingStatus.Exceeded

theorem Exceeding.abort {chunk next : Chunk} (exceeding : Exceeding chunk)
    (jobs : next.exceededJobs = chunk.exceededJobs) (selected : next.selectedEventMap = chunk.selectedEventMap)
    (phase : next.phase = .aborted) : Exceeding next where
  selected := by
    rw [jobs,selected]
    exact exceeding.selected
  left := by simp [jobsLeft,phase]
  writes := by simp [phase]
  unhooked := by simp [phase]
  handled := by simp [phase]

/-- A step that leaves the exceeded entries to themselves. -/
theorem Exceeding.other {chunk next : Chunk} (exceeding : Exceeding chunk)
    (jobs : next.exceededJobs = chunk.exceededJobs) (selected : next.selectedEventMap = chunk.selectedEventMap)
    (committed : chunk.committed ⊆ next.committed) (left : next.jobsLeft = chunk.jobsLeft)
    (before : chunk.phase ≠ .aborted)
    (writes : ∀ job hookThrew tx jobs, next.phase ≠ .exceededTx job hookThrew tx jobs) : Exceeding next where
  selected := by
    rw [jobs,selected]
    exact exceeding.selected
  left := by
    rw [jobs,left]
    exact exceeding.left
  writes job hookThrew tx jobs phase := absurd phase (writes job hookThrew tx jobs)
  unhooked job hookThrew tx jobs phase := absurd phase (writes job hookThrew tx jobs)
  handled ids listed done _ id inside := by
    rw [jobs] at listed
    rw [left] at done
    obtain ⟨update,member,found⟩ := exceeding.handled ids listed done before id inside
    exact ⟨update,committed member,found⟩

theorem Exceeding.openExceeded {chunk next : Chunk} (exceeding : Exceeding chunk) {now : Nat} {job : ExceededJob}
    {hookThrew : Bool} {jobs : List ExceededJob} (same : next.exceededJobs = chunk.exceededJobs)
    (selected : next.selectedEventMap = chunk.selectedEventMap) (committed : next.committed = chunk.committed)
    (left : chunk.jobsLeft = job::jobs) (before : chunk.phase ≠ .aborted)
    (plain : hookRuns job = false → hookThrew = false) :
    Exceeding (next.openExceeded env now job hookThrew jobs) := by
  unfold Chunk.openExceeded
  simp only
  split
  · exact exceeding.abort same selected rfl
  · rename_i tx opened
    refine ⟨?_,?_,?_,?_,?_⟩
    · change ∀ job ∈ next.exceededJobs, job.ids ⊆ next.selectedEventMap
      rw [same,selected]
      exact exceeding.selected
    · change job::jobs ⊆ next.exceededJobs
      rw [same,← left]
      exact exceeding.left
    · intro other threw current rest phase
      cases phase
      have own : job ∈ chunk.exceededJobs := exceeding.left (left ▸ List.mem_cons_self)
      refine exceeded_writes (selected ▸ exceeding.selected job own) ?_ opened
      unfold exceededStatus
      split <;> decide
    · intro other threw current rest phase
      cases phase
      exact plain
    · intro ids listed done _ id inside
      change ExceededJob.exceededTriesExceeded ids ∈ next.exceededJobs at listed
      change ExceededJob.exceededTriesExceeded ids ∉ job::jobs at done
      rw [same] at listed
      rw [← left] at done
      change ∃ update ∈ next.committed,_
      rw [committed]
      exact exceeding.handled ids listed done before id inside

theorem Exceeding.exceededWrite {chunk : Chunk} (exceeding : Exceeding chunk) {now : Nat} {job : ExceededJob}
    {hookThrew : Bool} {tx : StatusTx} {jobs : List ExceededJob} {ok : Bool}
    (phase : chunk.phase = .exceededTx job hookThrew tx jobs) :
    Exceeding (chunk.exceededWrite env setting now job hookThrew tx jobs ok) := by
  have left : chunk.jobsLeft = job::jobs := by simp [jobsLeft,phase]
  unfold Chunk.exceededWrite
  split
  · rename_i other next moved
    refine ⟨exceeding.selected,?_,?_,?_,?_⟩
    · intro other member
      exact exceeding.left (left ▸ member)
    · intro job threw current rest same
      cases same
      rw [advance_writes moved]
      exact exceeding.writes _ _ _ _ phase
    · intro job threw current rest same
      cases same
      exact exceeding.unhooked _ _ _ _ phase
    · intro ids listed done _
      exact exceeding.handled ids listed (left ▸ done) (by simp [phase])
  · exact exceeding.abort rfl rfl rfl
  · split
    · exact exceeding.abort rfl rfl rfl
    · exact exceeding.openExceeded rfl rfl rfl left (by simp [phase]) (by simp [hookRuns])

theorem Exceeding.exceededCommit {chunk : Chunk} (exceeding : Exceeding chunk) {job : ExceededJob}
    {hookThrew : Bool} {tx : StatusTx} {jobs : List ExceededJob} {ok : Bool}
    (phase : chunk.phase = .exceededTx job hookThrew tx jobs) (written : tx.groups = []) :
    Exceeding (chunk.exceededCommit tx jobs ok) := by
  have left : chunk.jobsLeft = job::jobs := by simp [jobsLeft,phase]
  unfold Chunk.exceededCommit
  split
  · refine ⟨exceeding.selected,?_,by simp,by simp,?_⟩
    · intro other member
      exact exceeding.left (left ▸ List.mem_cons_of_mem _ member)
    · intro ids listed done _ id inside
      by_cases current : job = .exceededTriesExceeded ids
      · subst current
        have plain := exceeding.unhooked _ _ _ _ phase rfl
        have planned := (exceeding.writes _ _ _ _ phase id _).mpr ⟨inside,rfl⟩
        simp only [StatusTx.writes,written,List.flatMap_nil,List.append_nil] at planned
        obtain ⟨update,member,found⟩ := List.mem_flatMap.mp planned
        obtain ⟨name,own,same⟩ := List.mem_map.mp found
        obtain ⟨rfl,status⟩ := Prod.mk.inj same
        exact ⟨update,List.mem_append_right _ member,own,by simpa [exceededStatus,plain] using status⟩
      · have before : ExceededJob.exceededTriesExceeded ids ∉ chunk.jobsLeft := by
          rw [left,List.mem_cons,not_or]
          exact ⟨fun equal => current equal.symm,done⟩
        obtain ⟨update,member,found⟩ := exceeding.handled ids listed before (by simp [phase]) id inside
        exact ⟨update,List.mem_append_left _ member,found⟩
  · exact exceeding.abort rfl rfl rfl

theorem jobsLeft_late {chunk : Chunk} (late : ¬Early chunk.phase) :
    chunk.jobsLeft = [] ∧ ∀ job hookThrew tx jobs, chunk.phase ≠ .exceededTx job hookThrew tx jobs := by
  unfold jobsLeft
  cases phase : chunk.phase <;> simp_all [Early]

theorem Exceeding.later {chunk next : Chunk} (exceeding : Exceeding chunk) {now : Nat} {action : Action}
    (taken : Taken env setting chunk now action next) (done : chunk.jobsLeft = []) (before : chunk.phase ≠ .aborted)
    (late : ¬Early next.phase) : Exceeding next := by
  obtain ⟨_,selected,tries,exceeded⟩ := taken.fixed
  obtain ⟨after,plain⟩ := jobsLeft_late late
  refine exceeding.other ?_ selected ?_ (after.trans done.symm) before plain
  · simp [Chunk.exceededJobs,tries,exceeded]
  · rw [taken.committed]
    exact List.subset_append_left _ _

theorem Taken.notAborted {chunk next : Chunk} {now : Nat} {action : Action}
    (taken : Taken env setting chunk now action next) : chunk.phase ≠ .aborted := by
  cases taken <;> simp_all

theorem Exceeding.step {chunk next : Chunk} (exceeding : Exceeding chunk) {now : Nat} {action : Action}
    (taken : Taken env setting chunk now action next) : Exceeding next := by
  have moved := taken
  by_cases late : Early chunk.phase
  · cases taken with
    | preprocess payloads phase =>
      unfold Chunk.preprocess
      simp only
      split
      · refine exceeding.other rfl rfl (List.Subset.refl _) ?_ (by simp [phase]) (by simp)
        simp [jobsLeft,phase]
      · exact exceeding.abort rfl rfl rfl
    | exceededOpen hookThrew job jobs phase hooked =>
      exact exceeding.openExceeded rfl rfl rfl (by simp [jobsLeft,phase]) (by simp [phase]) hooked
    | exceededWrite ok job hookThrew tx jobs phase more => exact exceeding.exceededWrite phase
    | exceededCommit ok job hookThrew tx jobs phase written => exact exceeding.exceededCommit phase written
    | noPayload phase none => exact exceeding.later moved (by simp [jobsLeft,phase]) (by simp [phase]) (by simp [Early])
    | clusterError phase =>
      refine exceeding.later moved (by simp [jobsLeft,phase]) (by simp [phase]) ?_
      simp only [Chunk.handleErrorOfChunk]
      split <;> simp [Early]
    | cluster clusters phase valid =>
      exact exceeding.later moved (by simp [jobsLeft,phase]) (by simp [phase]) (by simp [Early])
    | _ => simp_all [Early]
  · exact exceeding.later moved (jobsLeft_late late).1 moved.notAborted (moved.late late)

theorem exceeding_selected (openEvents exceededTriesExceeded exceededTries : List String) (timestamp : Nat) :
    Exceeding (Chunk.selected openEvents exceededTriesExceeded exceededTries timestamp) where
  selected := by
    intro job member id listed
    rcases mem_exceededJobs.mp member with ⟨_,rfl⟩ | ⟨other,inside,rfl⟩
    · exact List.mem_append_left _ (List.mem_append_right _ listed)
    · rw [List.mem_singleton.mp listed]
      exact List.mem_append_right _ inside
  left := fun _ member => member
  writes := by simp [Chunk.selected]
  unhooked := by simp [Chunk.selected]
  handled := by
    intro ids listed absent
    exact absurd listed absent

end EventQueue.Chunk

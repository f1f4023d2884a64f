import EventQueue.Chunk

/-! The keep-alive transaction of `continuesKeepAlive`, cut at the places where it can fail. The
timestamps the processor expects are changed in the body of the transaction, before its update and
its commit. -/
namespace EventQueue.Chunk

inductive TickFailure
  | renewDistributedLock
  | select
  | update
  | commit
  deriving DecidableEq

structure FailedTick where
  newTs : Nat
  /-- The rows of the open entries in progress with their `lastAttemptTimestamp`. -/
  found : List (String × Option Nat)
  failure : TickFailure

/-- The processor after a failed keep-alive transaction; none if it cannot fail there. -/
def failedTick (chunk : Chunk) (tick : FailedTick) : Option Chunk :=
  match tick.failure with
  | .renewDistributedLock => if chunk.notCommitedStatusMap.isEmpty then none else some chunk
  | .select => if chunk.notCommitedStatusMap.isEmpty || chunk.keepAliveViolated then none else some chunk
  | .update =>
    if chunk.notCommitedStatusMap.isEmpty || chunk.keepAliveViolated || (chunk.valid tick.found).isEmpty then none
    else some (chunk.tick tick.newTs tick.found)
  | .commit =>
    if chunk.notCommitedStatusMap.isEmpty then some chunk else some (chunk.tick tick.newTs tick.found)

/-- The `succeeded` handler of the transaction. -/
def tickSucceeded (newTs : Nat) (found : List (String × Option Nat)) (chunk : Chunk) : Chunk :=
  {chunk with etagMap := found.foldl (fun etags row =>
    if row.2.isSome && etags.get? row.1 == row.2 then etags.set row.1 newTs else etags) chunk.etagMap}

/-- A keep-alive transaction that commits: the processor, and the rows whose timestamp it refreshes. -/
def succeededTick (newTs : Nat) (found : List (String × Option Nat)) (chunk : Chunk) : Chunk × List String :=
  if chunk.notCommitedStatusMap.isEmpty || chunk.keepAliveViolated then (chunk,[])
  else ((chunk.tick newTs found).tickSucceeded newTs found,chunk.valid found)

/-- The rows still carry the timestamps the processor has written last. -/
def Expected (chunk : Chunk) (found : List (String × Option Nat)) : Prop :=
  ∀ row ∈ found, row.2.isSome = true ∧ chunk.etagMap.get? row.1 = row.2

/-- What the processor knows about its entries is the same. -/
structure SameOwnership (before after : Chunk) : Prop where
  etagMap : ∀ id, after.etagMap.get? id = before.etagMap.get? id
  outdatedEventMap : after.outdatedEventMap = before.outdatedEventMap
  keepAliveViolated : after.keepAliveViolated = before.keepAliveViolated
  notCommitedStatusMap : after.notCommitedStatusMap = before.notCommitedStatusMap

/-- A next tick on unchanged rows goes on as if there had been no failed one. -/
def GoesOn (before after : Chunk) : Prop :=
  ∀ newTs found, before.keepAliveViolated = false → before.notCommitedStatusMap ≠ [] → before.Expected found →
    (after.succeededTick newTs found).1.outdatedEventMap = before.outdatedEventMap ∧
    (after.succeededTick newTs found).1.keepAliveViolated = false ∧
    (after.succeededTick newTs found).2 = found.map Prod.fst

def ChangesNothing (before after : Chunk) : Prop := SameOwnership before after ∧ GoesOn before after

theorem valid_eq_of_expected {chunk : Chunk} {found : List (String × Option Nat)} (expected : chunk.Expected found) :
    chunk.valid found = found.map Prod.fst ∧ chunk.outdated found = [] := by
  have every : ∀ row ∈ found, (row.2.isSome && chunk.etagMap.get? row.1 == row.2) = true := by
    intro row member
    obtain ⟨set,same⟩ := expected row member
    simp [set,same]
  constructor
  · rw [valid,List.filter_eq_self.mpr every]
  · rw [outdated,List.map_eq_nil_iff,List.filter_eq_nil_iff]
    intro row member
    simp [every row member]

theorem SameOwnership.goesOn {before after : Chunk} (same : SameOwnership before after) : GoesOn before after := by
  intro newTs found alive open_ expected
  have known : after.Expected found := fun row member => ⟨(expected row member).1,by
    rw [same.etagMap]
    exact (expected row member).2⟩
  obtain ⟨all,none⟩ := valid_eq_of_expected known
  have going : after.keepAliveViolated = false := same.keepAliveViolated.trans alive
  have left : after.notCommitedStatusMap.isEmpty = false := by
    rw [same.notCommitedStatusMap]
    simpa using open_
  simp only [succeededTick,left,going,Bool.or_false,Bool.false_eq_true,if_false,all]
  refine ⟨?_,?_,trivial⟩
  · simp [tickSucceeded,tick,going,none,same.outdatedEventMap]
  · simp [tickSucceeded,tick,going,none]

/-- The failed transaction has not reached its loop, or the loop has nothing to change. -/
def Harmless (chunk : Chunk) (tick : FailedTick) : Prop :=
  tick.failure = .renewDistributedLock ∨ tick.failure = .select ∨ chunk.notCommitedStatusMap = [] ∨
    chunk.keepAliveViolated = true ∨
    ∀ row ∈ tick.found, row.2 = some tick.newTs ∧ chunk.etagMap.get? row.1 = some tick.newTs

theorem tick_sameOwnership_iff {chunk : Chunk} (newTs : Nat) (found : List (String × Option Nat))
    (alive : chunk.keepAliveViolated = false) :
    SameOwnership chunk (chunk.tick newTs found) ↔
      ∀ row ∈ found, row.2 = some newTs ∧ chunk.etagMap.get? row.1 = some newTs := by
  constructor
  · intro same row member
    have none : chunk.outdated found = [] := by
      have still := same.keepAliveViolated
      simpa [tick,alive] using still
    have fresh : (row.2.isSome && chunk.etagMap.get? row.1 == row.2) = true := by
      by_contra other
      have listed : row ∈ found.filter (fun row => !(row.2.isSome && chunk.etagMap.get? row.1 == row.2)) := by
        rw [List.mem_filter,Bool.eq_false_of_not_eq_true other]
        exact ⟨member,rfl⟩
      have named : row.1 ∈ chunk.outdated found := List.mem_map_of_mem listed
      rw [none] at named
      cases named
    have own : row.1 ∈ chunk.valid found := List.mem_map_of_mem (List.mem_filter.mpr ⟨member,fresh⟩)
    have written := same.etagMap row.1
    simp only [tick,alive,Bool.false_eq_true,if_false,Dict.get?_setAll,own,if_true] at written
    simp only [Bool.and_eq_true,beq_iff_eq] at fresh
    exact ⟨fresh.2.symm.trans written.symm,written.symm⟩
  · intro stands
    have expected : chunk.Expected found := by
      intro row member
      obtain ⟨set,same⟩ := stands row member
      exact ⟨by simp [set],same.trans set.symm⟩
    obtain ⟨all,none⟩ := valid_eq_of_expected expected
    refine ⟨?_,?_,?_,?_⟩
    · intro id
      simp only [tick,alive,Bool.false_eq_true,if_false,Dict.get?_setAll,all]
      split
      · rename_i listed
        obtain ⟨row,member,rfl⟩ := List.mem_map.mp listed
        exact (stands row member).2.symm
      · rfl
    · simp [tick,alive,none]
    · simp [tick,alive,none]
    · simp [tick,alive]

theorem sameOwnership_refl (chunk : Chunk) : SameOwnership chunk chunk := ⟨fun _ => rfl,rfl,rfl,rfl⟩

theorem SameOwnership.trans {first second third : Chunk} (one : SameOwnership first second)
    (two : SameOwnership second third) : SameOwnership first third :=
  ⟨fun id => (two.etagMap id).trans (one.etagMap id),two.outdatedEventMap.trans one.outdatedEventMap,
    two.keepAliveViolated.trans one.keepAliveViolated,two.notCommitedStatusMap.trans one.notCommitedStatusMap⟩

theorem SameOwnership.symm {first second : Chunk} (same : SameOwnership first second) : SameOwnership second first :=
  ⟨fun id => (same.etagMap id).symm,same.outdatedEventMap.symm,same.keepAliveViolated.symm,
    same.notCommitedStatusMap.symm⟩

theorem failedTick_cases {chunk next : Chunk} {tick : FailedTick} (failed : chunk.failedTick tick = some next) :
    next = chunk ∧ Harmless chunk tick ∨
      next = chunk.tick tick.newTs tick.found ∧ (tick.failure = .update ∨ tick.failure = .commit) ∧
        chunk.notCommitedStatusMap ≠ [] := by
  unfold failedTick at failed
  split at failed
  · rename_i failure
    split at failed
    · cases failed
    · cases failed
      exact Or.inl ⟨rfl,Or.inl failure⟩
  · rename_i failure
    split at failed
    · cases failed
    · cases failed
      exact Or.inl ⟨rfl,Or.inr (Or.inl failure)⟩
  · rename_i failure
    split at failed
    · cases failed
    · rename_i open_
      cases failed
      refine Or.inr ⟨rfl,Or.inl failure,?_⟩
      intro none
      simp [none] at open_
  · rename_i failure
    split at failed
    · rename_i none
      cases failed
      exact Or.inl ⟨rfl,Or.inr (Or.inr (Or.inl (List.isEmpty_iff.mp none)))⟩
    · rename_i open_
      cases failed
      exact Or.inr ⟨rfl,Or.inr failure,by simpa using open_⟩

theorem failedTick_same_iff {chunk next : Chunk} {tick : FailedTick} (failed : chunk.failedTick tick = some next) :
    SameOwnership chunk next ↔ Harmless chunk tick := by
  rcases failedTick_cases failed with ⟨rfl,harmless⟩ | ⟨rfl,late,open_⟩
  · exact ⟨fun _ => harmless,fun _ => sameOwnership_refl _⟩
  · by_cases alive : chunk.keepAliveViolated = true
    · have kept : chunk.tick tick.newTs tick.found = chunk := by simp [Chunk.tick,alive]
      rw [kept]
      exact ⟨fun _ => Or.inr (Or.inr (Or.inr (Or.inl alive))),fun _ => sameOwnership_refl _⟩
    · rw [Bool.not_eq_true] at alive
      rw [tick_sameOwnership_iff _ _ alive]
      constructor
      · exact fun stands => Or.inr (Or.inr (Or.inr (Or.inr stands)))
      · rintro (lock | select | none | violated | stands)
        · simp [lock] at late
        · simp [select] at late
        · exact absurd none open_
        · simp [alive] at violated
        · exact stands

/-- Any number of failed ticks changes nothing exactly if each of them is harmless. -/
theorem failed_ticks_change_nothing_iff (start : Chunk) (ticks : List FailedTick) :
    (∀ first chunk, first <+: ticks → Transition.run failedTick start first = some chunk → ChangesNothing start chunk) ↔
      Transition.Along failedTick (fun chunk tick => (chunk.failedTick tick).isSome → Harmless chunk tick) start ticks := by
  apply Transition.always_iff_along failedTick _ (SameOwnership start) (ChangesNothing start)
  · exact fun chunk same => ⟨same,same.goesOn⟩
  · intro chunk tick refused possible
    simp [refused] at possible
  · intro chunk tick next same failed nothing _
    exact (failedTick_same_iff failed).mp (same.symm.trans nothing.1)
  · intro chunk tick next same harmless failed
    exact same.trans ((failedTick_same_iff failed).mpr (harmless (by simp [failed])))
  · exact sameOwnership_refl start

/-- The commit of the first tick fails; the second tick takes its own old timestamp for a foreign one. -/
theorem failed_commit_violates_keep_alive :
    let start := Chunk.selected ["e1"] [] [] 1
    ∃ chunk, Transition.run failedTick start [⟨2,[("e1",some 1)],.commit⟩] = some chunk ∧
      ¬ChangesNothing start chunk ∧ start.Expected [("e1",some 1)] ∧
      (chunk.succeededTick 3 [("e1",some 1)]).1.outdatedEventMap = ["e1"] ∧
      (chunk.succeededTick 3 [("e1",some 1)]).1.keepAliveViolated = true ∧
      (chunk.succeededTick 3 [("e1",some 1)]).2 = [] := by
  refine ⟨_,rfl,?_,by simp [Expected,Chunk.selected,Dict.get?_set],by decide,by decide,by decide⟩
  intro nothing
  have kept := nothing.1.etagMap "e1"
  exact absurd kept (by decide)

end EventQueue.Chunk

import EventQueue.WorkerQueue

/-! Priority ageing by `#adjustPriority`. An entry should go up one level when it has waited for more than three
minutes since it was enqueued or last raised. The pass removes entries from the array it is indexing, and it reads
the time of the first raise, not of the last one. -/
namespace EventQueue.WorkerQueue
open Transition

/-- More than three minutes since the entry was enqueued or, if it was raised before, since it was last raised. -/
def overdue (checkTime : Nat) (entry : Entry) : Bool :=
  entry.increasePriorityOverTime &&
    decide (INCREASE_PRIORITY_AFTER * MIN_TO_MS * NANO_TO_MS <
      checkTime - entry.shifts.getLast?.getD entry.startTime)

def Entry.raise (checkTime : Nat) (entry : Entry) : Entry := {entry with shifts := entry.shifts ++ [checkTime]}

/-- The entries that should leave their queue, as they look when they have been raised. -/
def raised (checkTime : Nat) (entries : List Entry) : List Entry :=
  (entries.filter (overdue checkTime)).map (Entry.raise checkTime)

/-- The entries that should stay on their level. -/
def staying (checkTime : Nat) (state : State) : Priorities → List Entry
  | .veryHigh => state.queue .veryHigh
  | priority => (state.queue priority).filter (fun entry => !overdue checkTime entry)

/-- The entries that should come up from the level below. -/
def arriving (checkTime : Nat) (state : State) : Priorities → List Entry
  | .low => []
  | .medium => raised checkTime (state.queue .low)
  | .high => raised checkTime (state.queue .medium)
  | .veryHigh => raised checkTime (state.queue .high)

/-- Exactly the overdue entries below the top level are one level higher, and both those that stay and those that
move together keep their order. -/
def AgedByOneLevel (checkTime : Nat) (before after : State) : Prop :=
  ∀ priority, (after.queue priority).Perm (staying checkTime before priority ++ arriving checkTime before priority) ∧
    (staying checkTime before priority).Sublist (after.queue priority) ∧
    (arriving checkTime before priority).Sublist (after.queue priority)

/-- A queue through which the index passes without a miss: overdue entries have waited for half a millisecond more,
none of them stands directly behind another one, and an entry that is due only by the time of its first raise
stands directly behind one. -/
structure Scannable (checkTime : Nat) (entries : List Entry) : Prop where
  rounded : ∀ entry ∈ entries, overdue checkTime entry = true → due checkTime entry = true
  apart : entries.IsChain (fun entry next => overdue checkTime entry = true → overdue checkTime next = false)
  first : ∀ entry ∈ entries.head?, due checkTime entry = true → overdue checkTime entry = true
  behind : entries.IsChain (fun entry next => due checkTime next = true →
    overdue checkTime next = true ∨ overdue checkTime entry = true)

/-- What a pass finds in a queue: its entries and behind them those that come up from the level below. -/
def scanned (checkTime : Nat) (state : State) (priority : Priorities) : List Entry :=
  state.queue priority ++ arriving checkTime state priority

def NothingMissed (checkTime : Nat) (state : State) : Prop :=
  ∀ priority, priority ≠ .veryHigh → Scannable checkTime (scanned checkTime state priority)

section
variable {checkTime : Nat}

theorem overdue_raise (entry : Entry) : overdue checkTime (entry.raise checkTime) = false := by
  simp [overdue,Entry.raise]

theorem filter_raised (entries : List Entry) :
    (raised checkTime entries).filter (fun entry => !overdue checkTime entry) = raised checkTime entries := by
  apply List.filter_eq_self.mpr
  intro entry member
  obtain ⟨origin,_,rfl⟩ := List.mem_map.mp member
  simp [overdue_raise]

theorem adjustEntries_sublist (entries : List Entry) : (adjustEntries checkTime entries).1.Sublist entries := by
  fun_induction adjustEntries checkTime entries with
  | case1 => exact List.Sublist.refl _
  | case2 head late => exact List.nil_sublist _
  | case3 head early => exact List.Sublist.refl _
  | case4 head next rest late kept moved split ih =>
    rw [split] at ih
    exact (ih.cons_cons next).cons head
  | case5 head next rest early kept moved split ih =>
    rw [split] at ih
    exact ih.cons_cons head

/-- The part of a queue that should stay is the longest part of it without overdue entries. -/
theorem eq_filter_of_sublist {kept entries : List Entry} (part : kept.Sublist entries)
    (fresh : ∀ entry ∈ kept, overdue checkTime entry = false)
    (long : (entries.filter (fun entry => !overdue checkTime entry)).length ≤ kept.length) :
    kept = entries.filter (fun entry => !overdue checkTime entry) := by
  have inside := part.filter (fun entry => !overdue checkTime entry)
  rw [List.filter_eq_self.mpr (fun entry member => by simp [fresh entry member])] at inside
  exact inside.eq_of_length_le long

theorem scannable_of_kept (entries : List Entry)
    (right : (adjustEntries checkTime entries).1 = entries.filter (fun entry => !overdue checkTime entry)) :
    Scannable checkTime entries := by
  fun_induction adjustEntries checkTime entries with
  | case1 => exact ⟨by simp,by simp,by simp,by simp⟩
  | case2 head late =>
    have leaves : overdue checkTime head = true := by simpa using right
    exact ⟨by simp [late],by simp,by simp [leaves],by simp⟩
  | case3 head early =>
    have stays : overdue checkTime head = false := by
      cases aged : overdue checkTime head with
      | false => rfl
      | true => simp [aged] at right
    exact ⟨by simp [stays],by simp,by simp [early],by simp⟩
  | case4 head next rest late kept moved split ih =>
    rw [split] at ih
    have shorter : kept.Sublist rest := by
      have part := @adjustEntries_sublist checkTime rest
      rwa [split] at part
    have fresh : ∀ entry ∈ next::kept, overdue checkTime entry = false := by
      intro entry member
      rw [show next::kept = _ from right] at member
      simpa using (List.mem_filter.mp member).2
    have after : overdue checkTime next = false := fresh next (by simp)
    have bound : kept.length ≤ (rest.filter (fun entry => !overdue checkTime entry)).length := by
      have inside := shorter.filter (fun entry => !overdue checkTime entry)
      rw [List.filter_eq_self.mpr (fun entry member => by simp [fresh entry (by simp [member])])] at inside
      exact inside.length_le
    have leaves : overdue checkTime head = true := by
      cases aged : overdue checkTime head with
      | true => rfl
      | false =>
        have lengths := congrArg List.length right
        simp only [List.filter_cons,aged,after,Bool.not_false,if_true,List.length_cons] at lengths
        omega
    have remaining : kept = rest.filter (fun entry => !overdue checkTime entry) := by
      simpa [List.filter_cons,leaves,after] using right
    obtain ⟨rounded,apart,first,behind⟩ := ih remaining
    refine ⟨?_,?_,by simp [leaves],?_⟩
    · intro entry member aged
      simp only [List.mem_cons] at member
      rcases member with rfl | rfl | later
      · exact late
      · simp [after] at aged
      · exact rounded entry later aged
    · refine List.isChain_cons_cons.mpr ⟨fun _ => after,?_⟩
      exact List.isChain_cons.mpr ⟨fun entry _ aged => by simp [after] at aged,apart⟩
    · refine List.isChain_cons_cons.mpr ⟨fun _ => Or.inr leaves,?_⟩
      exact List.isChain_cons.mpr ⟨fun entry inside isDue => Or.inl (first entry inside isDue),behind⟩
  | case5 head next rest early kept moved split ih =>
    rw [split] at ih
    have stays : overdue checkTime head = false := by
      have member : head ∈ head::kept := by simp
      rw [show head::kept = _ from right] at member
      simpa using (List.mem_filter.mp member).2
    have remaining : kept = (next::rest).filter (fun entry => !overdue checkTime entry) := by
      simpa [List.filter_cons,stays] using right
    obtain ⟨rounded,apart,first,behind⟩ := ih remaining
    refine ⟨?_,?_,by simp [early],?_⟩
    · intro entry member aged
      rcases List.mem_cons.mp member with rfl | later
      · simp [stays] at aged
      · exact rounded entry later aged
    · exact List.isChain_cons_cons.mpr ⟨fun aged => by simp [stays] at aged,apart⟩
    · exact List.isChain_cons_cons.mpr ⟨fun isDue => Or.inl (first next (by simp) isDue),behind⟩

/-- The inner loop aged a queue without a miss: the overdue entries leave it, the others stay. -/
theorem adjustEntries_scannable (entries : List Entry) (scannable : Scannable checkTime entries) :
    adjustEntries checkTime entries =
      (entries.filter (fun entry => !overdue checkTime entry),raised checkTime entries) := by
  fun_induction adjustEntries checkTime entries with
  | case1 => rfl
  | case2 head late =>
    have leaves := scannable.first head (by simp) late
    simp [raised,leaves,Entry.raise]
  | case3 head early =>
    have stays : overdue checkTime head = false := by
      cases aged : overdue checkTime head with
      | false => rfl
      | true => exact absurd (scannable.rounded head (by simp) aged) (by simp [early])
    simp [raised,stays]
  | case4 head next rest late kept moved split ih =>
    have leaves := scannable.first head (by simp) late
    obtain ⟨before,apart⟩ := List.isChain_cons_cons.mp scannable.apart
    obtain ⟨_,behind⟩ := List.isChain_cons_cons.mp scannable.behind
    have after := before leaves
    have tail : Scannable checkTime rest := by
      refine ⟨fun entry member => scannable.rounded entry (by simp [member]),apart.tail,?_,behind.tail⟩
      intro entry inside isDue
      rcases (List.isChain_cons.mp behind).1 entry inside isDue with aged | aged
      · exact aged
      · simp [after] at aged
    have known := ih tail
    rw [split] at known
    cases known
    simp [raised,leaves,after,Entry.raise]
  | case5 head next rest early kept moved split ih =>
    have stays : overdue checkTime head = false := by
      cases aged : overdue checkTime head with
      | false => rfl
      | true => exact absurd (scannable.rounded head (by simp) aged) (by simp [early])
    obtain ⟨_,apart⟩ := List.isChain_cons_cons.mp scannable.apart
    obtain ⟨before,behind⟩ := List.isChain_cons_cons.mp scannable.behind
    have tail : Scannable checkTime (next::rest) := by
      refine ⟨fun entry member => scannable.rounded entry (by simp [List.mem_cons.mp member]),apart,?_,behind⟩
      intro entry inside isDue
      rw [List.head?_cons,Option.mem_some_iff] at inside
      subst inside
      rcases before isDue with aged | aged
      · exact aged
      · simp [stays] at aged
    have known := ih tail
    rw [split] at known
    cases known
    simp [raised,stays]

theorem scannable_of_perm {entries : List Entry}
    (same : (adjustEntries checkTime entries).1.Perm (entries.filter (fun entry => !overdue checkTime entry))) :
    Scannable checkTime entries := by
  apply scannable_of_kept
  apply eq_filter_of_sublist (adjustEntries_sublist entries)
  · intro entry member
    simpa using (List.mem_filter.mp (same.mem_iff.mp member)).2
  · exact same.length_eq.ge

theorem filter_scanned (state : State) {priority : Priorities} (below : priority ≠ .veryHigh) :
    (scanned checkTime state priority).filter (fun entry => !overdue checkTime entry) =
      staying checkTime state priority ++ arriving checkTime state priority := by
  cases priority with
  | low => simp [scanned,staying,arriving]
  | medium => simp [scanned,staying,arriving,filter_raised]
  | high => simp [scanned,staying,arriving,filter_raised]
  | veryHigh => exact absurd rfl below

theorem raised_raised (entries others : List Entry) :
    raised checkTime (entries ++ raised checkTime others) = raised checkTime entries := by
  have none : (raised checkTime others).filter (overdue checkTime) = [] := by
    apply List.filter_eq_nil_iff.mpr
    intro entry member
    obtain ⟨origin,_,rfl⟩ := List.mem_map.mp member
    simp [overdue_raise]
  rw [raised,List.filter_append,none,List.append_nil]
  rfl

/-- The queues after a pass, each level with what the scan of the level below has moved up. -/
theorem adjustPriority_queue (state : State) :
    let low := adjustEntries checkTime (state.queue .low)
    let medium := adjustEntries checkTime (state.queue .medium ++ low.2)
    let high := adjustEntries checkTime (state.queue .high ++ medium.2)
    let after := adjustPriority state checkTime
    after.queue .low = low.1 ∧ after.queue .medium = medium.1 ∧ after.queue .high = high.1 ∧
      after.queue .veryHigh = state.queue .veryHigh ++ high.2 := by
  simp [adjustPriority,adjustLevel,State.setQueue]

/-- As long as the scans so far have missed nothing, a level is scanned with what should come up from below. -/
theorem adjustPriority_scans (state : State) :
    (adjustPriority state checkTime).queue .low = (adjustEntries checkTime (scanned checkTime state .low)).1 ∧
    (Scannable checkTime (scanned checkTime state .low) →
      (adjustPriority state checkTime).queue .medium = (adjustEntries checkTime (scanned checkTime state .medium)).1) ∧
    (Scannable checkTime (scanned checkTime state .low) → Scannable checkTime (scanned checkTime state .medium) →
      (adjustPriority state checkTime).queue .high = (adjustEntries checkTime (scanned checkTime state .high)).1) ∧
    (Scannable checkTime (scanned checkTime state .low) → Scannable checkTime (scanned checkTime state .medium) →
      Scannable checkTime (scanned checkTime state .high) →
      (adjustPriority state checkTime).queue .veryHigh =
        state.queue .veryHigh ++ raised checkTime (state.queue .high)) := by
  obtain ⟨low,medium,high,veryHigh⟩ := @adjustPriority_queue checkTime state
  have lowest : scanned checkTime state .low = state.queue .low := by simp [scanned,arriving]
  have first : Scannable checkTime (scanned checkTime state .low) →
      (adjustEntries checkTime (state.queue .low)).2 = raised checkTime (state.queue .low) := by
    intro scannable
    rw [lowest] at scannable
    rw [adjustEntries_scannable _ scannable]
  have second : Scannable checkTime (scanned checkTime state .medium) →
      (adjustEntries checkTime (scanned checkTime state .medium)).2 = raised checkTime (state.queue .medium) := by
    intro scannable
    rw [adjustEntries_scannable _ scannable]
    exact raised_raised _ _
  have third : Scannable checkTime (scanned checkTime state .high) →
      (adjustEntries checkTime (scanned checkTime state .high)).2 = raised checkTime (state.queue .high) := by
    intro scannable
    rw [adjustEntries_scannable _ scannable]
    exact raised_raised _ _
  refine ⟨by rw [low,lowest],?_,?_,?_⟩
  · intro one
    rw [medium,first one]
    rfl
  · intro one two
    rw [high,first one,show state.queue .medium ++ raised checkTime (state.queue .low) =
      scanned checkTime state .medium from rfl,second two]
    rfl
  · intro one two three
    rw [veryHigh,first one,show state.queue .medium ++ raised checkTime (state.queue .low) =
      scanned checkTime state .medium from rfl,second two,
      show state.queue .high ++ raised checkTime (state.queue .medium) = scanned checkTime state .high from rfl,
      third three]

theorem aged_of_eq {before after : State} (same : ∀ priority, after.queue priority =
    staying checkTime before priority ++ arriving checkTime before priority) :
    AgedByOneLevel checkTime before after := by
  intro priority
  rw [same priority]
  exact ⟨List.Perm.refl _,List.sublist_append_left _ _,List.sublist_append_right _ _⟩

/-- A pass raises what it should raise iff its scans miss nothing. -/
theorem adjustPriority_aged_iff (state : State) :
    AgedByOneLevel checkTime state (adjustPriority state checkTime) ↔ NothingMissed checkTime state := by
  obtain ⟨low,medium,high,veryHigh⟩ := @adjustPriority_scans checkTime state
  constructor
  · intro aged
    have level : ∀ priority, priority ≠ .veryHigh → (adjustPriority state checkTime).queue priority =
        (adjustEntries checkTime (scanned checkTime state priority)).1 →
        Scannable checkTime (scanned checkTime state priority) := by
      intro priority below same
      apply scannable_of_perm
      rw [← same,filter_scanned state below]
      exact (aged priority).1
    have one := level .low (by simp) low
    have two := level .medium (by simp) (medium one)
    have three := level .high (by simp) (high one two)
    intro priority below
    cases priority with
    | low => exact one
    | medium => exact two
    | high => exact three
    | veryHigh => exact absurd rfl below
  · intro nothing
    have one := nothing .low (by simp)
    have two := nothing .medium (by simp)
    have three := nothing .high (by simp)
    have level : ∀ priority, priority ≠ .veryHigh → Scannable checkTime (scanned checkTime state priority) →
        (adjustEntries checkTime (scanned checkTime state priority)).1 =
          staying checkTime state priority ++ arriving checkTime state priority := by
      intro priority below scannable
      rw [adjustEntries_scannable _ scannable]
      exact filter_scanned state below
    apply aged_of_eq
    intro priority
    cases priority with
    | low => rw [low,level .low (by simp) one]
    | medium => rw [medium one,level .medium (by simp) two]
    | high => rw [high one two,level .high (by simp) three]
    | veryHigh =>
      rw [veryHigh one two three]
      rfl

end

/-- The pass of a step, if it is one, raises by one level exactly what it should raise. -/
def Ages (state : State) : Action → Prop
  | .adjust checkTime => AgedByOneLevel checkTime state (adjustPriority state checkTime)
  | _ => True

def MissesNothing (state : State) : Action → Prop
  | .adjust checkTime => NothingMissed checkTime state
  | _ => True

/-- In a run from any content of the queues, with calls and settlements between the passes, every pass ages the
waiting entries by one level iff it is taken in a state where its scans miss nothing. -/
theorem priority_ageing_iff (state : State) (actions : List Action) :
    Along step Ages state actions ↔ Along step MissesNothing state actions := by
  apply along_congr
  intro state action
  cases action with
  | adjust checkTime => exact adjustPriority_aged_iff state
  | add load label priority increasePriorityOverTime startTime => exact Iff.rfl
  | settle id fulfilled => exact Iff.rfl

/-- One job runs, two wait behind each other at the lowest priority. -/
def twoWaiting : List Action :=
  [.add 1 "running" (some "low") true 0,.add 1 "first" (some "low") true 0,.add 1 "second" (some "low") true 0]

/-- After four minutes only the first of the two is raised: the index steps over the second one. -/
theorem second_entry_passed_over :
    ¬Along step Ages (create 1) (twoWaiting ++ [.adjust (4 * MIN_TO_MS * NANO_TO_MS)]) := by
  intro ages
  have waiting : (run step (create 1) twoWaiting).isSome = true := by decide
  obtain ⟨middle,reached⟩ := Option.isSome_iff_exists.mp waiting
  have pass := (along_append step Ages _ middle twoWaiting _ ages reached).1
  have scans := (adjustPriority_aged_iff middle).mp pass .low (by simp)
  have both : (middle.queue .low).map (overdue (4 * MIN_TO_MS * NANO_TO_MS)) = [true,true] := by
    have known : (run step (create 1) twoWaiting).map
        (fun state => (state.queue .low).map (overdue (4 * MIN_TO_MS * NANO_TO_MS))) = some [true,true] := by decide
    rw [reached,Option.map_some,Option.some.injEq] at known
    exact known
  obtain ⟨first,behind,entries,late,others⟩ := List.map_eq_cons_iff.mp both
  obtain ⟨second,rest,next,lateToo,_⟩ := List.map_eq_cons_iff.mp others
  have apart := scans.apart
  rw [scanned,arriving,List.append_nil,entries,next] at apart
  have fresh := (List.isChain_cons_cons.mp apart).1 late
  rw [lateToo] at fresh
  cases fresh

/-- An entry that was raised before goes up two levels in one pass, as its first raise is long ago at both. -/
example : ((run step (create 1) [.add 1 "running" (some "low") true 0,.add 1 "waiting" (some "low") true 0,
    .adjust (4 * MIN_TO_MS * NANO_TO_MS),.adjust (8 * MIN_TO_MS * NANO_TO_MS)]).map
      (fun state => Priorities.values.map (fun priority => (state.queue priority).length))) = some [0,0,0,1] := by
  decide

end EventQueue.WorkerQueue

import EventQueue.PeriodicSchedule

/-! Rows of a periodic event under an unchanged configuration, as `checkAndInsertPeriodicEvents` sees them. The rows
are planned from the start of their predecessor or from the next tick of a cron expression, while the check compares
them with the current time and with the next tick after their creation. -/
namespace EventQueue.PeriodicUnchanged
open PeriodicStartup PeriodicSchedule

/-- How a row gets into the table: for the successor of an entry that the selection of a round has taken, or by
`_insertPeriodEvents`. -/
inductive Insertion
  | scheduleNext (startAfter : Nat) (round : Round)
  | startup (environment : PeriodicStartup.Environment)

section
variable (settings : Settings) (event : PeriodicEvent)

def Insertion.startAfter : Insertion → Int
  | .scheduleNext startAfter round => (scheduleNextPeriodEvent settings event (some (startAfter : Int)) round.call).1
  | .startup environment => startTime environment (some event)

/-- The row is created after the reads of the clock its start was computed from, by the same cron parser. -/
def Insertion.Before (createdAt : Int) : Insertion → Prop
  | .scheduleNext _ round => round.call.shifted ≤ createdAt
  | .startup environment => environment.now ≤ createdAt ∧ environment.next = settings.next

def rowOf (ID : String) (status : Nat) (createdAt startAfter : Int) : PeriodicStartup.Row :=
  ⟨ID,event.type,event.subType,some event.nameSpace,status,some createdAt,some startAfter⟩

end

/-- A group of the event is reported as changed and its `DELETE` meets the row. -/
def DeletedAsChanged (config : Config) (environment : PeriodicStartup.Environment) (table : List PeriodicStartup.Row)
    (event : PeriodicEvent) (row : PeriodicStartup.Row) : Prop :=
  ∃ group ∈ exitingWithNotMatchingInterval config environment table,
    event.ownsGroup group = true ∧ group.matches row = true

/-- No later check under the same configuration deletes the row, whatever else is in the table. -/
def NeverSeenAsChanged (config : Config) (settings : Settings) (event : PeriodicEvent) (createdAt startAfter : Int) :
    Prop :=
  ∀ (environment : PeriodicStartup.Environment) (table : List PeriodicStartup.Row) (ID : String) (status : Nat),
    environment.next = settings.next → createdAt ≤ environment.now →
    rowOf event ID status createdAt startAfter ∈ table →
    ¬DeletedAsChanged config environment table event (rowOf event ID status createdAt startAfter)

/-- What the configuration accepts: an interval of more than ten seconds, or a cron expression whose next date is
its least tick after the given time; the offset is not negative. -/
structure Accepted (settings : Settings) (event : PeriodicEvent) : Prop where
  interval : ∀ interval, event.schedule = .interval interval → 10 < interval
  cron : ∀ cron tz, event.schedule = .cron cron tz → ∃ ticks, LeastTick ticks (settings.next cron tz)
  offset : 0 ≤ maximalOffset settings event

/-- How far the start may be away from the tick after the creation. -/
def tolerance (settings : Settings) (event : PeriodicEvent) : Rat :=
  (ALLOWED_PERIODIC_SEC_DIFF + maximalOffset settings event) * 1000

/-- An interval row is created after the start of its predecessor plus the random offset. For a cron row the first
tick after the creation is hardly later than the tick it was planned for, or than the start it was shifted to. -/
def Recognised (settings : Settings) (event : PeriodicEvent) (createdAt : Int) : Insertion → Prop
  | .startup environment =>
    match event.schedule with
    | .interval _ => True
    | .cron cron tz =>
      (settings.next cron tz createdAt : Rat) ≤ settings.next cron tz environment.now + tolerance settings event
  | .scheduleNext startAfter round =>
    match event.schedule with
    | .interval _ => startAfter + calculateRandomOffset settings event round.call.random < createdAt
    | .cron cron tz =>
      let planned := settings.next cron tz round.call.parsed + calculateRandomOffset settings event round.call.random
      if planned < round.call.checked then
        (settings.next cron tz createdAt : Rat) ≤ round.call.shifted + 5 * 1000 + tolerance settings event
      else (settings.next cron tz createdAt : Rat) ≤ planned + tolerance settings event

section
variable {config : Config} {environment : PeriodicStartup.Environment} {settings : Settings} {event : PeriodicEvent}

/-- What the check makes of a row alone. -/
def seenAsChanged (config : Config) (environment : PeriodicStartup.Environment) (event : PeriodicEvent) (createdAt startAfter : Int) :
    Bool :=
  let group := (rowOf event "" EventProcessingStatus.Open createdAt startAfter).groupedAs (some startAfter)
  intervalChanged environment event group || cronChanged config environment event group

theorem seenAsChanged_of_deleted (configured : event ∈ config.periodicEvents) {table : List PeriodicStartup.Row}
    {ID : String} {status : Nat} {createdAt startAfter : Int}
    (deleted : DeletedAsChanged config environment table event (rowOf event ID status createdAt startAfter)) :
    seenAsChanged config environment event createdAt startAfter = true := by
  obtain ⟨group,reported,owned,matching⟩ := deleted
  obtain ⟨other,listed,current,changed⟩ := mem_reported.mp reported
  have same : other = event := by
    apply periodicEvents_unique listed configured
    rw [← ownsGroup_key owned,← ownsGroup_key (currentGroup_owned current).2]
  subst same
  simp only [PeriodicEvent.ownsGroup,decide_eq_true_eq] at owned
  obtain ⟨_,_,created,started⟩ := of_decide_eq_true matching
  have whole : group = (rowOf other "" EventProcessingStatus.Open createdAt startAfter).groupedAs (some startAfter) := by
    obtain ⟨type,subType,groupCreatedAt,nameSpace,groupStartAfter⟩ := group
    simp only at owned created started
    simp [Row.groupedAs,rowOf,owned,← created,← started]
  rw [whole] at changed
  exact changed

theorem currentGroup_alone (configured : event ∈ config.periodicEvents) (createdAt startAfter : Int) :
    currentGroup config environment [rowOf event "" EventProcessingStatus.Open createdAt startAfter] event =
      some ((rowOf event "" EventProcessingStatus.Open createdAt startAfter).groupedAs (some startAfter)) := by
  have pending : config.pendingRows [rowOf event "" EventProcessingStatus.Open createdAt startAfter] =
      [rowOf event "" EventProcessingStatus.Open createdAt startAfter] := by
    apply List.filter_eq_self.mpr
    intro row member
    obtain rfl := List.mem_singleton.mp member
    refine Bool.and_eq_true_iff.mpr ⟨List.any_eq_true.mpr ⟨event,configured,?_⟩,rfl⟩
    simp [PeriodicEvent.owns,rowOf]
  have groups : config.groups [rowOf event "" EventProcessingStatus.Open createdAt startAfter] =
      [(rowOf event "" EventProcessingStatus.Open createdAt startAfter).groupedAs (some startAfter)] := by
    rw [Config.groups,pending]
    simp [Row.groupedAs,rowOf]
  have listed : currentPeriodEvents config environment [rowOf event "" EventProcessingStatus.Open createdAt startAfter] =
      [(rowOf event "" EventProcessingStatus.Open createdAt startAfter).groupedAs (some startAfter)] := by
    rw [currentPeriodEvents,groups]
    exact List.perm_singleton.mp (environment.ordered _)
  rw [currentGroup,listed]
  simp [PeriodicEvent.ownsGroup,Row.groupedAs,rowOf]

/-- A row alone in the table is deleted iff the check sees it as changed. -/
theorem deletedAsChanged_alone (configured : event ∈ config.periodicEvents) {createdAt startAfter : Int}
    (changed : seenAsChanged config environment event createdAt startAfter = true) :
    DeletedAsChanged config environment [rowOf event "" EventProcessingStatus.Open createdAt startAfter] event
      (rowOf event "" EventProcessingStatus.Open createdAt startAfter) := by
  refine ⟨_,mem_reported.mpr ⟨event,configured,currentGroup_alone configured createdAt startAfter,changed⟩,?_,?_⟩
  · simp [PeriodicEvent.ownsGroup,Row.groupedAs,rowOf]
  · simp [PeriodEvent.matches,Row.groupedAs,rowOf]

/-- The check of a row alone decides whether the row is ever deleted. -/
theorem neverSeenAsChanged_iff (configured : event ∈ config.periodicEvents) (createdAt startAfter : Int) :
    NeverSeenAsChanged config settings event createdAt startAfter ↔
      ∀ environment : PeriodicStartup.Environment, environment.next = settings.next → createdAt ≤ environment.now →
        seenAsChanged config environment event createdAt startAfter = false := by
  constructor
  · intro never environment parser later
    by_contra changed
    exact never environment _ "" EventProcessingStatus.Open parser later (by simp)
      (deletedAsChanged_alone configured (by simpa using changed))
  · intro unchanged environment table ID status parser later _ deleted
    have changed := seenAsChanged_of_deleted configured deleted
    rw [unchanged environment parser later] at changed
    cases changed

/-- An interval row survives iff it starts within an interval of its creation. -/
theorem neverSeenAsChanged_interval (configured : event ∈ config.periodicEvents) {interval : Rat}
    (scheduled : event.schedule = .interval interval) (createdAt startAfter : Int) :
    NeverSeenAsChanged config settings event createdAt startAfter ↔ startAfter < createdAt + ⌊interval * 1000⌋ := by
  have seen (environment : PeriodicStartup.Environment) :
      seenAsChanged config environment event createdAt startAfter = false ↔
        startAfter < environment.now + ⌊interval * 1000⌋ := by
    simp only [seenAsChanged,intervalChanged,cronChanged,scheduled,Row.groupedAs,Option.getD_some,Bool.or_false]
    exact decide_eq_false_iff_not.trans not_le
  rw [neverSeenAsChanged_iff configured]
  simp only [seen]
  constructor
  · intro unchanged
    exact unchanged ⟨id,fun _ => List.Perm.refl _,settings.next,createdAt,createdAt,fun _ => ""⟩ rfl (le_refl _)
  · intro near environment _ later
    omega

/-- A cron row survives iff the tick after its creation is near its start. -/
theorem neverSeenAsChanged_cron (configured : event ∈ config.periodicEvents)
    (same : settings.randomOffsetPeriodicEvents = config.randomOffsetPeriodicEvents) {cron tz : String}
    (scheduled : event.schedule = .cron cron tz) (createdAt startAfter : Int) :
    NeverSeenAsChanged config settings event createdAt startAfter ↔
      |(settings.next cron tz createdAt : Rat) - startAfter| ≤ tolerance settings event := by
  have seen (environment : PeriodicStartup.Environment) (parser : environment.next = settings.next) :
      seenAsChanged config environment event createdAt startAfter = false ↔
        |(settings.next cron tz createdAt : Rat) - startAfter| ≤ tolerance settings event := by
    simp [seenAsChanged,intervalChanged,cronChanged,scheduled,Row.groupedAs,rowOf,parser,tolerance,maximalOffset,same]
  rw [neverSeenAsChanged_iff configured]
  constructor
  · intro unchanged
    let environment : PeriodicStartup.Environment :=
      ⟨id,fun _ => List.Perm.refl _,settings.next,createdAt,createdAt,fun _ => ""⟩
    exact (seen environment rfl).mp (unchanged environment rfl (le_refl _))
  · intro near environment parser _
    exact (seen environment parser).mpr near

end

section
variable {settings : Settings} {event : PeriodicEvent} {cron tz : String} {ticks : Set Int}

theorem calculateRandomOffset_le (nonnegative : 0 ≤ maximalOffset settings event) {random : Rat} (unit : random < 1) :
    (calculateRandomOffset settings event random : Rat) ≤ maximalOffset settings event * 1000 := by
  unfold calculateRandomOffset
  split
  · rename_i none
    simp [none]
  · have floor := Int.floor_le (random * maximalOffset settings event)
    have part : random * maximalOffset settings event ≤ maximalOffset settings event := by nlinarith
    push_cast
    linarith

theorem next_mono (least : LeastTick ticks (settings.next cron tz)) {first second : Int} (ordered : first ≤ second) :
    settings.next cron tz first ≤ settings.next cron tz second := by
  obtain ⟨⟨tick,after⟩,_⟩ := least second
  exact (least first).2 ⟨tick,lt_of_le_of_lt ordered after⟩

/-- The start of the next row of an interval event; fractions of milliseconds are cut off. -/
theorem plannedStartAfter_floor {interval : Rat} (scheduled : event.schedule = .interval interval)
    (positive : 0 ≤ interval) (nonnegative : 0 ≤ maximalOffset settings event) (startAfter : Nat) (call : Call) :
    plannedStartAfter settings event (some (startAfter : Int)) call =
      startAfter + ⌊interval * 1000⌋ + calculateRandomOffset settings event call.random := by
  have offset : (0 : Rat) ≤ calculateRandomOffset settings event call.random := by
    exact_mod_cast calculateRandomOffset_nonneg nonnegative call.unit.1
  rw [plannedStartAfter,scheduled]
  simp only [Option.getD_some,Int.cast_natCast]
  rw [Selection.newDate_eq_floor (by positivity),Int.floor_add_intCast,Int.floor_natCast_add]

/-- A successor of an interval entry starts within an interval of its creation iff the entry was due, the random
offset included. A shifted one starts five seconds after a read of the clock. -/
theorem newStartAfter_interval_near {interval : Rat} (scheduled : event.schedule = .interval interval)
    (accepted : Accepted settings event) (startAfter : Nat) (call : Call) {createdAt : Int}
    (before : call.shifted ≤ createdAt) :
    PeriodicSchedule.newStartAfter settings event (some (startAfter : Int)) call < createdAt + ⌊interval * 1000⌋ ↔
      startAfter + calculateRandomOffset settings event call.random < createdAt := by
  have long := accepted.interval interval scheduled
  have planned := plannedStartAfter_floor scheduled (by linarith) accepted.offset startAfter call
  have floor : 10 * 1000 ≤ ⌊interval * 1000⌋ := Int.le_floor.mpr (by push_cast; linarith)
  have later := call.forward.2.1
  unfold PeriodicSchedule.newStartAfter
  split
  · rename_i moved
    have behind := (Bool.and_eq_true_iff.mp moved).1
    rw [decide_eq_true_eq,planned] at behind
    refine iff_of_true (by omega) (by omega)
  · rw [planned]
    omega

/-- A cron row is near the tick after its creation iff that tick is not too late; it cannot be too early. -/
theorem abs_sub_le_tolerance_iff {tick startAfter : Rat}
    (lower : startAfter - tolerance settings event ≤ tick) :
    |tick - startAfter| ≤ tolerance settings event ↔ tick ≤ startAfter + tolerance settings event := by
  rw [abs_le]
  constructor
  · rintro ⟨_,upper⟩
    linarith
  · intro upper
    exact ⟨by linarith,by linarith⟩

theorem startup_cron_near (scheduled : event.schedule = .cron cron tz) (accepted : Accepted settings event)
    {now createdAt : Int} (before : now ≤ createdAt) :
    |(settings.next cron tz createdAt : Rat) - settings.next cron tz now| ≤ tolerance settings event ↔
      (settings.next cron tz createdAt : Rat) ≤ settings.next cron tz now + tolerance settings event := by
  obtain ⟨ticks,least⟩ := accepted.cron cron tz scheduled
  have ordered : (settings.next cron tz now : Rat) ≤ settings.next cron tz createdAt := by
    exact_mod_cast next_mono least before
  have nonnegative := accepted.offset
  refine abs_sub_le_tolerance_iff ?_
  unfold tolerance ALLOWED_PERIODIC_SEC_DIFF
  linarith

theorem scheduleNext_cron_near (scheduled : event.schedule = .cron cron tz) (accepted : Accepted settings event)
    (startAfter : Option Int) (call : Call) {createdAt : Int} (before : call.shifted ≤ createdAt) :
    |(settings.next cron tz createdAt : Rat) - PeriodicSchedule.newStartAfter settings event startAfter call| ≤
        tolerance settings event ↔
      (settings.next cron tz createdAt : Rat) ≤
        PeriodicSchedule.newStartAfter settings event startAfter call + tolerance settings event := by
  obtain ⟨ticks,least⟩ := accepted.cron cron tz scheduled
  obtain ⟨parsed,checked,_⟩ := call.forward
  have nonnegative := accepted.offset
  refine abs_sub_le_tolerance_iff ?_
  rw [newStartAfter_cron scheduled]
  unfold tolerance ALLOWED_PERIODIC_SEC_DIFF
  split
  · have after : ((call.shifted : Int) : Rat) ≤ settings.next cron tz createdAt := by
      exact_mod_cast le_trans before (le_of_lt (least createdAt).1.2)
    push_cast
    linarith
  · have ordered : (settings.next cron tz call.parsed : Rat) ≤ settings.next cron tz createdAt := by
      exact_mod_cast next_mono least (by omega)
    have offset := calculateRandomOffset_le nonnegative call.unit.2
    push_cast
    linarith

end

/-- Rows of an unchanged configuration are never deleted as changed iff they are inserted after the start of their
predecessor, respectively before a later tick. -/
theorem never_seen_as_changed_iff {config : Config} {settings : Settings} {event : PeriodicEvent}
    (configured : event ∈ config.periodicEvents)
    (same : settings.randomOffsetPeriodicEvents = config.randomOffsetPeriodicEvents)
    (accepted : Accepted settings event) (insertion : Insertion) (createdAt : Int)
    (before : insertion.Before settings createdAt) :
    NeverSeenAsChanged config settings event createdAt (insertion.startAfter settings event) ↔
      Recognised settings event createdAt insertion := by
  cases scheduled : event.schedule with
  | interval interval =>
    rw [neverSeenAsChanged_interval configured scheduled]
    cases insertion with
    | scheduleNext startAfter round =>
      simp only [Recognised,scheduled]
      exact newStartAfter_interval_near scheduled accepted startAfter round.call before
    | startup environment =>
      have long := accepted.interval interval scheduled
      have floor : 10 * 1000 ≤ ⌊interval * 1000⌋ := Int.le_floor.mpr (by push_cast; linarith)
      have earlier := before.1
      simp only [Recognised,scheduled,Insertion.startAfter,startTime,Option.map_some]
      refine iff_of_true (by omega) trivial
  | cron cron tz =>
    rw [neverSeenAsChanged_cron configured same scheduled]
    cases insertion with
    | scheduleNext startAfter round =>
      have near := scheduleNext_cron_near scheduled accepted (some (startAfter : Int)) round.call before
      simp only [Recognised,scheduled]
      refine near.trans ?_
      rw [newStartAfter_cron scheduled]
      split
      · norm_num
      · push_cast
        rfl
    | startup environment =>
      simp only [Recognised,scheduled,Insertion.startAfter,startTime,Option.map_some,before.2]
      exact startup_cron_near scheduled accepted before.1

def halfMinuteConfig : Config := configured [everyHalfMinute] (by decide)

theorem everyHalfMinute_accepted : Accepted usualSettings everyHalfMinute where
  interval interval scheduled := by
    cases scheduled
    norm_num
  cron _ _ scheduled := by cases scheduled
  offset := le_refl 0

theorem never_seen_as_changed_iff_when_due :
    NeverSeenAsChanged halfMinuteConfig usualSettings everyHalfMinute 100
      ((Insertion.scheduleNext 0 (roundAt 100)).startAfter usualSettings everyHalfMinute) :=
  (never_seen_as_changed_iff (List.mem_singleton_self _) rfl everyHalfMinute_accepted
    (Insertion.scheduleNext 0 (roundAt 100)) 100 (le_refl 100)).mpr
      (show ((0 : Nat) : Int) + calculateRandomOffset usualSettings everyHalfMinute 0 < 100 by decide)

/-- The entry for the end of the first minute is taken two and a half seconds early; its successor starts at the
planned time, which is more than an interval after its creation. -/
theorem early_successor_deleted :
    Accepted usualSettings everyHalfMinute ∧ Permitted 60000 (roundAt 57500) ∧
      (Insertion.scheduleNext 60000 (roundAt 57500)).Before usualSettings 57500 ∧
      ¬NeverSeenAsChanged halfMinuteConfig usualSettings everyHalfMinute 57500
        ((Insertion.scheduleNext 60000 (roundAt 57500)).startAfter usualSettings everyHalfMinute) := by
  refine ⟨everyHalfMinute_accepted,by decide,le_refl _,fun never => ?_⟩
  refine never ⟨id,fun _ => List.Perm.refl _,usualSettings.next,57500,57500,fun _ => ""⟩ _ ""
    EventProcessingStatus.Open rfl (le_refl _) (List.mem_singleton_self _) ?_
  exact deletedAsChanged_alone (List.mem_singleton_self _) (by decide +kernel)

end EventQueue.PeriodicUnchanged

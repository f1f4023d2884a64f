import EventQueue.EventQueueStats

/-! The counters of a namespace beside those of its tenants, over whole histories of commits, runs and starts. -/
namespace EventQueue.EventQueueStats
open Counters (Command value added)
open LockListing (OtherKey keyPrefix)
open OpenEvents (EventMap)
open DistributedLock (redisNamespace REDIS_PREFIX)
open QueueStats (TxStats)

section
variable (config : Config) (eventMap : EventMap)

theorem redisNamespace_named {nameSpace : String} (named : nameSpace ≠ "") :
    redisNamespace nameSpace true = keyPrefix nameSpace := by
  simp [redisNamespace,keyPrefix,REDIS_PREFIX,named]

theorem tenantKey_cell (named : config.app.nameSpace ≠ "") (tenantId : String) (field : StatusField) :
    (tenantKey config (some tenantId),field) = tenantCell config tenantId config.app.nameSpace field := by
  simp [tenantKey,tenantText,tenantCell,OtherKey.key,redisNamespace_named named]

theorem globalKey_cell (named : config.app.nameSpace ≠ "") (field : StatusField) :
    (globalKey config,field) = globalCell config config.app.nameSpace field := by
  simp [globalKey,globalCell,OtherKey.key,redisNamespace_named named]

def Stats.get (stats : Stats) : StatusField → Int
  | .Pending => stats.pending
  | .InProgress => stats.inProgress

/-- The counter of the namespace is the sum of those of the tenants. -/
def AddUp (tenants : List String) (store : Store) (field : StatusField) : Prop :=
  (getGlobalStats config store).get field =
    (tenants.map (fun tenantId => (getTenantStats config store (some tenantId)).get field)).sum

theorem addUp_iff (named : config.app.nameSpace ≠ "") (tenants : List String) (store : Store) (field : StatusField) :
    AddUp config tenants store field ↔ value store (globalCell config config.app.nameSpace field) =
      (tenants.map (fun tenantId => value store (tenantCell config tenantId config.app.nameSpace field))).sum := by
  simp only [← tenantKey_cell config named,← globalKey_cell config named]
  cases field <;> exact Iff.rfl

/-- What the instances do with the counters, one after the other as far as the counters are concerned. -/
inductive Phase
  /-- Transactions of any instance that have been committed, with their tenants. -/
  | transactions (committed : List (Option String × TxStats))
  | run (reads : List (TenantRead config))
  | reset (keys : List String)

def Phase.commands : Phase config → List (Command Cell)
  | .transactions committed => committed.flatMap (fun transaction => succeeded config transaction.1 transaction.2)
  | .run reads => executeEventsAllTenantsRedis config eventMap reads
  | .reset keys => resetInProgressCounters config keys

/-- The commands of a phase in the order in which they reach Redis. -/
structure Arrival where
  phase : Phase config
  history : List (Command Cell)
  arrived : history.Perm (phase.commands config eventMap)

def step (store : Store) (arrival : Arrival config eventMap) : Option Store :=
  some (Counters.run store arrival.history)

/-- Transactions are those of the tenants, a run reads all of them, a scan comes across all their keys. -/
def Covers (tenants : List String) (store : Store) : Phase config → Prop
  | .transactions committed => ∀ transaction ∈ committed, tenantText transaction.1 ∈ tenants
  | .run reads => (reads.map TenantRead.tenantId).Perm tenants ∧ ∀ read ∈ reads, read.answer.isSome
  | .reset keys => ∀ tenantId ∈ tenants, (∃ field, (store (tenantKey config (some tenantId),field)).isSome) →
      tenantKey config (some tenantId) ∈ keys

/-- What the commands add to the counter of the namespace they add to those of the tenants. -/
def Balanced (tenants : List String) (field : StatusField) (commands : List (Command Cell)) : Prop :=
  added (globalCell config config.app.nameSpace field) commands =
    (tenants.map (fun tenantId => added (tenantCell config tenantId config.app.nameSpace field) commands)).sum

theorem balanced_append {tenants : List String} {field : StatusField} {first second : List (Command Cell)}
    (one : Balanced config tenants field first) (two : Balanced config tenants field second) :
    Balanced config tenants field (first ++ second) := by
  simp only [Balanced,Counters.added_append,List.sum_map_add] at one two ⊢
  rw [one,two]

theorem balanced_nil (tenants : List String) (field : StatusField) : Balanced config tenants field [] := by
  simp [Balanced,added]

theorem balanced_increment {tenants : List String} (distinct : tenants.Nodup) (named : config.app.nameSpace ≠ "")
    (plain : '#' ∉ config.app.nameSpace.toList) {tenant : Option String} (known : tenantText tenant ∈ tenants)
    (field changed : StatusField) (increment : Int) :
    Balanced config tenants field (incrementCounters config tenant changed increment) := by
  have apart := fun tenantId other =>
    @tenantCell_ne_globalCell config tenantId config.app.nameSpace config.app.nameSpace other plain plain
  have own : (tenantKey config tenant,changed) =
      tenantCell config (tenantText tenant) config.app.nameSpace changed := by
    rw [← tenantKey_cell config named]
    rfl
  have each (tenantId : String) :
      added (tenantCell config tenantId config.app.nameSpace field) (incrementCounters config tenant changed increment) =
        if tenantId = tenantText tenant ∧ changed = field then increment else 0 := by
    have other : globalCell config config.app.nameSpace changed ≠
        tenantCell config tenantId config.app.nameSpace field := by
      intro same
      have fields : changed = field := congrArg Prod.snd same
      subst fields
      exact apart tenantId changed same.symm
    have same : tenantCell config (tenantText tenant) config.app.nameSpace changed =
        tenantCell config tenantId config.app.nameSpace field ↔ tenantId = tenantText tenant ∧ changed = field := by
      constructor
      · intro equal
        have fields : changed = field := congrArg Prod.snd equal
        subst fields
        exact ⟨(tenantCell_inj config plain plain equal).1.symm,rfl⟩
      · rintro ⟨rfl,rfl⟩
        rfl
    simp only [added,incrementCounters,adjustTenantCounter,adjustGlobalCounter,own,globalKey_cell config named,
      List.map_cons,List.map_nil,List.sum_cons,List.sum_nil,Command.increment,same,other,if_false,add_zero]
  have total : added (globalCell config config.app.nameSpace field) (incrementCounters config tenant changed increment) =
      if changed = field then increment else 0 := by
    have other : tenantCell config (tenantText tenant) config.app.nameSpace changed ≠
        globalCell config config.app.nameSpace field := by
      intro same
      have fields : changed = field := congrArg Prod.snd same
      subst fields
      exact apart (tenantText tenant) changed same
    have same : globalCell config config.app.nameSpace changed = globalCell config config.app.nameSpace field ↔
        changed = field := by
      constructor
      · exact fun equal => congrArg Prod.snd equal
      · rintro rfl
        rfl
    simp only [added,incrementCounters,adjustTenantCounter,adjustGlobalCounter,own,globalKey_cell config named,
      List.map_cons,List.map_nil,List.sum_cons,List.sum_nil,Command.increment,same,other,if_false,add_zero,zero_add]
  rw [Balanced,total]
  simp only [each]
  rw [List.sum_map_eq_nsmul_single (tenantText tenant) _ (fun other differ _ => if_neg (fun both => differ both.1)),
    List.count_eq_one_of_mem distinct known,one_nsmul]
  simp

theorem balanced_succeeded {tenants : List String} (distinct : tenants.Nodup) (named : config.app.nameSpace ≠ "")
    (plain : '#' ∉ config.app.nameSpace.toList) {tenant : Option String} (known : tenantText tenant ∈ tenants)
    (tx : TxStats) (field : StatusField) : Balanced config tenants field (succeeded config tenant tx) := by
  have pair (changed : StatusField) (increment : Int) :=
    balanced_increment config distinct named plain known field changed increment
  have maybe (changed : StatusField) (increment : Int) : Balanced config tenants field
      (if increment ≠ 0 then incrementCounters config tenant changed increment else []) := by
    split
    · exact pair changed increment
    · exact balanced_nil config tenants field
  unfold succeeded
  split
  · exact balanced_append config (balanced_append config (maybe .Pending tx.eventQueueStatsOpenCount)
      (maybe .Pending tx.eventQueueStatsPendingDelta)) (maybe .InProgress tx.eventQueueStatsInProgressDelta)
  · exact balanced_nil config tenants field

theorem succeeded_incr {tenant : Option String} {tx : TxStats} {command : Command Cell}
    (member : command ∈ succeeded config tenant tx) : command.isIncr = true := by
  have pair (changed : StatusField) (increment : Int) :
      ∀ command ∈ incrementCounters config tenant changed increment, command.isIncr = true := by
    simp [incrementCounters,adjustTenantCounter,adjustGlobalCounter,Command.isIncr]
  have maybe (changed : StatusField) (increment : Int) : ∀ command ∈
      (if increment ≠ 0 then incrementCounters config tenant changed increment else []), command.isIncr = true := by
    split
    · exact pair changed increment
    · simp
  unfold succeeded at member
  split at member
  · obtain (opened | pending) | inProgress := by simpa only [List.mem_append] using member
    · exact maybe _ _ command opened
    · exact maybe _ _ command pending
    · exact maybe _ _ command inProgress
  · cases member

theorem addUp_transactions {tenants : List String} (distinct : tenants.Nodup) (named : config.app.nameSpace ≠ "")
    (plain : '#' ∉ config.app.nameSpace.toList) {committed : List (Option String × TxStats)} {store : Store}
    {field : StatusField} (before : AddUp config tenants store field)
    (known : ∀ transaction ∈ committed, tenantText transaction.1 ∈ tenants) {history : List (Command Cell)}
    (arrived : history.Perm (committed.flatMap (fun transaction => succeeded config transaction.1 transaction.2))) :
    AddUp config tenants (Counters.run store history) field := by
  have incrs : ∀ command ∈ history, command.isIncr = true := by
    intro command member
    obtain ⟨transaction,_,inside⟩ := List.mem_flatMap.mp (arrived.mem_iff.mp member)
    exact succeeded_incr config inside
  have balanced : Balanced config tenants field
      (committed.flatMap (fun transaction => succeeded config transaction.1 transaction.2)) := by
    clear arrived
    induction committed with
    | nil => exact balanced_nil config tenants field
    | cons first rest ih =>
      exact balanced_append config
        (balanced_succeeded config distinct named plain (known first List.mem_cons_self) first.2 field)
        (ih (fun transaction member => known transaction (List.mem_cons_of_mem _ member)))
  rw [addUp_iff config named] at before ⊢
  have moved (cell : Cell) := Counters.value_run store history cell (Counters.not_assigns_of_incr incrs cell)
  simp only [moved,Counters.added_perm arrived,List.sum_map_add]
  rw [before]
  exact congrArg _ balanced

/-- Where a run does not assign a cell it changes nothing. -/
theorem run_elsewhere {items : List (Cell × Nat)} {history : List (Command Cell)} {cell : Cell} (store : Store)
    (arrived : history.Perm (items.map assignment)) (absent : ∀ item ∈ items, item.1 ≠ cell) :
    value (Counters.run store history) cell = value store cell := by
  have none : ∀ command ∈ ([] : List (Command Cell)), command.isIncr = true := by simp
  have kept := unassigned_item none (by simpa using arrived) absent
  have idle : added cell (items.map assignment) = 0 :=
    List.sum_eq_zero (fun increment member => by
      obtain ⟨command,listed,rfl⟩ := List.mem_map.mp member
      obtain ⟨item,_,rfl⟩ := List.mem_map.mp listed
      rfl)
  rw [Counters.value_run store history cell kept,Counters.added_perm arrived,idle,add_zero]

theorem run_assigned {items : List (Cell × Nat)} {history : List (Command Cell)} (store : Store)
    (distinct : (items.map Prod.fst).Nodup) (arrived : history.Perm (items.map assignment)) {item : Cell × Nat}
    (member : item ∈ items) : value (Counters.run store history) item.1 = item.2 := by
  have none : ∀ command ∈ ([] : List (Command Cell)), command.isIncr = true := by simp
  have settled : Settled store history item.1 item.2 := settled_item distinct none (by simpa using arrived) member
  obtain ⟨before,after,parts,reached⟩ := settled
  have idle : added item.1 after = 0 := by
    refine List.sum_eq_zero (fun increment inside => ?_)
    obtain ⟨command,listed,rfl⟩ := List.mem_map.mp inside
    have sent : command ∈ history := by simp [parts,listed]
    obtain ⟨other,_,rfl⟩ := List.mem_map.mp (arrived.mem_iff.mp sent)
    rfl
  rw [reached,idle,add_zero]

/-- What a run makes of the counters of a namespace. -/
theorem run_values (collecting : config.collectEventQueueMetrics = true) {reads : List (TenantRead config)}
    (distinct : (reads.map TenantRead.tenantId).Nodup)
    (plain : ∀ name ∈ config.app.processingNamespaces, '#' ∉ name.toList) (store : Store) {history : List (Command Cell)}
    (arrived : history.Perm (executeEventsAllTenantsRedis config eventMap reads)) {nameSpace : String}
    (processed : nameSpace ∈ config.app.processingNamespaces) :
    value (Counters.run store history) (globalCell config nameSpace .Pending) = totalCount reads nameSpace ∧
      (∀ read ∈ reads, read.answer.isSome →
        value (Counters.run store history) (tenantCell config read.tenantId nameSpace .Pending) =
          openCount read nameSpace) ∧
      ∀ tenantId, (∀ read ∈ reads, read.tenantId = tenantId → read.answer = none) →
        value (Counters.run store history) (tenantCell config tenantId nameSpace .Pending) =
          value store (tenantCell config tenantId nameSpace .Pending) := by
  rw [run_items config eventMap collecting] at arrived
  have apart := runItems_nodup config eventMap distinct plain
  refine ⟨?_,fun read member answered => ?_,fun tenantId failed => ?_⟩
  · exact run_assigned store apart arrived
      (List.mem_append_right _ (globalItem_mem config eventMap distinct processed))
  · obtain ⟨groups,found⟩ := Option.isSome_iff_exists.mp answered
    exact run_assigned store apart arrived
      (List.mem_append_left _ (List.mem_flatMap.mpr ⟨read,member,tenantItem_mem config found processed⟩))
  · exact run_elsewhere store arrived (tenant_absent config eventMap distinct plain processed failed)

/-- A run leaves the events in progress alone. -/
theorem run_inProgress {reads : List (TenantRead config)} (distinct : (reads.map TenantRead.tenantId).Nodup)
    (store : Store) {history : List (Command Cell)}
    (arrived : history.Perm (executeEventsAllTenantsRedis config eventMap reads)) {cell : Cell}
    (own : cell.2 = .InProgress) : value (Counters.run store history) cell = value store cell := by
  by_cases collecting : config.collectEventQueueMetrics = true
  · rw [run_items config eventMap collecting] at arrived
    refine run_elsewhere store arrived (fun item member same => ?_)
    rw [← same] at own
    obtain inside | listed := List.mem_append.mp member
    · obtain ⟨read,_,assigned⟩ := List.mem_flatMap.mp inside
      obtain ⟨nameSpace,_,at_⟩ := mem_tenantItems config assigned
      rw [at_] at own
      cases own
    · obtain ⟨nameSpace,_,at_⟩ := mem_globalItems config eventMap distinct listed
      rw [at_] at own
      cases own
  · have nothing : history = [] := by simpa [executeEventsAllTenantsRedis,collecting] using arrived
    rw [nothing]
    rfl

theorem totalCount_answered {reads : List (TenantRead config)} (answered : ∀ read ∈ reads, read.answer.isSome)
    (nameSpace : String) : totalCount reads nameSpace = (reads.map (fun read => openCount read nameSpace)).sum := by
  rw [totalCount,List.filter_eq_self.mpr answered]

theorem addUp_run {tenants : List String} (distinct : tenants.Nodup) (named : config.app.nameSpace ≠ "")
    (plain : ∀ name ∈ config.app.processingNamespaces, '#' ∉ name.toList)
    (own : config.app.nameSpace ∈ config.app.processingNamespaces) {reads : List (TenantRead config)}
    (all : (reads.map TenantRead.tenantId).Perm tenants) (answered : ∀ read ∈ reads, read.answer.isSome)
    {store : Store} {field : StatusField} (before : AddUp config tenants store field) {history : List (Command Cell)}
    (arrived : history.Perm (executeEventsAllTenantsRedis config eventMap reads)) :
    AddUp config tenants (Counters.run store history) field := by
  have apart := all.nodup_iff.mpr distinct
  rw [addUp_iff config named] at before ⊢
  cases field with
  | InProgress =>
    have kept : ∀ cell : Cell, cell.2 = .InProgress → value (Counters.run store history) cell = value store cell :=
      fun cell => run_inProgress config eventMap apart store arrived
    rw [kept _ rfl,before]
    exact congrArg List.sum (List.map_congr_left (fun tenantId _ => (kept _ rfl).symm))
  | Pending =>
    by_cases collecting : config.collectEventQueueMetrics = true
    · obtain ⟨total,each,_⟩ := run_values config eventMap collecting apart plain store arrived own
      rw [total,totalCount_answered config answered,← (all.map _).sum_eq,List.map_map]
      push_cast
      rw [List.map_map]
      exact congrArg List.sum (List.map_congr_left (fun read member => (each read member (answered read member)).symm))
    · have nothing : history = [] := by simpa [executeEventsAllTenantsRedis,collecting] using arrived
      rw [nothing]
      exact before

theorem tenantKey_matches (named : config.app.nameSpace ≠ "") (tenantId : String) :
    matchesTenantStats (tenantKey config (some tenantId)) = true := by
  have key := congrArg Prod.fst (tenantKey_cell config named tenantId .Pending)
  simp only at key
  refine decide_eq_true ⟨REDIS_PREFIX.toList ++ '#' :: '#' :: config.app.nameSpace.toList,tenantId.toList,?_⟩
  rw [key,tenantCell_chars]
  simp [tenantMark]

theorem reset_command {keys : List String} {command : Command Cell}
    (member : command ∈ resetInProgressCounters config keys) : ∃ key, command = .assign (key,.InProgress) 0 := by
  obtain listed | scanned := List.mem_append.mp member
  · obtain ⟨nameSpace,_,rfl⟩ := List.mem_map.mp listed
    exact ⟨_,rfl⟩
  · obtain ⟨key,_,rfl⟩ := List.mem_map.mp scanned
    exact ⟨key,rfl⟩

theorem addUp_reset {tenants : List String} (named : config.app.nameSpace ≠ "")
    (own : config.app.nameSpace ∈ config.app.processingNamespaces) {keys : List String} {store : Store}
    (scanned : ∀ tenantId ∈ tenants, (∃ field, (store (tenantKey config (some tenantId),field)).isSome) →
      tenantKey config (some tenantId) ∈ keys) {field : StatusField} (before : AddUp config tenants store field)
    {history : List (Command Cell)} (arrived : history.Perm (resetInProgressCounters config keys)) :
    AddUp config tenants (Counters.run store history) field := by
  have form : ∀ command ∈ history, ∃ key, command = .assign (key,.InProgress) 0 :=
    fun command member => reset_command config (arrived.mem_iff.mp member)
  have idle : ∀ cell, ∀ command ∈ history, command.increment cell = 0 := by
    intro cell command member
    obtain ⟨key,rfl⟩ := form command member
    rfl
  rw [addUp_iff config named] at before ⊢
  cases field with
  | Pending =>
    have kept : ∀ cell : Cell, cell.2 = .Pending → value (Counters.run store history) cell = value store cell := by
      intro cell pending
      have unassigned : ∀ command ∈ history, command.assigns cell = false := by
        intro command member
        obtain ⟨key,rfl⟩ := form command member
        refine decide_eq_false (fun same => ?_)
        rw [← same] at pending
        cases pending
      rw [Counters.value_run store history cell unassigned,added,List.sum_eq_zero,add_zero]
      intro increment inside
      obtain ⟨command,member,rfl⟩ := List.mem_map.mp inside
      exact idle cell command member
    rw [kept _ rfl,before]
    exact congrArg List.sum (List.map_congr_left (fun tenantId _ => (kept _ rfl).symm))
  | InProgress =>
    have zero : ∀ cell, ∀ command ∈ history, command.assigns cell = true → command = .assign cell 0 := by
      intro cell command member assigned
      obtain ⟨key,rfl⟩ := form command member
      rw [of_decide_eq_true assigned]
    have total : value (Counters.run store history) (globalCell config config.app.nameSpace .InProgress) = 0 := by
      refine Counters.value_run_zero (zero _) (idle _) (Or.inr ⟨setGlobalCounter config config.app.nameSpace .InProgress 0,
        arrived.mem_iff.mpr (List.mem_append_left _ (List.mem_map_of_mem own)),?_⟩)
      simp [setGlobalCounter,globalCell,Command.assigns]
    have each : ∀ tenantId ∈ tenants,
        value (Counters.run store history) (tenantCell config tenantId config.app.nameSpace .InProgress) = 0 := by
      intro tenantId known
      refine Counters.value_run_zero (zero _) (idle _) ?_
      rw [← tenantKey_cell config named]
      by_cases present : (store (tenantKey config (some tenantId),.InProgress)).isSome
      · have listed := List.mem_filter.mpr ⟨scanned tenantId known ⟨_,present⟩,tenantKey_matches config named tenantId⟩
        exact Or.inr ⟨.assign (tenantKey config (some tenantId),.InProgress) 0,
          arrived.mem_iff.mpr (List.mem_append_right _ (List.mem_map.mpr ⟨_,listed,rfl⟩)),by simp [Command.assigns]⟩
      · rw [Option.not_isSome_iff_eq_none] at present
        exact Or.inl (by simp [value,present])
    rw [total,List.map_congr_left each]
    simp

/-- Over every history of committed transactions, runs that read all tenants and resets, whatever the order in which the
commands of each reach Redis: the counters of the namespace are the sums of those of the tenants. -/
theorem counters_add_up (named : config.app.nameSpace ≠ "")
    (plain : ∀ name ∈ config.app.processingNamespaces, '#' ∉ name.toList)
    (own : config.app.nameSpace ∈ config.app.processingNamespaces) (tenants : List String) (distinct : tenants.Nodup)
    (store final : Store) (initial : ∀ field, AddUp config tenants store field)
    (arrivals : List (Arrival config eventMap))
    (covered : Transition.Along (step config eventMap)
      (fun store arrival => Covers config tenants store arrival.phase) store arrivals)
    (reached : Transition.run (step config eventMap) store arrivals = some final) (field : StatusField) :
    AddUp config tenants final field := by
  refine Transition.invariant (step config eventMap) (fun store arrival => Covers config tenants store arrival.phase)
    (fun store => ∀ field, AddUp config tenants store field) ?_ store final arrivals initial covered reached field
  intro store arrival next before covers stepped field
  cases stepped
  obtain ⟨phase,history,arrived⟩ := arrival
  cases phase with
  | transactions committed =>
    exact addUp_transactions config distinct named (plain _ own) (before field) covers arrived
  | run reads => exact addUp_run config eventMap distinct named plain own covers.1 covers.2 (before field) arrived
  | reset keys => exact addUp_reset config named own covers (before field) arrived

def wasRead {config : Config} (reads : List (TenantRead config)) (tenantId : String) : Bool :=
  reads.any (fun read => decide (read.tenantId = tenantId) && read.answer.isSome)

theorem read_tenants_perm {tenants : List String} (distinct : tenants.Nodup) {reads : List (TenantRead config)}
    (apart : (reads.map TenantRead.tenantId).Nodup) (known : ∀ read ∈ reads, read.tenantId ∈ tenants) :
    (tenants.filter (wasRead reads)).Perm ((reads.filter (fun read => read.answer.isSome)).map TenantRead.tenantId) := by
  refine (List.perm_ext_iff_of_nodup (distinct.filter _) (apart.sublist (List.filter_sublist.map _))).mpr ?_
  intro tenantId
  simp only [List.mem_filter,List.mem_map,wasRead,List.any_eq_true,Bool.and_eq_true,decide_eq_true_eq]
  constructor
  · rintro ⟨_,read,member,same,answered⟩
    exact ⟨read,⟨member,answered⟩,same⟩
  · rintro ⟨read,⟨member,answered⟩,rfl⟩
    exact ⟨known read member,read,member,rfl,answered⟩

/-- After a run the counters add up iff what the tenants it could not read had left over sums up to nothing. -/
theorem run_adds_up_iff (collecting : config.collectEventQueueMetrics = true) (named : config.app.nameSpace ≠ "")
    (plain : ∀ name ∈ config.app.processingNamespaces, '#' ∉ name.toList)
    (own : config.app.nameSpace ∈ config.app.processingNamespaces) (tenants : List String) (distinct : tenants.Nodup)
    (reads : List (TenantRead config)) (apart : (reads.map TenantRead.tenantId).Nodup)
    (known : ∀ read ∈ reads, read.tenantId ∈ tenants) (store : Store) (history : List (Command Cell))
    (arrived : history.Perm (executeEventsAllTenantsRedis config eventMap reads)) :
    AddUp config tenants (Counters.run store history) .Pending ↔
      ((tenants.filter (fun tenantId => !wasRead reads tenantId)).map
        (fun tenantId => (getTenantStats config store (some tenantId)).pending)).sum = 0 := by
  obtain ⟨total,each,others⟩ := run_values config eventMap collecting apart plain store arrived own
  have readPart : ((tenants.filter (wasRead reads)).map (fun tenantId => value (Counters.run store history)
      (tenantCell config tenantId config.app.nameSpace .Pending))).sum = totalCount reads config.app.nameSpace := by
    rw [((read_tenants_perm config distinct apart known).map _).sum_eq,List.map_map,totalCount]
    push_cast
    rw [List.map_map]
    refine congrArg List.sum (List.map_congr_left (fun read member => ?_))
    exact each read (List.mem_filter.mp member).1 (List.mem_filter.mp member).2
  have leftPart : ((tenants.filter (fun tenantId => !wasRead reads tenantId)).map
      (fun tenantId => value (Counters.run store history)
        (tenantCell config tenantId config.app.nameSpace .Pending))).sum =
      ((tenants.filter (fun tenantId => !wasRead reads tenantId)).map
        (fun tenantId => (getTenantStats config store (some tenantId)).pending)).sum := by
    refine congrArg List.sum (List.map_congr_left (fun tenantId member => ?_))
    have failed : ∀ read ∈ reads, read.tenantId = tenantId → read.answer = none := by
      intro read listed same
      have unread := (List.mem_filter.mp member).2
      by_contra answered
      have seen : wasRead reads tenantId = true := List.any_eq_true.mpr ⟨read,listed,by
        simpa [same,Option.isSome_iff_ne_none] using answered⟩
      simp [seen] at unread
    rw [others tenantId failed,← tenantKey_cell config named]
    rfl
  rw [addUp_iff config named,total,← ((List.filter_append_perm (wasRead reads) tenants).map _).sum_eq,
    List.map_append,List.sum_append,readPart,leftPart]
  omega

end

/-- Both tenants publish, a run reads them, an instance starts. -/
def exampleArrivals : List (Arrival exampleConfig OpenEvents.everyEvent) :=
  [⟨.transactions [(some "t1",⟨1,0,0⟩),(some "t2",⟨2,-1,1⟩)],_,List.Perm.refl _⟩,
    ⟨.run [exampleRead "t1" [OpenEvents.stuckRow],exampleRead "t2" []],_,List.Perm.refl _⟩,
    ⟨.reset ["EVENT_QUEUE##default##stats##tenant##t1","EVENT_QUEUE##default##stats##tenant##t2"],_,List.Perm.refl _⟩]

theorem example_covered :
    Transition.Along (step exampleConfig OpenEvents.everyEvent)
      (fun store arrival => Covers exampleConfig ["t1","t2"] store arrival.phase) (fun _ => none) exampleArrivals := by
  refine ⟨?_,fun _ _ => ⟨⟨List.Perm.refl _,?_⟩,fun _ _ => ⟨?_,fun _ _ => trivial⟩⟩⟩
  · intro transaction member
    revert transaction
    decide +kernel
  · simp [exampleRead]
  · have scanned : ∀ tenantId ∈ ["t1","t2"], tenantKey exampleConfig (some tenantId) ∈
        ["EVENT_QUEUE##default##stats##tenant##t1","EVENT_QUEUE##default##stats##tenant##t2"] := by decide +kernel
    exact fun tenantId member _ => scanned tenantId member

theorem counters_add_up_two_tenants :
    ∃ final, Transition.run (step exampleConfig OpenEvents.everyEvent) (fun _ => none) exampleArrivals = some final ∧
      getGlobalStats exampleConfig final = ⟨1,0⟩ ∧ ∀ field, AddUp exampleConfig ["t1","t2"] final field := by
  refine ⟨_,rfl,by decide +kernel,fun field => ?_⟩
  exact counters_add_up exampleConfig OpenEvents.everyEvent (by decide +kernel) example_plain (by decide +kernel)
    ["t1","t2"] (by decide +kernel) (fun _ => none) _
    (fun field => by cases field <;> rfl) exampleArrivals example_covered rfl field

/-- The second tenant, which the run cannot read, had published two events. -/
theorem run_adds_up_iff_failed_tenant :
    ¬AddUp exampleConfig ["t1","t2"]
      (Counters.run (Counters.run (fun _ => none) (succeeded exampleConfig (some "t2") ⟨2,0,0⟩)) exampleRun) .Pending := by
  rw [run_adds_up_iff exampleConfig OpenEvents.everyEvent rfl (by decide +kernel) example_plain (by decide +kernel)
    ["t1","t2"] (by decide +kernel) exampleReads (by decide +kernel) (by decide +kernel) _ exampleRun (List.Perm.refl _)]
  decide +kernel

end EventQueue.EventQueueStats

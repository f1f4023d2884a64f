import EventQueue.Lib.Counters
import EventQueue.Lib.Transition
import EventQueue.LockListing
import EventQueue.OpenEvents
import EventQueue.QueueStats

/-! The counters of `shared/eventQueueStats.js` in Redis: the handlers after a commit add to them, the run over all
tenants sets them to what the tables hold, the start of an instance resets one of their fields. -/
namespace EventQueue.EventQueueStats
open Counters (Command value added tally)
open LockListing (OtherKey keyPrefix)
open OpenEvents (Application EventMap grouped whereOpen getOpenQueueEntries)
open DistributedLock (redisNamespace REDIS_PREFIX)
open QueueStats (TxStats)

inductive StatusField
  | Pending
  | InProgress
  deriving DecidableEq

/-- A key of Redis and a field of its hash. -/
abbrev Cell := String × StatusField

abbrev Store := Counters.Store Cell

structure Config where
  app : Application
  redisEnabled : Bool
  collectEventQueueMetrics : Bool

/-- A tenant that is not there is written into a key as this text. -/
def tenantText (tenantId : Option String) : String := tenantId.getD "undefined"

section
variable (config : Config)

def tenantKey (tenantId : Option String) : String :=
  (OtherKey.tenantKey (tenantText tenantId)).key config.app.nameSpace

def globalKey : String := OtherKey.globalKey.key config.app.nameSpace

def adjustTenantCounter (tenantId : Option String) (field : StatusField) (increment : Int) : Command Cell :=
  .incr (tenantKey config tenantId,field) increment

def adjustGlobalCounter (field : StatusField) (increment : Int) : Command Cell :=
  .incr (globalKey config,field) increment

def incrementCounters (tenantId : Option String) (field : StatusField) (increment : Int) : List (Command Cell) :=
  [adjustTenantCounter config tenantId field increment,adjustGlobalCounter config field increment]

def setTenantCounter (tenantId nameSpace : String) (field : StatusField) (count : Nat) : Command Cell :=
  .assign ((OtherKey.tenantCounter nameSpace tenantId).key config.app.nameSpace,field) count

def setGlobalCounter (nameSpace : String) (field : StatusField) (count : Nat) : Command Cell :=
  .assign ((OtherKey.globalCounter nameSpace).key config.app.nameSpace,field) count

structure Stats where
  pending : Int
  inProgress : Int
  deriving DecidableEq

/-- `_parseCounterHash` of what is stored under a key. -/
def readStats (store : Store) (key : String) : Stats :=
  ⟨value store (key,.Pending),value store (key,.InProgress)⟩

def getTenantStats (store : Store) (tenantId : Option String) : Stats := readStats store (tenantKey config tenantId)

def getGlobalStats (store : Store) : Stats := readStats store (globalKey config)

/-- The commands of the two `succeeded` handlers of a transaction. -/
def succeeded (tenant : Option String) (tx : TxStats) : List (Command Cell) :=
  if config.collectEventQueueMetrics && config.redisEnabled then
    (if tx.eventQueueStatsOpenCount ≠ 0 then incrementCounters config tenant .Pending tx.eventQueueStatsOpenCount
      else []) ++
    (if tx.eventQueueStatsPendingDelta ≠ 0 then
      incrementCounters config tenant .Pending tx.eventQueueStatsPendingDelta else []) ++
    (if tx.eventQueueStatsInProgressDelta ≠ 0 then
      incrementCounters config tenant .InProgress tx.eventQueueStatsInProgressDelta else [])
  else []

/-- A tenant in the loop of a run. The answer of the query comes in any order, and is missing if the tenant could not
be read. -/
structure TenantRead where
  tenantId : String
  rows : List Selection.Row
  now : Nat
  answer : Option (List OpenEvents.Group)
  answered : ∀ groups ∈ answer, groups.Perm (grouped (rows.filter (whereOpen config.app now)))

variable (eventMap : EventMap)

def TenantRead.entries {config : Config} (read : TenantRead config) : Option (List OpenEvents.Group) :=
  read.answer.map (fun groups => (getOpenQueueEntries config.app false eventMap groups).result)

/-- An object with a zero for every processing namespace. -/
def zeros : Dict Nat := config.app.processingNamespaces.foldl (fun dict name => dict.set name 0) Dict.empty

def groupNamespace (group : OpenEvents.Group) : String := group.combination.nameSpace.getD "null"

def pendingByNamespace (entries : List OpenEvents.Group) : Dict Nat :=
  tally groupNamespace OpenEvents.Group.count entries (zeros config)

def tenantCounters (read : TenantRead config) : List (Command Cell) :=
  ((read.entries eventMap).map (fun entries => (pendingByNamespace config entries).entries.map
    (fun entry => setTenantCounter config read.tenantId entry.1 .Pending entry.2))).getD []

/-- The object of the entries of each tenant that could be read. -/
def tenantCounts (reads : List (TenantRead config)) : Dict (List OpenEvents.Group) :=
  reads.foldl (fun counts read =>
    ((read.entries eventMap).map (fun entries => counts.set read.tenantId entries)).getD counts) Dict.empty

def globalPendingByNamespace (reads : List (TenantRead config)) : Dict Nat :=
  tally groupNamespace OpenEvents.Group.count ((tenantCounts config eventMap reads).entries.flatMap Prod.snd) (zeros config)

/-- What `_executeEventsAllTenantsRedis` sends to Redis for the counters. -/
def executeEventsAllTenantsRedis (reads : List (TenantRead config)) : List (Command Cell) :=
  if config.collectEventQueueMetrics then
    reads.flatMap (tenantCounters config eventMap) ++
      (globalPendingByNamespace config eventMap reads).entries.map
        (fun entry => setGlobalCounter config entry.1 .Pending entry.2)
  else []

def tenantMark : String := "##stats##tenant##"

/-- The pattern `*##stats##tenant##*` of the scan. -/
def matchesTenantStats (key : String) : Bool := decide (tenantMark.toList <:+: key.toList)

/-- `keys` is what the scan runs through; it may come across a key twice. -/
def resetInProgressCounters (keys : List String) : List (Command Cell) :=
  config.app.processingNamespaces.map (fun nameSpace => setGlobalCounter config nameSpace .InProgress 0) ++
    (keys.filter matchesTenantStats).map (fun key => .assign (key,.InProgress) 0)


/-- The rows of a tenant that wait in a namespace, as the query of the run sees them. -/
def openCount {config : Config} (read : TenantRead config) (nameSpace : String) : Nat :=
  (read.rows.filter (whereOpen config.app read.now)).countP (fun row => decide (row.nameSpace = some nameSpace))

def tenantCell (tenantId nameSpace : String) (field : StatusField) : Cell :=
  ((OtherKey.tenantCounter nameSpace tenantId).key config.app.nameSpace,field)

def globalCell (nameSpace : String) (field : StatusField) : Cell :=
  ((OtherKey.globalCounter nameSpace).key config.app.nameSpace,field)

/-- The cell is assigned once in the history, and increased by what follows. -/
def Settled (store : Store) (history : List (Command Cell)) (cell : Cell) (assigned : Int) : Prop :=
  ∃ before after, history = before ++ .assign cell assigned::after ∧
    value (Counters.run store history) cell = assigned + added cell after

theorem entries_answer {config : Config} (read : TenantRead config) : read.entries eventMap = read.answer := by
  have pushed (groups : List OpenEvents.Group) (state : OpenEvents.State) :
      (groups.foldl (OpenEvents.handleGroup config.app false) state).result = state.result ++ groups := by
    induction groups generalizing state with
    | nil => simp
    | cons group rest ih =>
      rw [List.foldl_cons,ih]
      simp [OpenEvents.handleGroup,OpenEvents.State.push]
  cases answered : read.answer with
  | none => simp [TenantRead.entries,answered]
  | some groups => simp [TenantRead.entries,answered,getOpenQueueEntries,pushed]

/-- The groups of a namespace hold its rows. -/
theorem sum_grouped (rows : List Selection.Row) (name : String) :
    (((grouped rows).filter (fun group => groupNamespace group = name)).map OpenEvents.Group.count).sum =
      rows.countP (fun row => decide (row.nameSpace.getD "null" = name)) := by
  have counted := List.sum_map_count_dedup_filter_eq_countP
    (fun combination : OpenEvents.Combination => decide (combination.nameSpace.getD "null" = name))
    (rows.map OpenEvents.combinationOf)
  rw [List.countP_map] at counted
  simp only [grouped,List.filter_map,List.map_map]
  refine Eq.trans ?_ counted
  refine congrArg List.sum (List.map_congr_left (fun combination _ => ?_))
  rw [List.count_eq_countP,List.countP_map]
  exact List.countP_congr (fun row _ => by simp)

theorem sum_answer {read : TenantRead config} {groups : List OpenEvents.Group} (answered : read.answer = some groups)
    (nameSpace : String) :
    ((groups.filter (fun group => groupNamespace group = nameSpace)).map OpenEvents.Group.count).sum =
      openCount read nameSpace := by
  have arranged := read.answered groups answered
  rw [((arranged.filter _).map OpenEvents.Group.count).sum_eq,sum_grouped]
  refine List.countP_congr (fun row member => ?_)
  have visible := (List.mem_filter.mp member).2
  simp only [whereOpen,Bool.and_eq_true,Option.any_eq_true] at visible
  obtain ⟨own,named,_⟩ := visible.1.1.1
  simp [named]

theorem answer_processed {read : TenantRead config} {groups : List OpenEvents.Group} (answered : read.answer = some groups)
    {group : OpenEvents.Group} (member : group ∈ groups) : groupNamespace group ∈ config.app.processingNamespaces := by
  have listed := (read.answered groups answered).mem_iff.mp member
  obtain ⟨row,inside,same⟩ := OpenEvents.mem_grouped.mp ⟨group,listed,rfl⟩
  have visible := (List.mem_filter.mp inside).2
  simp only [whereOpen,Bool.and_eq_true,Option.any_eq_true] at visible
  obtain ⟨own,named,processed⟩ := visible.1.1.1
  rw [groupNamespace,← same]
  simpa [OpenEvents.combinationOf,named] using processed

theorem mem_keys_zeros (name : String) : name ∈ (zeros config).keys ↔ name ∈ config.app.processingNamespaces := by
  rw [Dict.mem_keys,zeros,Dict.get?_setAll]
  by_cases listed : name ∈ config.app.processingNamespaces
  · simp [listed]
  · simp [listed]

theorem get?_zeros (name : String) : ((zeros config).get? name).getD 0 = 0 := by
  rw [zeros,Dict.get?_setAll]
  split
  · rfl
  · rfl

theorem keys_pending {entries : List OpenEvents.Group}
    (inside : ∀ group ∈ entries, groupNamespace group ∈ config.app.processingNamespaces) (name : String) :
    name ∈ (tally groupNamespace OpenEvents.Group.count entries (zeros config)).keys ↔
      name ∈ config.app.processingNamespaces := by
  rw [Counters.mem_keys_tally,mem_keys_zeros]
  constructor
  · rintro (listed | ⟨group,member,rfl⟩)
    · exact listed
    · exact inside group member
  · exact Or.inl

theorem get?_pending {entries : List OpenEvents.Group} {name : String}
    (inside : ∀ group ∈ entries, groupNamespace group ∈ config.app.processingNamespaces)
    (processed : name ∈ config.app.processingNamespaces) :
    (tally groupNamespace OpenEvents.Group.count entries (zeros config)).get? name =
      some ((entries.filter (fun group => groupNamespace group = name)).map OpenEvents.Group.count).sum := by
  obtain ⟨count,found⟩ := Dict.mem_keys.mp ((keys_pending config inside name).mpr processed)
  have total := Counters.get?_tally groupNamespace OpenEvents.Group.count entries (zeros config) name
  rw [found,get?_zeros,Option.getD_some,Nat.zero_add] at total
  rw [found,total]

theorem tenantCell_chars (tenantId nameSpace : String) (field : StatusField) :
    (tenantCell config tenantId nameSpace field).1.toList =
      REDIS_PREFIX.toList ++ '#' :: '#' :: (nameSpace.toList ++ '#' :: ("#stats##tenant##".toList ++ tenantId.toList)) := by
  simp [tenantCell,OtherKey.key,keyPrefix,redisNamespace]

theorem globalCell_chars (nameSpace : String) (field : StatusField) :
    (globalCell config nameSpace field).1.toList =
      REDIS_PREFIX.toList ++ '#' :: '#' :: (nameSpace.toList ++ '#' :: "#stats##global".toList) := by
  simp [globalCell,OtherKey.key,keyPrefix,redisNamespace]

theorem prefixed_inj {first second rest others : List Char} (plain : '#' ∉ first) (plainOther : '#' ∉ second)
    (same : REDIS_PREFIX.toList ++ '#' :: '#' :: (first ++ '#' :: rest) =
      REDIS_PREFIX.toList ++ '#' :: '#' :: (second ++ '#' :: others)) : first = second ∧ rest = others := by
  have tails := List.append_cancel_left same
  exact Separated.plain_before_inj plain plainOther (List.cons.inj (List.cons.inj tails).2).2

theorem tenantCell_inj {tenantId other nameSpace otherNamespace : String} {field : StatusField}
    (plain : '#' ∉ nameSpace.toList) (plainOther : '#' ∉ otherNamespace.toList)
    (same : tenantCell config tenantId nameSpace field = tenantCell config other otherNamespace field) :
    tenantId = other ∧ nameSpace = otherNamespace := by
  have chars := congrArg String.toList (congrArg Prod.fst same)
  rw [tenantCell_chars,tenantCell_chars] at chars
  obtain ⟨names,tails⟩ := prefixed_inj plain plainOther chars
  exact ⟨String.toList_injective (List.append_cancel_left tails),String.toList_injective names⟩

theorem globalCell_inj {nameSpace otherNamespace : String} {field : StatusField}
    (plain : '#' ∉ nameSpace.toList) (plainOther : '#' ∉ otherNamespace.toList)
    (same : globalCell config nameSpace field = globalCell config otherNamespace field) : nameSpace = otherNamespace := by
  have chars := congrArg String.toList (congrArg Prod.fst same)
  rw [globalCell_chars,globalCell_chars] at chars
  exact String.toList_injective (prefixed_inj plain plainOther chars).1

theorem tenantCell_ne_globalCell {tenantId nameSpace otherNamespace : String} {field : StatusField}
    (plain : '#' ∉ nameSpace.toList) (plainOther : '#' ∉ otherNamespace.toList) :
    tenantCell config tenantId nameSpace field ≠ globalCell config otherNamespace field := by
  intro same
  have chars := congrArg String.toList (congrArg Prod.fst same)
  rw [tenantCell_chars,globalCell_chars] at chars
  have tails := (prefixed_inj plain plainOther chars).2
  simp at tails

/-- The assignments of a tenant that could be read. -/
def tenantItems (read : TenantRead config) : List (Cell × Nat) :=
  (read.answer.map (fun groups => (pendingByNamespace config groups).entries.map
    (fun entry => (tenantCell config read.tenantId entry.1 .Pending,entry.2)))).getD []

def globalItems (reads : List (TenantRead config)) : List (Cell × Nat) :=
  (globalPendingByNamespace config eventMap reads).entries.map
    (fun entry => (globalCell config entry.1 .Pending,entry.2))

def assignment (item : Cell × Nat) : Command Cell := .assign item.1 item.2

theorem run_items (collecting : config.collectEventQueueMetrics = true) (reads : List (TenantRead config)) :
    executeEventsAllTenantsRedis config eventMap reads =
      (reads.flatMap (tenantItems config) ++ globalItems config eventMap reads).map assignment := by
  have each (read : TenantRead config) :
      tenantCounters config eventMap read = (tenantItems config read).map assignment := by
    rw [tenantCounters,tenantItems,entries_answer]
    cases read.answer with
    | none => rfl
    | some groups => simp [assignment,setTenantCounter,tenantCell,Function.comp_def]
  simp only [executeEventsAllTenantsRedis,collecting,if_true,List.map_append,List.map_flatMap]
  refine congrArg₂ (fun first second => first ++ second) (List.flatMap_congr (fun read _ => each read)) ?_
  simp [globalItems,assignment,setGlobalCounter,globalCell,Function.comp_def]

/-- With different tenants, the object has the answers in their order. -/
theorem tenantCounts_entries {reads : List (TenantRead config)} (distinct : (reads.map TenantRead.tenantId).Nodup) :
    (tenantCounts config eventMap reads).entries =
      reads.filterMap (fun read => read.answer.map (fun groups => (read.tenantId,groups))) := by
  induction reads using List.reverseRecOn with
  | nil => rfl
  | append_singleton reads read ih =>
    rw [List.map_append,List.nodup_append] at distinct
    have before := ih distinct.1
    have step : tenantCounts config eventMap (reads ++ [read]) =
        (read.answer.map (fun groups => (tenantCounts config eventMap reads).set read.tenantId groups)).getD
          (tenantCounts config eventMap reads) := by
      simp [tenantCounts,List.foldl_append,entries_answer]
    rw [step,List.filterMap_append]
    cases answered : read.answer with
    | none => simpa [answered] using before
    | some groups =>
      have fresh : read.tenantId ∉ (tenantCounts config eventMap reads).keys := by
        intro listed
        rw [Dict.keys,before,List.map_filterMap] at listed
        obtain ⟨other,member,named⟩ := List.mem_filterMap.mp listed
        obtain ⟨otherGroups,_,same⟩ := Option.map_eq_some_iff.mp
          ((Option.map_map ..).symm.trans named)
        exact distinct.2.2 _ (List.mem_map_of_mem member) _ (List.mem_singleton.mpr rfl) same
      simp [Dict.set_fresh fresh,before,answered]

theorem tenantItems_eq {read : TenantRead config} {groups : List OpenEvents.Group} (answered : read.answer = some groups) :
    tenantItems config read = (pendingByNamespace config groups).entries.map
      (fun entry => (tenantCell config read.tenantId entry.1 .Pending,entry.2)) := by
  simp [tenantItems,answered]

theorem mem_tenantItems {read : TenantRead config} {item : Cell × Nat} (member : item ∈ tenantItems config read) :
    ∃ nameSpace ∈ config.app.processingNamespaces, item.1 = tenantCell config read.tenantId nameSpace .Pending := by
  cases answered : read.answer with
  | none => simp [tenantItems,answered] at member
  | some groups =>
    rw [tenantItems_eq config answered] at member
    obtain ⟨entry,listed,rfl⟩ := List.mem_map.mp member
    refine ⟨entry.1,?_,rfl⟩
    exact (keys_pending config (fun group inside => answer_processed config answered inside) entry.1).mp
      (List.mem_map_of_mem listed)

theorem tenantItem_mem {read : TenantRead config} {groups : List OpenEvents.Group} (answered : read.answer = some groups)
    {nameSpace : String} (processed : nameSpace ∈ config.app.processingNamespaces) :
    (tenantCell config read.tenantId nameSpace .Pending,openCount read nameSpace) ∈ tenantItems config read := by
  rw [tenantItems_eq config answered]
  have found := get?_pending config (fun group inside => answer_processed config answered inside) processed
  rw [sum_answer config answered] at found
  exact List.mem_map.mpr ⟨(nameSpace,openCount read nameSpace),Dict.mem_entries.mpr found,rfl⟩

theorem tenantItems_nodup {read : TenantRead config}
    (plain : ∀ name ∈ config.app.processingNamespaces, '#' ∉ name.toList) :
    ((tenantItems config read).map Prod.fst).Nodup := by
  cases answered : read.answer with
  | none => simp [tenantItems,answered]
  | some groups =>
    rw [tenantItems_eq config answered,List.map_map]
    have names := (pendingByNamespace config groups).nodup
    have processed : ∀ entry ∈ (pendingByNamespace config groups).entries, entry.1 ∈ config.app.processingNamespaces :=
      fun entry listed => (keys_pending config (fun group inside => answer_processed config answered inside) entry.1).mp
        (List.mem_map_of_mem listed)
    refine List.Nodup.map_on (fun entry listed other member same => ?_) (List.Nodup.of_map _ names)
    have equal := (tenantCell_inj config (plain _ (processed entry listed)) (plain _ (processed other member)) same).2
    exact List.inj_on_of_nodup_map names listed member equal

/-- The answers of all tenants that could be read. -/
def answers (reads : List (TenantRead config)) : List OpenEvents.Group := reads.flatMap (fun read => read.answer.getD [])

theorem globalPending_eq {reads : List (TenantRead config)} (distinct : (reads.map TenantRead.tenantId).Nodup) :
    globalPendingByNamespace config eventMap reads =
      tally groupNamespace OpenEvents.Group.count (answers config reads) (zeros config) := by
  have collected : (tenantCounts config eventMap reads).entries.flatMap Prod.snd = answers config reads := by
    rw [tenantCounts_entries config eventMap distinct]
    clear distinct
    induction reads with
    | nil => rfl
    | cons read rest ih =>
      cases answered : read.answer with
      | none => simpa [answers,answered] using ih
      | some groups => simpa [answers,answered] using ih
  rw [globalPendingByNamespace,collected]

/-- The rows that wait in a namespace over all tenants that could be read. -/
def totalCount {config : Config} (reads : List (TenantRead config)) (nameSpace : String) : Nat :=
  ((reads.filter (fun read => read.answer.isSome)).map (fun read => openCount read nameSpace)).sum

theorem sum_answers (reads : List (TenantRead config)) (nameSpace : String) :
    (((answers config reads).filter (fun group => groupNamespace group = nameSpace)).map OpenEvents.Group.count).sum =
      totalCount reads nameSpace := by
  induction reads with
  | nil => rfl
  | cons read rest ih =>
    simp only [answers,List.flatMap_cons,List.filter_append,List.map_append,List.sum_append] at ih ⊢
    rw [ih]
    cases answered : read.answer with
    | none => simp [totalCount,answered]
    | some groups => simp [totalCount,answered,sum_answer config answered]

theorem answers_processed {reads : List (TenantRead config)} {group : OpenEvents.Group}
    (member : group ∈ answers config reads) : groupNamespace group ∈ config.app.processingNamespaces := by
  obtain ⟨read,_,inside⟩ := List.mem_flatMap.mp member
  cases answered : read.answer with
  | none => simp [answered] at inside
  | some groups =>
    rw [answered,Option.getD_some] at inside
    exact answer_processed config answered inside

theorem mem_globalItems {reads : List (TenantRead config)} (distinct : (reads.map TenantRead.tenantId).Nodup)
    {item : Cell × Nat} (member : item ∈ globalItems config eventMap reads) :
    ∃ nameSpace ∈ config.app.processingNamespaces, item.1 = globalCell config nameSpace .Pending := by
  rw [globalItems,globalPending_eq config eventMap distinct] at member
  obtain ⟨entry,listed,rfl⟩ := List.mem_map.mp member
  refine ⟨entry.1,?_,rfl⟩
  exact (keys_pending config (fun group inside => answers_processed config inside) entry.1).mp
    (List.mem_map_of_mem listed)

theorem globalItem_mem {reads : List (TenantRead config)} (distinct : (reads.map TenantRead.tenantId).Nodup)
    {nameSpace : String} (processed : nameSpace ∈ config.app.processingNamespaces) :
    (globalCell config nameSpace .Pending,totalCount reads nameSpace) ∈ globalItems config eventMap reads := by
  rw [globalItems,globalPending_eq config eventMap distinct]
  have found := get?_pending config (fun group inside => @answers_processed config reads group inside) processed
  rw [sum_answers] at found
  exact List.mem_map.mpr ⟨(nameSpace,totalCount reads nameSpace),Dict.mem_entries.mpr found,rfl⟩

theorem globalItems_nodup {reads : List (TenantRead config)} (distinct : (reads.map TenantRead.tenantId).Nodup)
    (plain : ∀ name ∈ config.app.processingNamespaces, '#' ∉ name.toList) :
    ((globalItems config eventMap reads).map Prod.fst).Nodup := by
  rw [globalItems,globalPending_eq config eventMap distinct,List.map_map]
  have names := (tally groupNamespace OpenEvents.Group.count (answers config reads) (zeros config)).nodup
  have processed : ∀ entry ∈ (tally groupNamespace OpenEvents.Group.count (answers config reads) (zeros config)).entries,
      entry.1 ∈ config.app.processingNamespaces :=
    fun entry listed => (keys_pending config (fun group inside => answers_processed config inside) entry.1).mp
      (List.mem_map_of_mem listed)
  refine List.Nodup.map_on (fun entry listed other member same => ?_) (List.Nodup.of_map _ names)
  have equal := globalCell_inj config (plain _ (processed entry listed)) (plain _ (processed other member)) same
  exact List.inj_on_of_nodup_map names listed member equal

/-- No two assignments of a run are for one cell. -/
theorem runItems_nodup {reads : List (TenantRead config)} (distinct : (reads.map TenantRead.tenantId).Nodup)
    (plain : ∀ name ∈ config.app.processingNamespaces, '#' ∉ name.toList) :
    ((reads.flatMap (tenantItems config) ++ globalItems config eventMap reads).map Prod.fst).Nodup := by
  rw [List.map_append,List.map_flatMap]
  refine List.nodup_append.mpr ⟨?_,globalItems_nodup config eventMap distinct plain,?_⟩
  · refine List.nodup_flatMap.mpr ⟨fun read _ => tenantItems_nodup config plain,?_⟩
    refine (List.pairwise_map.mp distinct).imp (fun {first second} apart cell one two => ?_)
    obtain ⟨item,member,rfl⟩ := List.mem_map.mp one
    obtain ⟨other,listed,same⟩ := List.mem_map.mp two
    obtain ⟨nameSpace,processed,own⟩ := mem_tenantItems config member
    obtain ⟨otherNamespace,otherProcessed,second⟩ := mem_tenantItems config listed
    rw [own,second] at same
    exact apart (tenantCell_inj config (plain _ otherProcessed) (plain _ processed) same).1.symm
  · intro cell one other two same
    subst same
    obtain ⟨read,_,inside⟩ := List.mem_flatMap.mp one
    obtain ⟨item,member,rfl⟩ := List.mem_map.mp inside
    obtain ⟨item',listed,same⟩ := List.mem_map.mp two
    obtain ⟨nameSpace,processed,own⟩ := mem_tenantItems config member
    obtain ⟨otherNamespace,otherProcessed,second⟩ := mem_globalItems config eventMap distinct listed
    rw [own,second] at same
    exact tenantCell_ne_globalCell config (plain _ processed) (plain _ otherProcessed) same.symm

theorem settled_item {store : Store} {items : List (Cell × Nat)} {adjustments history : List (Command Cell)}
    (distinct : (items.map Prod.fst).Nodup) (incrs : ∀ command ∈ adjustments, command.isIncr = true)
    (arrived : history.Perm (items.map assignment ++ adjustments)) {item : Cell × Nat} (member : item ∈ items) :
    Settled store history item.1 item.2 := by
  have own : (items.map assignment).filter (fun command => command.assigns item.1) = [assignment item] :=
    @Counters.filter_assigns_map Cell _ (Cell × Nat) items Prod.fst (fun item => (item.2 : Int)) distinct item member
  have others : adjustments.filter (fun command => command.assigns item.1) = [] :=
    List.filter_eq_nil_iff.mpr (fun command listed =>
      by simp [Counters.not_assigns_of_incr incrs item.1 command listed])
  have once : history.filter (fun command => command.assigns item.1) = [assignment item] :=
    Counters.filter_perm_singleton arrived (by rw [List.filter_append,own,others,List.append_nil])
  exact Counters.value_run_once once

theorem unassigned_item {items : List (Cell × Nat)} {adjustments history : List (Command Cell)} {cell : Cell}
    (incrs : ∀ command ∈ adjustments, command.isIncr = true)
    (arrived : history.Perm (items.map assignment ++ adjustments)) (absent : ∀ item ∈ items, item.1 ≠ cell) :
    ∀ command ∈ history, command.assigns cell = false := by
  intro command member
  obtain inside | adjusting := List.mem_append.mp (arrived.mem_iff.mp member)
  · obtain ⟨item,listed,rfl⟩ := List.mem_map.mp inside
    simp [assignment,Command.assigns,absent item listed]
  · exact Counters.not_assigns_of_incr incrs cell command adjusting

theorem tenant_absent {reads : List (TenantRead config)} (distinct : (reads.map TenantRead.tenantId).Nodup)
    (plain : ∀ name ∈ config.app.processingNamespaces, '#' ∉ name.toList) {tenantId nameSpace : String}
    (processed : nameSpace ∈ config.app.processingNamespaces)
    (failed : ∀ read ∈ reads, read.tenantId = tenantId → read.answer = none) :
    ∀ item ∈ reads.flatMap (tenantItems config) ++ globalItems config eventMap reads,
      item.1 ≠ tenantCell config tenantId nameSpace .Pending := by
  intro item member same
  obtain inside | listed := List.mem_append.mp member
  · obtain ⟨read,listed,own⟩ := List.mem_flatMap.mp inside
    obtain ⟨other,otherProcessed,cell⟩ := mem_tenantItems config own
    rw [same] at cell
    have equal := (tenantCell_inj config (plain _ processed) (plain _ otherProcessed) cell).1
    simp [tenantItems,failed read listed equal.symm] at own
  · obtain ⟨other,otherProcessed,cell⟩ := mem_globalItems config eventMap distinct listed
    rw [same] at cell
    exact tenantCell_ne_globalCell config (plain _ processed) (plain _ otherProcessed) cell

/-- However the commands of a run arrive among those of the committed transactions: the counter of a namespace is set to
the rows that wait in it over all tenants that could be read, and moves on from there. So does the counter of each such
tenant with its own rows; that of another tenant keeps what it had. -/
theorem pending_counters_settle (collecting : config.collectEventQueueMetrics = true) (store : Store)
    (reads : List (TenantRead config)) (distinct : (reads.map TenantRead.tenantId).Nodup)
    (plain : ∀ name ∈ config.app.processingNamespaces, '#' ∉ name.toList) (adjustments history : List (Command Cell))
    (incrs : ∀ command ∈ adjustments, command.isIncr = true)
    (arrived : history.Perm (executeEventsAllTenantsRedis config eventMap reads ++ adjustments)) (nameSpace : String)
    (processed : nameSpace ∈ config.app.processingNamespaces) :
    Settled store history (globalCell config nameSpace .Pending) (totalCount reads nameSpace) ∧
      ∀ read ∈ reads,
        (read.answer.isSome → Settled store history (tenantCell config read.tenantId nameSpace .Pending)
          (openCount read nameSpace)) ∧
        (read.answer = none →
          value (Counters.run store history) (tenantCell config read.tenantId nameSpace .Pending) =
            value store (tenantCell config read.tenantId nameSpace .Pending) +
              added (tenantCell config read.tenantId nameSpace .Pending) history) := by
  rw [run_items config eventMap collecting] at arrived
  have apart := runItems_nodup config eventMap distinct plain
  refine ⟨?_,fun read member => ⟨fun answered => ?_,fun failed => ?_⟩⟩
  · exact settled_item apart incrs arrived
      (List.mem_append_right _ (globalItem_mem config eventMap distinct processed))
  · obtain ⟨groups,found⟩ := Option.isSome_iff_exists.mp answered
    exact settled_item apart incrs arrived
      (List.mem_append_left _ (List.mem_flatMap.mpr ⟨read,member,tenantItem_mem config found processed⟩))
  · refine Counters.value_run store history _ (unassigned_item incrs arrived
      (tenant_absent config eventMap distinct plain processed (fun other listed same => ?_)))
    rwa [List.inj_on_of_nodup_map distinct listed member same]

end

def exampleConfig : Config := ⟨OpenEvents.application 210000,true,true⟩

def exampleRead (tenantId : String) (rows : List Selection.Row) : TenantRead exampleConfig where
  tenantId := tenantId
  rows := rows
  now := 10000000
  answer := some (grouped (rows.filter (whereOpen exampleConfig.app 10000000)))
  answered := by
    intro groups given
    cases given
    exact List.Perm.refl _

def failedRead (tenantId : String) : TenantRead exampleConfig where
  tenantId := tenantId
  rows := []
  now := 10000000
  answer := none
  answered := by simp

/-- One event of the first tenant is stuck, the second tenant cannot be read, the first one publishes meanwhile. -/
def exampleReads : List (TenantRead exampleConfig) := [exampleRead "t1" [OpenEvents.stuckRow],failedRead "t2"]

def exampleRun : List (Command Cell) := executeEventsAllTenantsRedis exampleConfig OpenEvents.everyEvent exampleReads

def published : List (Command Cell) := succeeded exampleConfig (some "t1") ⟨1,0,0⟩

theorem example_plain : ∀ name ∈ exampleConfig.app.processingNamespaces, '#' ∉ name.toList := by decide +kernel

theorem pending_counters_settle_publishing :
    Settled (fun _ => none) (exampleRun ++ published) (globalCell exampleConfig "default" .Pending) 1 ∧
      (∀ command ∈ published, command.isIncr = true) := by
  have incrs : ∀ command ∈ published, command.isIncr = true := by decide +kernel
  have settled := (pending_counters_settle exampleConfig OpenEvents.everyEvent rfl (fun _ => none) exampleReads
    (by decide +kernel) example_plain published (exampleRun ++ published) incrs (List.Perm.refl _) "default"
    (by decide +kernel)).1
  have one : totalCount exampleReads "default" = 1 := by decide +kernel
  rw [one] at settled
  exact ⟨settled,incrs⟩

end EventQueue.EventQueueStats

import EventQueue.DistributedLock
import EventQueue.Lib.Separated
import Mathlib.Tactic

/-! `getAllLocksRedis`: the keys in Redis are taken apart again and listed with their time to live and
their value. The locks of events stand beside statistics, run keys and the lock ids of messages. -/
namespace EventQueue.LockListing
open DistributedLock

inductive Content
  | text (value : String)
  | hash
  deriving DecidableEq

/-- What Redis keeps under a key. -/
structure Item where
  ttl : Int
  content : Content
  deriving DecidableEq

abbrev Entry := String × Item

inductive Reply
  | ttl (seconds : Int)
  | text (value : String)
  | error (message : String)
  deriving DecidableEq

/-- The reply to GET for a key of another kind within a transaction; none if `exec` throws on it. -/
structure Client where
  wrongType : Option Reply

/-- `ttl(key).get(key)` in one transaction. -/
def exec (client : Client) (item : Item) : Option (List Reply) :=
  match item.content with
  | .text value => some [.ttl item.ttl,.text value]
  | .hash => client.wrongType.map (fun reply => [.ttl item.ttl,reply])

structure Combination where
  nameSpace : String
  tenant : String
  type : String
  subType : String
  deriving DecidableEq

structure LockRow where
  combination : Combination
  ttl : Option Reply
  createdAt : Option Reply
  deriving DecidableEq

/-- `const [, namespace, tenant, guidOrType, subType] = parts`; keys without a subtype are passed over. -/
def combinationOfParts : List String → Option Combination
  | _::nameSpace::tenant::guidOrType::subType::_ =>
    if subType = "" then none else some ⟨nameSpace,tenant,guidOrType,subType⟩
  | _ => none

def combinationOf (key : String) : Option Combination := combinationOfParts (Separated.split '#' key)

structure Listing where
  output : List Combination
  results : List Reply

def scan (client : Client) (listing : Listing) (entry : Entry) : Option Listing :=
  match combinationOf entry.1 with
  | none => some listing
  | some combination => (exec client entry.2).map (fun replies =>
      ⟨listing.output ++ [combination],listing.results ++ replies⟩)

/-- The replies are assigned two by two. -/
def assign (results : List Reply) : Nat → List Combination → List LockRow
  | _,[] => []
  | counter,combination::rest =>
    ⟨combination,results[counter]?,results[counter + 1]?⟩::assign results (counter + 2) rest

/-- `MATCH "EVENT*"`. -/
def matchesPattern (key : String) : Bool := "EVENT".toList.isPrefixOf key.toList

/-- Each client is scanned on its own; without a cluster there is one. None if the call throws. -/
def getAllLocksRedis (client : Client) (clients : List (List Entry)) : Option (List LockRow) :=
  ((clients.flatMap (fun entries => entries.filter (fun entry => matchesPattern entry.1))).foldlM (scan client)
    ⟨[],[]⟩).map (fun listing => assign listing.results 0 listing.output)

/-- A lock that `acquireDistributedLock` has taken, with what Redis keeps under its key. -/
structure HeldLock where
  tenant : String
  nameSpace : String
  type : String
  subType : String
  ttl : Int
  value : String
  deriving DecidableEq

def HeldLock.naming (lock : HeldLock) (namespaceOfInstance : String) : Naming :=
  ⟨some lock.tenant,lock.nameSpace,lock.type,lock.subType,namespaceOfInstance⟩

def HeldLock.entry (namespaceOfInstance : String) (lock : HeldLock) : Entry :=
  ((lock.naming namespaceOfInstance).lockKey,⟨lock.ttl,.text lock.value⟩)

def HeldLock.row (lock : HeldLock) : LockRow :=
  ⟨⟨lock.nameSpace,lock.tenant,lock.type,lock.subType⟩,some (.ttl lock.ttl),some (.text lock.value)⟩

inductive RunKey
  | RUN_ID
  | RUN_TS
  | RUN_REDIS_CHECK
  | UPDATE_PERIODIC_EVENTS
  deriving DecidableEq

def RunKey.text : RunKey → String
  | .RUN_ID => "RUN_ID"
  | .RUN_TS => "RUN_TS"
  | .RUN_REDIS_CHECK => "RUN_REDIS_CHECK"
  | .UPDATE_PERIODIC_EVENTS => "UPDATE_PERIODIC_EVENTS"

/-- The other keys of the program. -/
inductive OtherKey
  /-- `_tenantKey`, written by `adjustTenantCounter`. -/
  | tenantKey (tenantId : String)
  /-- The key of `setTenantCounter`. -/
  | tenantCounter (nameSpace tenantId : String)
  | globalKey
  | globalCounter (nameSpace : String)
  | run (key : RunKey)
  | message (tenant : Option String) (lockId : String)

def keyPrefix (nameSpace : String) : String := redisNamespace "" false ++ "##" ++ nameSpace

def OtherKey.key (namespaceOfInstance : String) : OtherKey → String
  | .tenantKey tenantId => redisNamespace namespaceOfInstance true ++ "##stats##tenant##" ++ tenantId
  | .tenantCounter nameSpace tenantId => keyPrefix nameSpace ++ "##stats##tenant##" ++ tenantId
  | .globalKey => redisNamespace namespaceOfInstance true ++ "##stats##global"
  | .globalCounter nameSpace => keyPrefix nameSpace ++ "##stats##global"
  | .run key => generateKey namespaceOfInstance none false key.text false
  | .message tenant lockId => generateKey namespaceOfInstance tenant true lockId false

def OtherKey.content (value : String) : OtherKey → Content
  | .tenantKey _ => .hash
  | .tenantCounter _ _ => .hash
  | .globalKey => .hash
  | .globalCounter _ => .hash
  | .run _ => .text value
  | .message _ _ => .text value

structure Other where
  namespaceOfInstance : String
  key : OtherKey
  ttl : Int
  value : String

def Other.fullKey (other : Other) : String := other.key.key other.namespaceOfInstance

def Other.entry (other : Other) : Entry := (other.fullKey,⟨other.ttl,other.key.content other.value⟩)

def Plain (text : String) : Prop := text ≠ "" ∧ '#' ∉ text.toList

instance (text : String) : Decidable (Plain text) := inferInstanceAs (Decidable (_ ∧ _))

structure HeldLock.Plain (lock : HeldLock) : Prop where
  tenant : LockListing.Plain lock.tenant
  nameSpace : LockListing.Plain lock.nameSpace
  type : LockListing.Plain lock.type
  subType : LockListing.Plain lock.subType

/-- The names in the key; an instance need not have a namespace. -/
def OtherKey.names : OtherKey → List String
  | .tenantKey tenantId => [tenantId]
  | .tenantCounter nameSpace tenantId => [nameSpace,tenantId]
  | .globalKey => []
  | .globalCounter nameSpace => [nameSpace]
  | .run _ => []
  | .message tenant lockId => [tenant.getD "",lockId]

structure Other.Plain (other : Other) : Prop where
  marks : ∀ name ∈ other.namespaceOfInstance::other.key.names, '#' ∉ name.toList
  tenants : ∀ tenantId, other.key = .tenantKey tenantId ∨ (∃ nameSpace, other.key = .tenantCounter nameSpace tenantId) →
    tenantId ≠ ""

/-- Statistics of a tenant that are stored with a namespace. -/
def Other.isTenantStatistics (other : Other) : Bool :=
  match other.key with
  | .tenantKey _ => decide (other.namespaceOfInstance ≠ "")
  | .tenantCounter _ _ => true
  | _ => false

/-- The lock of the same event with tenant and namespace exchanged. -/
def HeldLock.exchanged (lock : HeldLock) : HeldLock := {lock with tenant := lock.nameSpace,nameSpace := lock.tenant}

def Exact (locks : List HeldLock) (listing : Option (List LockRow)) : Prop :=
  ∃ rows, listing = some rows ∧ rows.Perm (locks.map HeldLock.row)

def listed (entries : List Entry) : List (Combination × Item) :=
  entries.filterMap (fun entry => (combinationOf entry.1).map (fun combination => (combination,entry.2)))

theorem scan_output {client : Client} {entries : List Entry} {listing final : Listing}
    (done : entries.foldlM (scan client) listing = some final) :
    final.output = listing.output ++ (listed entries).map Prod.fst := by
  induction entries generalizing listing with
  | nil =>
    cases done
    simp [listed]
  | cons entry rest ih =>
    obtain ⟨next,scanned,done⟩ := Option.bind_eq_some_iff.mp done
    rw [ih done]
    unfold scan at scanned
    split at scanned
    · rename_i passed
      cases scanned
      simp [listed,passed]
    · rename_i combination found
      obtain ⟨replies,_,rfl⟩ := Option.map_eq_some_iff.mp scanned
      simp [listed,found]

theorem assign_length (results : List Reply) (counter : Nat) (output : List Combination) :
    (assign results counter output).length = output.length := by
  induction output generalizing counter with
  | nil => rfl
  | cons combination rest ih => simp [assign,ih]

theorem listing_length {client : Client} {entries : List Entry} {final : Listing}
    (done : entries.foldlM (scan client) ⟨[],[]⟩ = some final) :
    (assign final.results 0 final.output).length = (listed entries).length := by
  rw [assign_length,scan_output done]
  simp

def textRow (entry : Combination × Item) : LockRow :=
  ⟨entry.1,some (.ttl entry.2.ttl),match entry.2.content with
    | .text value => some (.text value)
    | .hash => none⟩

def replies (entry : Combination × Item) : List Reply :=
  match entry.2.content with
  | .text value => [.ttl entry.2.ttl,.text value]
  | .hash => []

theorem scan_texts (client : Client) (entries : List Entry) (listing : Listing)
    (texts : ∀ entry ∈ listed entries, entry.2.content ≠ .hash) :
    entries.foldlM (scan client) listing =
      some ⟨listing.output ++ (listed entries).map Prod.fst,listing.results ++ (listed entries).flatMap replies⟩ := by
  induction entries generalizing listing with
  | nil => simp [listed]
  | cons entry rest ih =>
    rw [List.foldlM_cons]
    cases found : combinationOf entry.1 with
    | none =>
      have passed : listed (entry::rest) = listed rest := by simp [listed,found]
      rw [passed] at texts ⊢
      have next : scan client listing entry = some listing := by simp [scan,found]
      rw [next]
      exact ih listing texts
    | some combination =>
      have taken : listed (entry::rest) = (combination,entry.2)::listed rest := by simp [listed,found]
      rw [taken] at texts ⊢
      have own := texts (combination,entry.2) (by simp)
      cases content : entry.2.content with
      | hash => exact absurd content own
      | text value =>
        have next : scan client listing entry =
            some ⟨listing.output ++ [combination],listing.results ++ replies (combination,entry.2)⟩ := by
          simp [scan,found,exec,content,replies]
        rw [next,Option.bind_eq_bind,Option.bind_some,ih _ (fun other member => texts other (by simp [member]))]
        simp

theorem assign_replies (before : List Reply) (entries : List (Combination × Item))
    (texts : ∀ entry ∈ entries, entry.2.content ≠ .hash) :
    assign (before ++ entries.flatMap replies) before.length (entries.map Prod.fst) = entries.map textRow := by
  induction entries generalizing before with
  | nil => rfl
  | cons entry rest ih =>
    have own := texts entry (by simp)
    cases content : entry.2.content with
    | hash => exact absurd content own
    | text value =>
      have two : replies entry = [.ttl entry.2.ttl,.text value] := by simp [replies,content]
      have tail := ih (before ++ replies entry) (fun other member => texts other (by simp [member]))
      have length : (before ++ replies entry).length = before.length + 2 := by simp [two]
      rw [length,List.append_assoc] at tail
      simp only [List.map_cons,List.flatMap_cons,assign]
      rw [tail]
      simp [two,textRow,content]

theorem listing_texts (client : Client) (entries : List Entry)
    (texts : ∀ entry ∈ listed entries, entry.2.content ≠ .hash) :
    (entries.foldlM (scan client) ⟨[],[]⟩).map (fun listing => assign listing.results 0 listing.output) =
      some ((listed entries).map textRow) := by
  rw [scan_texts client entries _ texts,Option.map_some]
  have assigned := assign_replies [] (listed entries) texts
  simpa using assigned

theorem lockKey_parts (lock : HeldLock) (namespaceOfInstance : String) :
    (lock.naming namespaceOfInstance).lockKey =
      Separated.join '#' [REDIS_PREFIX,lock.tenant,lock.nameSpace,lock.type,lock.subType] := by
  have mark : String.ofList ['#','#'] = "##" := rfl
  simp [Naming.lockKey,HeldLock.naming,generateKey,redisNamespace,Separated.join,mark,String.append_assoc]

def Other.parts (other : Other) : List String :=
  let own := if other.namespaceOfInstance = "" then [] else [other.namespaceOfInstance]
  match other.key with
  | .tenantKey tenantId => REDIS_PREFIX::own ++ ["stats","tenant",tenantId]
  | .tenantCounter nameSpace tenantId => [REDIS_PREFIX,nameSpace,"stats","tenant",tenantId]
  | .globalKey => REDIS_PREFIX::own ++ ["stats","global"]
  | .globalCounter nameSpace => [REDIS_PREFIX,nameSpace,"stats","global"]
  | .run key => REDIS_PREFIX::own ++ [key.text]
  | .message tenant lockId => REDIS_PREFIX::own ++ [tenant.getD "",lockId]

theorem otherKey_parts (other : Other) : other.fullKey = Separated.join '#' other.parts := by
  obtain ⟨namespaceOfInstance,key,ttl,value⟩ := other
  rw [← String.toList_inj]
  by_cases unset : namespaceOfInstance = ""
  · cases key <;> simp [Other.fullKey,OtherKey.key,Other.parts,generateKey,redisNamespace,keyPrefix,REDIS_PREFIX,
      Separated.join,unset]
  · cases key <;> simp [Other.fullKey,OtherKey.key,Other.parts,generateKey,redisNamespace,keyPrefix,REDIS_PREFIX,
      Separated.join,unset]

theorem runKey_plain (key : RunKey) : '#' ∉ key.text.toList := by
  cases key <;> decide

theorem other_plain {other : Other} (plain : other.Plain) : ∀ part ∈ other.parts, '#' ∉ part.toList := by
  obtain ⟨namespaceOfInstance,key,ttl,value⟩ := other
  have marks := plain.marks
  by_cases unset : namespaceOfInstance = ""
  · cases key <;> simp_all [Other.parts,OtherKey.names,REDIS_PREFIX,runKey_plain]
  · cases key <;> simp_all [Other.parts,OtherKey.names,REDIS_PREFIX,runKey_plain]

theorem combinationOf_join {parts : List String} (given : parts ≠ []) (plain : ∀ part ∈ parts, '#' ∉ part.toList) :
    combinationOf (Separated.join '#' parts) = combinationOfParts parts := by
  rw [combinationOf,Separated.split_join given (Separated.separable_of_plain plain)]

/-- The listing takes the tenant for the namespace and the namespace for the tenant. -/
theorem combinationOf_lockKey {lock : HeldLock} (plain : lock.Plain) (namespaceOfInstance : String) :
    combinationOf (lock.naming namespaceOfInstance).lockKey = some lock.exchanged.row.combination := by
  have marks : ∀ part ∈ [REDIS_PREFIX,lock.tenant,lock.nameSpace,lock.type,lock.subType], '#' ∉ part.toList := by
    simp only [List.mem_cons,List.not_mem_nil,or_false,forall_eq_or_imp,forall_eq]
    exact ⟨by decide,plain.tenant.2,plain.nameSpace.2,plain.type.2,plain.subType.2⟩
  rw [lockKey_parts,combinationOf_join (by simp) marks]
  simp [combinationOfParts,plain.subType.1,HeldLock.exchanged,HeldLock.row]

theorem combinationOf_other {other : Other} (plain : other.Plain) :
    (combinationOf other.fullKey).isSome = other.isTenantStatistics := by
  have given : other.parts ≠ [] := by
    obtain ⟨_,key,_,_⟩ := other
    cases key <;> simp [Other.parts]
  rw [otherKey_parts,combinationOf_join given (other_plain plain)]
  obtain ⟨namespaceOfInstance,key,ttl,value⟩ := other
  have tenants := plain.tenants
  by_cases unset : namespaceOfInstance = ""
  · cases key <;> simp_all [combinationOfParts,Other.parts,Other.isTenantStatistics]
  · cases key <;> simp_all [combinationOfParts,Other.parts,Other.isTenantStatistics]

theorem matches_join (rest : List String) : matchesPattern (Separated.join '#' (REDIS_PREFIX::rest)) = true := by
  unfold matchesPattern
  rw [List.isPrefixOf_iff_prefix]
  cases rest with
  | nil => exact ⟨"_QUEUE".toList,by simp [Separated.join,REDIS_PREFIX]⟩
  | cons part rest =>
    refine ⟨"_QUEUE".toList ++ ("##" ++ Separated.join '#' (part::rest)).toList,?_⟩
    have mark : String.ofList ['#','#'] = "##" := rfl
    simp [Separated.join,REDIS_PREFIX,String.intercalate_cons_cons,mark]

theorem matches_lock (lock : HeldLock) (namespaceOfInstance : String) :
    matchesPattern (lock.entry namespaceOfInstance).1 = true := by
  rw [HeldLock.entry,lockKey_parts]
  exact matches_join _

theorem matches_other (other : Other) : matchesPattern other.entry.1 = true := by
  rw [Other.entry,otherKey_parts]
  obtain ⟨_,key,_,_⟩ := other
  cases key <;> exact matches_join _

theorem row_injective {first second : HeldLock} (same : first.row = second.row) : first = second := by
  obtain ⟨tenant,nameSpace,type,subType,ttl,value⟩ := first
  obtain ⟨_,_,_,_,_,_⟩ := second
  simp only [HeldLock.row,LockRow.mk.injEq,Combination.mk.injEq,Option.some.injEq,Reply.ttl.injEq,
    Reply.text.injEq] at same
  obtain ⟨⟨rfl,rfl,rfl,rfl⟩,rfl,rfl⟩ := same
  rfl

theorem exchanged_exchanged (lock : HeldLock) : lock.exchanged.exchanged = lock := rfl

theorem listed_locks {locks : List HeldLock} (plain : ∀ lock ∈ locks, lock.Plain) (namespaceOfInstance : String) :
    (listed (locks.map (HeldLock.entry namespaceOfInstance))).map textRow =
        locks.map (fun lock => lock.exchanged.row) ∧
      ∀ entry ∈ listed (locks.map (HeldLock.entry namespaceOfInstance)), entry.2.content ≠ .hash := by
  induction locks with
  | nil => simp [listed]
  | cons lock rest ih =>
    obtain ⟨rows,texts⟩ := ih (fun other member => plain other (by simp [member]))
    have own := combinationOf_lockKey (plain lock (by simp)) namespaceOfInstance
    have first : listed ((lock::rest).map (HeldLock.entry namespaceOfInstance)) =
        (lock.exchanged.row.combination,⟨lock.ttl,.text lock.value⟩)::
          listed (rest.map (HeldLock.entry namespaceOfInstance)) := by
      simp [listed,HeldLock.entry,own]
    rw [first]
    refine ⟨?_,?_⟩
    · rw [List.map_cons,List.map_cons,rows]
      rfl
    · intro entry member
      rcases List.mem_cons.mp member with rfl | old
      · simp
      · exact texts entry old

theorem listed_others {others : List Other} (plain : ∀ other ∈ others, other.Plain) :
    listed (others.map Other.entry) = [] ↔ ∀ other ∈ others, other.isTenantStatistics = false := by
  unfold listed
  rw [List.filterMap_eq_nil_iff]
  simp only [List.mem_map,forall_exists_index,and_imp,forall_apply_eq_imp_iff₂,Option.map_eq_none_iff]
  constructor
  · intro none other member
    rw [← combinationOf_other (plain other member)]
    simp [show combinationOf other.fullKey = Option.none from none other member]
  · intro quiet other member
    have passed := combinationOf_other (plain other member)
    rw [quiet other member,Option.isSome_eq_false_iff,Option.isNone_iff_eq_none] at passed
    exact passed

theorem exchanged_perm {locks : List HeldLock} (distinct : locks.Nodup)
    (closed : ∀ lock ∈ locks, lock.exchanged ∈ locks) : (locks.map HeldLock.exchanged).Perm locks := by
  have images : (locks.map HeldLock.exchanged).Nodup := by
    apply distinct.map
    intro first second same
    rw [← exchanged_exchanged first,same,exchanged_exchanged]
  have inside : locks.map HeldLock.exchanged ⊆ locks := by
    intro lock member
    obtain ⟨other,listed,rfl⟩ := List.mem_map.mp member
    exact closed other listed
  exact (List.subperm_of_subset images inside).perm_of_length_le (by simp)

/-- What stands in Redis: the keys of the held locks and of the others, each once, on any clients. -/
structure Stored (namespaceOfInstance : String) (locks : List HeldLock) (others : List Other)
    (clients : List (List Entry)) : Prop where
  plain : ∀ lock ∈ locks, lock.Plain
  otherPlain : ∀ other ∈ others, other.Plain
  keys : clients.flatten.Perm (locks.map (HeldLock.entry namespaceOfInstance) ++ others.map Other.entry)
  unique : (clients.flatten.map Prod.fst).Nodup

theorem Stored.scanned {namespaceOfInstance : String} {locks : List HeldLock} {others : List Other}
    {clients : List (List Entry)} (stored : Stored namespaceOfInstance locks others clients) :
    clients.flatMap (fun entries => entries.filter (fun entry => matchesPattern entry.1)) = clients.flatten := by
  have own : clients.flatten.filter (fun entry => matchesPattern entry.1) = clients.flatten := by
    apply List.filter_eq_self.mpr
    intro entry member
    rcases List.mem_append.mp (stored.keys.mem_iff.mp member) with held | kept
    · obtain ⟨lock,_,rfl⟩ := List.mem_map.mp held
      exact matches_lock lock namespaceOfInstance
    · obtain ⟨other,_,rfl⟩ := List.mem_map.mp kept
      exact matches_other other
  rw [List.filter_flatten] at own
  exact own

theorem Stored.distinct {namespaceOfInstance : String} {locks : List HeldLock} {others : List Other}
    {clients : List (List Entry)} (stored : Stored namespaceOfInstance locks others clients) : locks.Nodup := by
  have keys := (stored.keys.map Prod.fst).nodup_iff.mp stored.unique
  rw [List.map_append] at keys
  have own := (List.nodup_append.mp keys).1
  rw [List.map_map] at own
  exact own.of_map

theorem lock_listing_exact_iff (client : Client) (namespaceOfInstance : String) (locks : List HeldLock)
    (others : List Other) (clients : List (List Entry)) (stored : Stored namespaceOfInstance locks others clients) :
    Exact locks (getAllLocksRedis client clients) ↔
      (∀ other ∈ others, other.isTenantStatistics = false) ∧ ∀ lock ∈ locks, lock.exchanged ∈ locks := by
  have permuted : (listed clients.flatten).Perm
      (listed (locks.map (HeldLock.entry namespaceOfInstance)) ++ listed (others.map Other.entry)) := by
    unfold listed
    rw [← List.filterMap_append]
    exact stored.keys.filterMap _
  obtain ⟨rows,texts⟩ := listed_locks stored.plain namespaceOfInstance
  unfold Exact getAllLocksRedis
  rw [stored.scanned,← listed_others stored.otherPlain]
  -- Without statistics of tenants every lock is listed with tenant and namespace exchanged.
  have listing (quiet : listed (others.map Other.entry) = []) :
      ∃ rows, (clients.flatten.foldlM (scan client) ⟨[],[]⟩).map
          (fun listing => assign listing.results 0 listing.output) = some rows ∧
        rows.Perm ((locks.map HeldLock.exchanged).map HeldLock.row) := by
    rw [quiet,List.append_nil] at permuted
    refine ⟨_,listing_texts client clients.flatten (fun entry member => texts entry (permuted.mem_iff.mp member)),?_⟩
    have mapped := permuted.map textRow
    rw [rows] at mapped
    rw [List.map_map]
    exact mapped
  constructor
  · intro exact_
    obtain ⟨found,done,same⟩ := exact_
    have quiet : listed (others.map Other.entry) = [] := by
      obtain ⟨final,scanned,assigned⟩ := Option.map_eq_some_iff.mp done
      have length := listing_length scanned
      have lockLength := congrArg List.length rows
      rw [assigned,same.length_eq,permuted.length_eq] at length
      simp only [List.length_append,List.length_map] at length lockLength
      exact List.length_eq_zero_iff.mp (by omega)
    refine ⟨quiet,?_⟩
    intro lock member
    obtain ⟨listed,again,exchanged⟩ := listing quiet
    rw [done] at again
    cases again
    have row : lock.exchanged.row ∈ locks.map HeldLock.row := by
      apply (exchanged.symm.trans same).mem_iff.mp
      exact List.mem_map_of_mem (List.mem_map_of_mem member)
    obtain ⟨other,inside,equal⟩ := List.mem_map.mp row
    rw [← row_injective equal]
    exact inside
  · intro holds
    obtain ⟨quiet,closed⟩ := holds
    obtain ⟨found,done,exchanged⟩ := listing quiet
    exact ⟨found,done,exchanged.trans ((exchanged_perm stored.distinct closed).map HeldLock.row)⟩

/-- A lock of the tenant and the namespace `default`, beside a run key and the lock of a message. -/
def ownNamespace : HeldLock := ⟨"default","default","Notifications","Task",180,"1700000000000"⟩

def besides : List Other := [⟨"default",.run .RUN_TS,60,"2030-01-01T00:00:00.000Z"⟩,
  ⟨"default",.message (some "default") "6e31047a",1800,"1700000000000"⟩,⟨"default",.globalKey,-1,""⟩]

theorem lock_listing_exact_iff_own_namespace :
    Exact [ownNamespace] (getAllLocksRedis ⟨none⟩ [ownNamespace.entry "default"::besides.map Other.entry]) := by
  have stored : Stored "default" [ownNamespace] besides [ownNamespace.entry "default"::besides.map Other.entry] := by
    refine ⟨?_,?_,?_,by decide⟩
    · intro lock member
      rw [List.mem_singleton.mp member]
      exact ⟨by decide,by decide,by decide,by decide⟩
    · intro other member
      refine ⟨?_,?_⟩
      · revert other
        decide
      · intro tenantId named
        simp only [besides,List.mem_cons,List.not_mem_nil,or_false] at member
        rcases member with rfl | rfl | rfl <;> simp at named
    · simp
  exact (lock_listing_exact_iff ⟨none⟩ "default" [ownNamespace] besides _ stored).mpr ⟨by decide,by decide⟩

def tenantLock : HeldLock := ⟨"t1","default","Notifications","Task",180,"1700000000000"⟩

theorem lock_listing_exchanges_tenant :
    Stored "default" [tenantLock] [] [[tenantLock.entry "default"]] ∧
      getAllLocksRedis ⟨none⟩ [[tenantLock.entry "default"]] = some [⟨⟨"t1","default","Notifications","Task"⟩,
        some (.ttl 180),some (.text "1700000000000")⟩] ∧
      ¬Exact [tenantLock] (getAllLocksRedis ⟨none⟩ [[tenantLock.entry "default"]]) := by
  have computed : getAllLocksRedis ⟨none⟩ [[tenantLock.entry "default"]] = some [⟨⟨"t1","default","Notifications","Task"⟩,
      some (.ttl 180),some (.text "1700000000000")⟩] := by decide
  refine ⟨⟨?_,by simp,by simp,by decide⟩,computed,?_⟩
  · intro lock member
    rw [List.mem_singleton.mp member]
    exact ⟨by decide,by decide,by decide,by decide⟩
  · intro exact_
    obtain ⟨rows,done,same⟩ := exact_
    rw [computed] at done
    cases done
    have equal := List.perm_singleton.mp same.symm
    revert equal
    decide

end EventQueue.LockListing

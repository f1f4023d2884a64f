import EventQueue.Lib.Transition
import Mathlib.Data.List.Basic

/-! `executeInNewTransaction`: it runs a function in a transaction of its own, or in the
open transaction of the context, and turns an error of a committed one into a log line. -/
namespace EventQueue.NewTransaction
open Transition

def VERROR_CLUSTER_NAME : String := "ExecuteInNewTransactionError"

section Outcome
variable {Info : Type}

inductive TxError (Info : Type)
  | plain (message : String)
  | vError (message : String) (newTx : Option Info)

inductive LoggedError (Info : Type)
  | own (error : TxError Info)
  | nested (name : String) (cause : TxError Info) (info : Info) (message : String)

/-- `contextTx.ready`: not set, set to the state it ended with, or anything else while the transaction is open. -/
inductive Ready
  | unset
  | running
  | committed
  | rolledBack
  deriving DecidableEq

def Ready.reusable : Ready → Bool
  | .running => true
  | _ => false

inductive Signal
  | succeeded
  | failed
  deriving DecidableEq

/-- What one call of `cds.tx(context, fn)` does. -/
structure ManagedRun (Info : Type) where
  committed : Bool
  /-- The event the context emits before the call ends. -/
  emitted : Signal
  settled : Except (TxError Info) Unit

/-- `cds.tx` commits only after the function resolves, rejects if it did not commit, and emits the fate. -/
structure Managed (tx : Except (TxError Info) Unit → ManagedRun Info) : Prop where
  commits : ∀ result, (tx result).committed = true → result = .ok ()
  rejects : ∀ result, (tx result).committed = false → ∃ error, (tx result).settled = .error error
  emits : ∀ result, (tx result).emitted = .succeeded ↔ (tx result).committed = true

/-- The settled promise and what was written to the error log. -/
structure Settled (Info : Type) where
  result : Except (TxError Info) Unit
  logged : List (String × LoggedError Info)

def COMMITTED_BUT_FAILED : String := "business transaction commited but succeeded|done|failed threw a error!"

/-- The catch block with the value of `transactionRollbackPromise` it has waited for. -/
def caught (info : Info) (transactionRollback : Bool) : TxError Info → Settled Info
  | .plain message =>
    if transactionRollback then ⟨.error (.plain message),[]⟩
    else ⟨.ok (),[(COMMITTED_BUT_FAILED,
      .nested VERROR_CLUSTER_NAME (.plain message) info "Execution in new transaction failed")]⟩
  | .vError message _ =>
    if transactionRollback then ⟨.error (.vError message (some info)),[]⟩
    else ⟨.ok (),[(COMMITTED_BUT_FAILED,.own (.vError message (some info)))]⟩

def settle (info : Info) (transactionRollback : Bool) : Except (TxError Info) Unit → Settled Info
  | .ok () => ⟨.ok (),[]⟩
  | .error error => caught info transactionRollback error

def opensOwn (kind : String) (contextTxState : Ready) : Bool := kind == "hana" || !contextTxState.reusable

/-- `executeInNewTransaction` for a function that settles with the given result. On HANA the flag waits for
the event of the transaction, in the other branches it is cleared when the function resolves. -/
def executeInNewTransaction (authContext : Except (TxError Info) Unit)
    (tx : Except (TxError Info) Unit → ManagedRun Info) (kind : String) (contextTxState : Ready) (info : Info)
    (fn : Except (TxError Info) Unit) : Settled Info :=
  match authContext with
  | .error error => caught info true error
  | .ok () =>
    if kind == "hana" then settle info (decide ((tx fn).emitted = .failed)) (tx fn).settled
    else if contextTxState.reusable then settle info (!fn.isOk) fn
    else settle info (!fn.isOk) (tx fn).settled

theorem settle_resolved (info : Info) (transactionRollback : Bool) (result : Except (TxError Info) Unit) :
    (settle info transactionRollback result).result.isOk = true ↔ result.isOk = true ∨ transactionRollback = false := by
  cases result with
  | ok value => simp [settle,Except.isOk,Except.toBool]
  | error error =>
    cases error <;> cases transactionRollback <;> simp [settle,caught,Except.isOk,Except.toBool]

theorem executeInNewTransaction_own {tx : Except (TxError Info) Unit → ManagedRun Info} {kind : String}
    {contextTxState : Ready} (own : opensOwn kind contextTxState = true) (info : Info)
    (fn : Except (TxError Info) Unit) :
    (executeInNewTransaction (.ok ()) tx kind contextTxState info fn).result.isOk = true ↔
      (tx fn).settled.isOk = true ∨ if kind = "hana" then (tx fn).emitted = .succeeded else fn.isOk = true := by
  unfold executeInNewTransaction
  by_cases hana : kind = "hana"
  · simp only [hana,beq_self_eq_true,if_true,settle_resolved,decide_eq_false_iff_not]
    cases (tx fn).emitted <;> simp
  · have closed : contextTxState.reusable = false := by simpa [opensOwn,hana] using own
    simp [hana,closed,settle_resolved]

/-- Away from HANA a failed commit after a function that resolves is the one case that goes unnoticed. -/
theorem resolves_as_committed_iff (tx : Except (TxError Info) Unit → ManagedRun Info) (managed : Managed tx)
    (kind : String) (contextTxState : Ready) (own : opensOwn kind contextTxState = true) (info : Info)
    (fn : Except (TxError Info) Unit) :
    ((executeInNewTransaction (.ok ()) tx kind contextTxState info fn).result.isOk = true ↔
      (tx fn).committed = true) ↔
    (kind = "hana" ∨ fn.isOk = false ∨ (tx fn).committed = true) := by
  rw [executeInNewTransaction_own own]
  cases fate : (tx fn).committed with
  | true =>
    have resolved : fn.isOk = true := by
      rw [managed.commits fn fate]
      rfl
    have emitted := (managed.emits fn).mpr fate
    simp [resolved,emitted]
  | false =>
    obtain ⟨error,settled⟩ := managed.rejects fn fate
    have emitted : (tx fn).emitted ≠ .succeeded := by
      intro succeeded
      rw [(managed.emits fn).mp succeeded] at fate
      cases fate
    have rejected : (tx fn).settled.isOk = false := by
      rw [settled]
      rfl
    by_cases hana : kind = "hana"
    · simp [hana,rejected,emitted]
    · simp [hana,rejected]

end Outcome

/-- A transaction whose commit or whose listeners may fail. -/
def cdsTx (commit listeners : Except (TxError String) Unit) (fn : Except (TxError String) Unit) : ManagedRun String :=
  ⟨(fn.bind (fun _ => commit)).isOk,if (fn.bind (fun _ => commit)).isOk then .succeeded else .failed,
    (fn.bind (fun _ => commit)).bind (fun _ => listeners)⟩

theorem cdsTx_managed (commit listeners : Except (TxError String) Unit) : Managed (cdsTx commit listeners) where
  commits := by
    intro result committed
    cases result with
    | ok value => rfl
    | error error => cases committed
  rejects := by
    intro result lost
    cases result with
    | error error => exact ⟨error,rfl⟩
    | ok value =>
      cases commit with
      | ok value => cases lost
      | error error => exact ⟨error,rfl⟩
  emits := by
    intro result
    simp only [cdsTx]
    split <;> simp [*]

theorem resolves_as_committed_iff_listener :
    let tx := cdsTx (.ok ()) (.error (.plain "done listener"))
    Managed tx ∧ opensOwn "sqlite" .unset = true ∧
      ((executeInNewTransaction (.ok ()) tx "sqlite" .unset "info" (.ok ())).result.isOk = true ↔
        (tx (.ok ())).committed = true) :=
  ⟨cdsTx_managed _ _,rfl,(resolves_as_committed_iff _ (cdsTx_managed _ _) _ _ rfl _ _).mpr (Or.inr (Or.inr rfl))⟩

/-- On another database the promise resolves although the commit has failed. -/
theorem failed_commit_resolves :
    let tx := cdsTx (.error (.plain "commit")) (.ok ())
    Managed tx ∧ opensOwn "sqlite" .unset = true ∧ (tx (.ok ())).committed = false ∧
      (executeInNewTransaction (.ok ()) tx "sqlite" .unset "info" (.ok ())).result.isOk = true ∧
      (executeInNewTransaction (.ok ()) tx "hana" .unset "info" (.ok ())).result.isOk = false :=
  ⟨cdsTx_managed _ _,rfl,rfl,rfl,rfl⟩

section Borrowed
variable {Call : Type} [DecidableEq Call]

/-- The function behind `contextTx.rollback`: the one of the transaction or the empty one of a call. -/
inductive Rollback (Call : Type)
  | original
  | empty (call : Call)
  deriving DecidableEq

/-- The transaction of a context with the calls that run in it, the newest first, each with the `txRollback` it
has saved. -/
structure Shared (Call : Type) where
  ready : Ready
  rollback : Rollback Call
  active : List (Call × Rollback Call)
  /-- How often the transaction has really been rolled back. -/
  rolledBack : Nat

def Shared.opened : Shared Call := ⟨.running,.original,[],0⟩

inductive Action (Call : Type)
  | start (call : Call)
  /-- The function of a call settles. -/
  | settles (call : Call) (resolved : Bool)
  | rollback
  | commit

/-- The branch of `executeInNewTransaction` that reuses the transaction of the context, cut at the call of `fn`. -/
def step (shared : Shared Call) : Action Call → Option (Shared Call)
  | .start call =>
    if shared.ready.reusable && !(shared.active.map Prod.fst).contains call then
      some {shared with rollback := .empty call, active := (call,shared.rollback)::shared.active}
    else none
  | .settles call _ =>
    (shared.active.find? (fun entry => entry.1 = call)).map (fun entry =>
      {shared with rollback := entry.2, active := shared.active.filter (fun other => other.1 ≠ call)})
  | .rollback =>
    match shared.rollback with
    | .original => some {shared with ready := .rolledBack, rolledBack := shared.rolledBack + 1}
    | .empty _ => some shared
  | .commit => some {shared with ready := .committed}

/-- While a call is active a rollback does nothing, afterwards the function is the original one. -/
def Kept (shared : Shared Call) : Prop :=
  (shared.active ≠ [] → step shared .rollback = some shared) ∧ (shared.active = [] → shared.rollback = .original)

/-- The call that has been active for the longest time does not end before the others. -/
def OldestLast (shared : Shared Call) : Action Call → Prop
  | .settles call _ => (shared.active.map Prod.fst).getLast? = some call → shared.active.length = 1
  | _ => True

/-- The oldest call holds the original function, the newer ones hold empty ones. -/
inductive Layered (shared : Shared Call) : Prop
  | idle (none : shared.active = []) (restored : shared.rollback = .original)
  | busy (newer : List (Call × Rollback Call)) (oldest : Call)
      (layers : shared.active = newer ++ [(oldest,.original)])
      (distinct : oldest ∉ newer.map Prod.fst)
      (saved : ∀ entry ∈ newer, entry.2 ≠ .original)
      (replaced : shared.rollback ≠ .original)

theorem Layered.kept {shared : Shared Call} (layered : Layered shared) : Kept shared := by
  cases layered with
  | idle none restored => exact ⟨fun some => absurd none some,fun _ => restored⟩
  | busy newer oldest layers distinct saved replaced =>
    refine ⟨fun _ => ?_,fun none => by simp [layers] at none⟩
    unfold step
    cases current : shared.rollback with
    | original => exact absurd current replaced
    | empty call => rfl

theorem not_kept_of_original {shared : Shared Call} (busy : shared.active ≠ []) (restored : shared.rollback = .original) :
    ¬ Kept shared := by
  rintro ⟨silent,_⟩
  have same := silent busy
  simp only [step,restored,Option.some.injEq] at same
  have count := congrArg Shared.rolledBack same
  simp at count

theorem step_settles {shared next : Shared Call} {call : Call} {resolved : Bool}
    (taken : step shared (.settles call resolved) = some next) :
    ∃ saved, (call,saved) ∈ shared.active ∧ next.rollback = saved ∧
      next.active = shared.active.filter (fun other => other.1 ≠ call) := by
  obtain ⟨entry,found,rfl⟩ := Option.map_eq_some_iff.mp taken
  have own : entry.1 = call := by simpa using List.find?_some found
  exact ⟨entry.2,own ▸ List.mem_of_find?_eq_some found,rfl,rfl⟩

theorem oldest_settles {shared next : Shared Call} {newer : List (Call × Rollback Call)} {oldest : Call} {resolved : Bool}
    (layers : shared.active = newer ++ [(oldest,.original)]) (distinct : oldest ∉ newer.map Prod.fst)
    (taken : step shared (.settles oldest resolved) = some next) :
    next.rollback = .original ∧ next.active = newer := by
  obtain ⟨saved,member,rfl,rest⟩ := step_settles taken
  rw [layers,List.mem_append] at member
  constructor
  · rcases member with newest | last
    · exact absurd (List.mem_map_of_mem newest) distinct
    · simpa using last
  · rw [rest,layers,List.filter_append]
    have kept : newer.filter (fun other => other.1 ≠ oldest) = newer := by
      apply List.filter_eq_self.mpr
      intro entry listed
      simp only [ne_eq,decide_not,Bool.not_eq_eq_eq_not,Bool.not_true,decide_eq_false_iff_not]
      intro same
      exact distinct (same ▸ List.mem_map_of_mem listed)
    rw [kept]
    simp

theorem newer_settles {shared next : Shared Call} {newer : List (Call × Rollback Call)} {oldest call : Call}
    {resolved : Bool} (layers : shared.active = newer ++ [(oldest,.original)]) (distinct : oldest ∉ newer.map Prod.fst)
    (saved : ∀ entry ∈ newer, entry.2 ≠ .original) (other : call ≠ oldest)
    (taken : step shared (.settles call resolved) = some next) : Layered next := by
  obtain ⟨restored,member,same,rest⟩ := step_settles taken
  rw [layers,List.mem_append] at member
  have newest : (call,restored) ∈ newer := by
    rcases member with newest | last
    · exact newest
    · simp only [List.mem_singleton,Prod.mk.injEq] at last
      exact absurd last.1 other
  refine .busy (newer.filter (fun entry => entry.1 ≠ call)) oldest ?_ ?_ ?_ ?_
  · rw [rest,layers,List.filter_append]
    simp [Ne.symm other]
  · intro listed
    obtain ⟨entry,kept,equal⟩ := List.mem_map.mp listed
    exact distinct (equal ▸ List.mem_map_of_mem (List.mem_filter.mp kept).1)
  · intro entry kept
    exact saved entry (List.mem_filter.mp kept).1
  · rw [same]
    exact saved (call,restored) newest

theorem layered_step (shared : Shared Call) (action : Action Call) (next : Shared Call) (layered : Layered shared)
    (ordered : OldestLast shared action) (taken : step shared action = some next) : Layered next := by
  cases action with
  | commit =>
    cases taken
    cases layered with
    | idle none restored => exact .idle none restored
    | busy newer oldest layers distinct saved replaced => exact .busy newer oldest layers distinct saved replaced
  | rollback =>
    cases layered with
    | idle none restored =>
      simp only [step,restored,Option.some.injEq] at taken
      subst taken
      exact .idle none rfl
    | busy newer oldest layers distinct saved replaced =>
      have silent := (Layered.kept (.busy newer oldest layers distinct saved replaced)).1 (by simp [layers])
      cases silent.symm.trans taken
      exact .busy newer oldest layers distinct saved replaced
  | start call =>
    simp only [step] at taken
    split at taken
    · rename_i allowed
      cases taken
      have fresh : call ∉ shared.active.map Prod.fst := by
        intro listed
        rw [List.contains_iff_mem.mpr listed] at allowed
        simp at allowed
      cases layered with
      | idle none restored => exact .busy [] call (by simp [none,restored]) (by simp) (by simp) (by simp)
      | busy newer oldest layers distinct saved replaced =>
        refine .busy ((call,shared.rollback)::newer) oldest (by simp [layers]) ?_ ?_ (by simp)
        · simp only [List.map_cons,List.mem_cons,not_or]
          refine ⟨?_,distinct⟩
          rintro rfl
          exact fresh (by simp [layers])
        · intro entry member
          rcases List.mem_cons.mp member with rfl | listed
          · exact replaced
          · exact saved entry listed
    · cases taken
  | settles call resolved =>
    cases layered with
    | idle none restored =>
      obtain ⟨saved,member,_⟩ := step_settles taken
      simp [none] at member
    | busy newer oldest layers distinct saved replaced =>
      by_cases same : call = oldest
      · subst same
        obtain ⟨restored,rest⟩ := oldest_settles layers distinct taken
        have alone := ordered (by simp [layers])
        rw [layers] at alone
        have none : newer = [] := by simpa using alone
        exact .idle (rest.trans none) restored
      · exact newer_settles layers distinct saved same taken

theorem oldestLast_needed (shared : Shared Call) (action : Action Call) (next : Shared Call) (layered : Layered shared)
    (taken : step shared action = some next) (kept : Kept next) : OldestLast shared action := by
  cases action with
  | settles call resolved =>
    intro oldestCall
    cases layered with
    | idle none restored => simp [none] at oldestCall
    | busy newer oldest layers distinct saved replaced =>
      have same : oldest = call := by simpa [layers] using oldestCall
      subst same
      obtain ⟨restored,rest⟩ := oldest_settles layers distinct taken
      by_contra others
      have left : next.active ≠ [] := by
        intro none
        rw [rest] at none
        simp [layers,none] at others
      exact not_kept_of_original left restored kept
  | _ => trivial

theorem oldestLast_refused (shared : Shared Call) (action : Action Call) (refused : step shared action = none) :
    OldestLast shared action := by
  cases action with
  | settles call resolved =>
    intro oldestCall
    have listed := List.mem_of_getLast? oldestCall
    obtain ⟨entry,member,same⟩ := List.mem_map.mp listed
    have missing := Option.map_eq_none_iff.mp refused
    rw [List.find?_eq_none] at missing
    exact absurd same (by simpa using missing entry member)
  | _ => trivial

/-- The original function is kept safe and comes back in exactly the runs where the oldest call ends last. -/
theorem rollback_kept_iff (actions : List (Action Call)) :
    (∀ first shared, first <+: actions → run step Shared.opened first = some shared → Kept shared) ↔
      Along step OldestLast (Shared.opened : Shared Call) actions := by
  apply always_iff_along step OldestLast Layered Kept
  · exact fun _ layered => layered.kept
  · exact oldestLast_refused
  · exact oldestLast_needed
  · exact layered_step
  · exact .idle rfl rfl

end Borrowed

/-- Two overlapping calls, the first ends first: the second runs without the guard and leaves an empty function. -/
theorem overlapping_calls_lose_rollback :
    let actions : List (Action Nat) := [.start 0,.start 1,.settles 0 true,.settles 1 true]
    ∃ during final, run step Shared.opened (actions.take 3) = some during ∧ during.active ≠ [] ∧
      step during .rollback ≠ some during ∧ run step Shared.opened actions = some final ∧ final.active = [] ∧
      final.rollback = .empty 0 := by
  refine ⟨⟨.running,.original,[(1,.empty 0)],0⟩,⟨.running,.empty 0,[],0⟩,rfl,by simp,?_,rfl,rfl,rfl⟩
  intro same
  have count := congrArg Shared.rolledBack (Option.some.inj same)
  simp at count

end EventQueue.NewTransaction

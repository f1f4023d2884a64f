import EventQueue.Saga

/-! Which successors an event of an outboxed CAP service can have: every successor carries the
suffix of its kind, and a chain of successors of one published event ends after two. -/
namespace EventQueue.Saga
open Js (Value)

/-- `#publishFollowupEvents` sends `next` as the successor of the given kind. -/
inductive Sent (onHandlers : List String) (event : String) (statuses : List Value) : String → String → Prop
  | succeeded {next : String} (handler : checkHandlerExists onHandlers event SAGA_SUCCESS = some next)
      (done : ∃ status ∈ statuses, status.isOneOf [EventProcessingStatus.Done] = true)
      (first : endsWith event SAGA_SUCCESS = false) : Sent onHandlers event statuses SAGA_SUCCESS next
  | failed {next : String} (handler : checkHandlerExists onHandlers event SAGA_FAILED = some next)
      (error : ∃ status ∈ statuses, status.isOneOf [EventProcessingStatus.Error] = true) :
      Sent onHandlers event statuses SAGA_FAILED next
  | done {next : String} (handler : checkHandlerExists onHandlers event SAGA_DONE = some next)
      (some : statuses ≠ []) (first : endsWith event SAGA_SUCCESS = false) :
      Sent onHandlers event statuses SAGA_DONE next

/-- Processing the event with these statuses sends `next`. -/
def Produces (onHandlers : List String) (event : String) (statuses : List Value) (next : String) : Prop :=
  ∃ followups, followupEvents onHandlers event statuses = some followups ∧ next ∈ followups

theorem produces_iff (onHandlers : List String) (event : String) (statuses : List Value) (next : String) :
    Produces onHandlers event statuses next ↔
      (endsWith event SAGA_FAILED = false ∧ endsWith event SAGA_DONE = false) ∧
        ∃ saga, Sent onHandlers event statuses saga next := by
  unfold Produces followupEvents
  constructor
  · rintro ⟨followups,known,member⟩
    simp only at known
    split at known
    · cases known
    · split at known
      · cases known
      · rename_i handled open_
        cases known
        refine ⟨by simpa using open_,?_⟩
        obtain ⟨status,listed,sent⟩ := List.mem_flatMap.mp member
        simp only [followupsOf,List.mem_append] at sent
        rcases sent with (succeeded | failed) | done
        · split at succeeded
          · rename_i applies
            simp only [Bool.and_eq_true,Bool.not_eq_true'] at applies
            exact ⟨_,.succeeded (by simpa using succeeded) ⟨status,listed,applies.1⟩ applies.2⟩
          · cases succeeded
        · split at failed
          · rename_i applies
            exact ⟨_,.failed (by simpa using failed) ⟨status,listed,applies⟩⟩
          · cases failed
        · split at done
          · rename_i applies
            exact ⟨_,.done (by simpa using done) (List.ne_nil_of_mem listed) (by simpa using applies)⟩
          · cases done
  · rintro ⟨⟨notFailed,notDone⟩,saga,sent⟩
    cases sent with
    | succeeded handler done first =>
      obtain ⟨status,listed,isDone⟩ := done
      refine ⟨_,by simp only [handler,notFailed,notDone]; rfl,List.mem_flatMap.mpr ⟨status,listed,?_⟩⟩
      simp [followupsOf,isDone,first]
    | failed handler error =>
      obtain ⟨status,listed,isError⟩ := error
      refine ⟨_,by simp only [handler,notFailed,notDone,Option.isNone_some,Bool.and_false]; rfl,
        List.mem_flatMap.mpr ⟨status,listed,?_⟩⟩
      simp [followupsOf,isError]
    | done handler some first =>
      obtain ⟨status,rest,rfl⟩ := List.exists_cons_of_ne_nil some
      refine ⟨_,by simp only [handler,notFailed,notDone,Option.isNone_some,Bool.and_false]; rfl,
        List.mem_flatMap.mpr ⟨status,by simp,?_⟩⟩
      simp [followupsOf,first]

theorem endsWith_append (start tail : String) : endsWith (start ++ tail) tail = true := by
  simp [endsWith,String.toList_append]

theorem checkHandlerExists_endsWith {onHandlers : List String} {event saga next : String}
    (handler : checkHandlerExists onHandlers event saga = some next) : endsWith next saga = true := by
  simp only [checkHandlerExists,Option.or_eq_some_iff] at handler
  rcases handler with specific | ⟨_,generic⟩
  · have name := List.find?_some specific
    simp only [decide_eq_true_eq] at name
    exact name ▸ endsWith_append _ saga
  · have name := List.find?_some generic
    simp only [decide_eq_true_eq] at name
    subst name
    simp [endsWith]

theorem Sent.endsWith {onHandlers : List String} {event saga next : String} {statuses : List Value}
    (sent : Sent onHandlers event statuses saga next) : endsWith next saga = true := by
  cases sent with
  | succeeded handler _ _ => exact checkHandlerExists_endsWith handler
  | failed handler _ => exact checkHandlerExists_endsWith handler
  | done handler _ _ => exact checkHandlerExists_endsWith handler

/-- How many successors can still follow in a row. -/
def remaining (event : String) : Nat :=
  if endsWith event SAGA_FAILED || endsWith event SAGA_DONE then 0
  else if endsWith event SAGA_SUCCESS then 1
  else 2

theorem remaining_lower {onHandlers : List String} {event next : String} {statuses : List Value}
    (produced : Produces onHandlers event statuses next) : remaining next < remaining event := by
  obtain ⟨⟨notFailed,notDone⟩,saga,sent⟩ := (produces_iff _ _ _ _).mp produced
  have suffix := sent.endsWith
  unfold remaining
  cases sent with
  | succeeded handler done first =>
    simp only [notFailed,notDone,first,suffix,Bool.or_self,Bool.false_eq_true,if_false,if_true]
    split <;> decide
  | failed handler error =>
    simp only [notFailed,notDone,suffix,Bool.true_or,Bool.or_self,Bool.false_eq_true,if_false,if_true]
    split <;> decide
  | done handler some first =>
    simp only [notFailed,notDone,first,suffix,Bool.or_true,Bool.or_self,Bool.false_eq_true,if_false,if_true]
    decide

theorem successor_chains_are_finite (onHandlers : List String) :
    (∀ event statuses next, endsWith event SAGA_FAILED = true ∨ endsWith event SAGA_DONE = true →
      ¬Produces onHandlers event statuses next) ∧
    (∀ event statuses next, endsWith event SAGA_SUCCESS = true → Produces onHandlers event statuses next →
      Sent onHandlers event statuses SAGA_FAILED next) ∧
    (∀ event statuses next, Produces onHandlers event statuses next → ∃ saga, Sent onHandlers event statuses saga next) ∧
    (∀ event statuses saga next, Sent onHandlers event statuses saga next → endsWith next saga = true) ∧
    ∀ event chain, (event::chain).IsChain (fun event next => ∃ statuses, Produces onHandlers event statuses next) →
      chain.length ≤ 2 := by
  refine ⟨?_,?_,?_,fun _ _ _ _ sent => sent.endsWith,?_⟩
  · intro event statuses next ended produced
    obtain ⟨⟨notFailed,notDone⟩,_⟩ := (produces_iff _ _ _ _).mp produced
    simp [notFailed,notDone] at ended
  · intro event statuses next succeeded produced
    obtain ⟨_,saga,sent⟩ := (produces_iff _ _ _ _).mp produced
    cases sent with
    | succeeded handler done first => simp [succeeded] at first
    | failed handler error => exact .failed handler error
    | done handler some first => simp [succeeded] at first
  · intro event statuses next produced
    exact ((produces_iff _ _ _ _).mp produced).2
  · intro event chain linked
    have lower : ∀ event next, (∃ statuses, Produces onHandlers event statuses next) →
        remaining next < remaining event := by
      rintro event next ⟨statuses,produced⟩
      exact remaining_lower produced
    have bound := Transition.chain_length_le_rank _ remaining lower event chain linked
    have small : remaining event ≤ 2 := by
      unfold remaining
      split
      · decide
      · split <;> decide
    exact bound.trans small

example : followupEvents ["#failed","pay/#succeeded"] "pay" [.nat EventProcessingStatus.Done] =
    some ["pay/#succeeded"] := by
  decide

end EventQueue.Saga

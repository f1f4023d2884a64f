import EventQueue.ChunkConsistent
import EventQueue.System

/-! A committed status stays until a later selection takes the entry. In isolated mode this needs
that handlers report on their own clusters, that no failed cluster makes `handleErrorTx` overwrite a
status other than an error, and that nobody writes an entry somebody else has selected since. -/
namespace EventQueue.System

variable {env : Environment} {setting : Setting} {config : SelectConfig}

def StatusesAgree (env : Environment) (system : System) (entry : Nat × Move) : Prop :=
  match entry.2 with
  | .act index action => ∀ proc ∈ system.procs[index]?,
      Chunk.Own env proc.chunk action ∧ Chunk.ErrorsOnly proc.chunk action ∧
        system.NoLateWrite index proc.chunk action
  | _ => True

instance (env : Environment) (system : System) : (entry : Nat × Move) → Decidable (StatusesAgree env system entry)
  | (_,.act index action) => inferInstanceAs (Decidable (∀ proc ∈ system.procs[index]?,
      Chunk.Own env proc.chunk action ∧ Chunk.ErrorsOnly proc.chunk action ∧
        system.NoLateWrite index proc.chunk action))
  | (_,.publish _ _) | (_,.select _ _ _) => .isTrue trivial

def Spares (config : SelectConfig) (id : String) (system : System) (entry : Nat × Move) : Prop :=
  match entry.2 with
  | .select startTime baseDate selectedDelayedEventIds =>
      id ∉ (selection config system.table entry.1 startTime baseDate selectedDelayedEventIds).selectedEventMap
  | _ => True

instance (config : SelectConfig) (id : String) (system : System) :
    (entry : Nat × Move) → Decidable (Spares config id system entry)
  | (now,.select startTime baseDate selectedDelayedEventIds) => inferInstanceAs (Decidable
      (id ∉ (selection config system.table now startTime baseDate selectedDelayedEventIds).selectedEventMap))
  | (_,.publish _ _) | (_,.act _ _) => .isTrue trivial

structure Coherent (table : Table) (chunk : Chunk) : Prop where
  base : chunk.Base
  consistent : chunk.Consistent
  selected : chunk.WritesSelected
  listed : chunk.selectedEventMap ⊆ table.ids

theorem coherent_selection (config : SelectConfig) (table : Table) (now startTime baseDate : Nat)
    (delayed : List String) :
    Coherent table (selection config table now startTime baseDate delayed) where
  base := Chunk.base_selected _ _ _ _
  consistent := Chunk.consistent_selected _ _ _ _ (idsOfKind_nodup config table false startTime baseDate delayed)
  selected := Chunk.writesSelected_selected _ _ _ _
  listed := by
    intro id chosen
    obtain ⟨row,inside,rfl⟩ := selection_entry chosen
    exact List.mem_map_of_mem (mem_entries_rows config inside).1

theorem Taken.ids {system next : System} {now : Nat} {move : Move}
    (taken : Taken env setting config system now move next) : system.table.ids ⊆ next.table.ids := by
  cases taken with
  | publish position row fresh =>
    intro id listed
    obtain ⟨other,member,rfl⟩ := List.mem_map.mp listed
    exact List.mem_map_of_mem ((Table.mem_insert fresh).mpr (Or.inr member))
  | select startTime baseDate delayed earlier free =>
    simp only [Table.setToInProgress]
    rw [Table.ids_change]
    exact fun _ listed => listed
  | act index action proc chunk found reads moved =>
    simp only
    rw [tableAfter_ids]
    exact fun _ listed => listed

def AllCoherent (system : System) : Prop := ∀ proc ∈ system.procs, Coherent system.table proc.chunk

theorem AllCoherent.step {system next : System} (coherent : system.AllCoherent) {now : Nat} {move : Move}
    (isolated : setting.transactionMode = .isolated) (agree : StatusesAgree env system (now,move))
    (taken : Taken env setting config system now move next) : next.AllCoherent := by
  have grown := taken.ids
  have kept : ∀ proc ∈ system.procs, Coherent next.table proc.chunk := fun proc member =>
    {coherent proc member with listed := fun _ chosen => grown ((coherent proc member).listed chosen)}
  cases taken with
  | publish position row fresh => exact kept
  | select startTime baseDate delayed earlier free =>
    intro proc member
    rcases List.mem_append.mp member with old | new
    · exact kept proc old
    · rw [List.mem_singleton] at new
      subst new
      have fresh := coherent_selection config system.table now startTime baseDate delayed
      exact {fresh with listed := fun _ chosen => grown (fresh.listed chosen)}
  | act index action proc chunk found reads moved =>
    obtain ⟨own,errorsOnly,_⟩ := agree proc found
    have old := kept proc (List.mem_of_getElem? found)
    refine Parties.forall_mem_moved kept ?_
    exact
      { base := old.base.step now action isolated moved
        consistent := old.consistent.step old.base isolated own errorsOnly moved
        selected := old.selected.step moved
        listed := moved.selection.2 ▸ old.listed }

/-- The processor at the index has committed the status, and nobody has selected the entry since. -/
structure Standing (id : String) (status index : Nat) (system : System) : Prop where
  row : ∀ row ∈ system.table.rows, row.ID = id → row.status = status
  listed : id ∈ system.table.ids
  owner : ∃ proc, system.procs[index]? = some proc ∧ id ∈ proc.chunk.selectedEventMap ∧
    (id,status) ∈ proc.chunk.committedWrites
  last : ∀ later ∈ system.procs.drop (index + 1), id ∉ later.chunk.selectedEventMap

theorem tableAfter_status {table : Table} {chunk : Chunk} {now : Nat} {action : Chunk.Action} {id : String}
    {status : Nat} (agree : ∀ update ∈ chunk.commits action, id ∈ update.ids → update.status = status)
    (given : (∀ row ∈ table.rows, row.ID = id → row.status = status) ∨
      ∃ update ∈ chunk.commits action, id ∈ update.ids) :
    ∀ row ∈ (tableAfter table chunk now action).rows, row.ID = id → row.status = status := by
  intro row member same
  unfold tableAfter at member
  split at member
  · have known := given.resolve_right (by simp [Chunk.commits])
    split at member
    · exact known row member same
    · obtain ⟨old,inside,rfl⟩ := List.mem_map.mp member
      split at same
      · rename_i refreshed
        simp only [refreshed,if_true]
        exact known old inside same
      · rename_i other
        simp only [other,if_false]
        exact known old inside same
  · obtain ⟨old,inside,rfl⟩ := List.mem_map.mp member
    rw [apply_ID] at same
    subst same
    exact apply_status _ old status agree (given.imp_left (fun known => known old inside rfl))

theorem Coherent.agree {table : Table} {chunk next : Chunk} (after : Coherent table next) {now : Nat}
    {action : Chunk.Action} (moved : Chunk.Taken env setting chunk now action next) {id : String} {status : Nat}
    (done : (id,status) ∈ next.committedWrites) :
    ∀ update ∈ chunk.commits action, id ∈ update.ids → update.status = status := by
  intro update member listed
  refine after.consistent.once id update.status status ?_ done
  exact (Chunk.mem_commitWrites moved.committed).mpr
    (Or.inr (List.mem_flatMap.mpr ⟨update,member,List.mem_map_of_mem listed⟩))

theorem Standing.publish {system : System} {id : String} {status index : Nat}
    (standing : Standing id status index system)
    (now position : Nat) (row : Row) (fresh : row.ID ∉ system.table.ids) :
    Standing id status index {system with now := now,table := system.table.insert position row fresh} where
  row other member same := by
    rcases (Table.mem_insert fresh).mp member with rfl | old
    · exact absurd standing.listed (same ▸ fresh)
    · exact standing.row other old same
  listed := by
    obtain ⟨other,member,rfl⟩ := List.mem_map.mp standing.listed
    exact List.mem_map_of_mem ((Table.mem_insert fresh).mpr (Or.inr member))
  owner := standing.owner
  last := standing.last

theorem Standing.select {system : System} {id : String} {status index : Nat}
    (standing : Standing id status index system) {now startTime baseDate : Nat} {delayed : List String}
    (spared : id ∉ (selection config system.table now startTime baseDate delayed).selectedEventMap) :
    Standing id status index ⟨now,system.table.setToInProgress
      (selection config system.table now startTime baseDate delayed).selectedEventMap now,
      system.procs ++ [⟨selection config system.table now startTime baseDate delayed,now⟩]⟩ where
  row other member same := by
    obtain ⟨old,inside,key,changed⟩ := Table.mem_setToInProgress member
    rw [if_neg (by rw [key,same]; exact spared)] at changed
    exact standing.row other (changed ▸ inside) same
  listed := by
    rw [Table.setToInProgress,Table.ids_change]
    exact standing.listed
  owner := by
    obtain ⟨proc,found,rest⟩ := standing.owner
    have small := (List.getElem?_eq_some_iff.mp found).1
    exact ⟨proc,by rw [List.getElem?_append_left small]; exact found,rest⟩
  last := by
    obtain ⟨proc,found,_⟩ := standing.owner
    have small := (List.getElem?_eq_some_iff.mp found).1
    intro later member
    rw [List.drop_append_of_le_length small] at member
    rcases List.mem_append.mp member with old | new
    · exact standing.last later old
    · rw [List.mem_singleton] at new
      exact new ▸ spared

theorem last_set {procs : List Proc} {index position : Nat} {proc changed : Proc} {id : String}
    (found : procs[position]? = some proc)
    (same : changed.chunk.selectedEventMap = proc.chunk.selectedEventMap)
    (last : ∀ later ∈ procs.drop (index + 1), id ∉ later.chunk.selectedEventMap) :
    ∀ later ∈ (procs.set position changed).drop (index + 1), id ∉ later.chunk.selectedEventMap := by
  intro later member
  obtain ⟨offset,at_⟩ := List.mem_iff_getElem?.mp member
  rw [List.getElem?_drop] at at_
  rcases Parties.getElem?_moved found at_ with ⟨equal,rfl⟩ | ⟨_,old⟩
  · rw [same]
    exact last proc (Parties.mem_later found (by omega))
  · exact last later (Parties.mem_later old (by omega))

theorem Standing.act {system : System} {id : String} {status index : Nat}
    (standing : Standing id status index system)
    (coherent : system.AllCoherent) {now position : Nat} {action : Chunk.Action} {proc : Proc} {next : Chunk}
    (found : system.procs[position]? = some proc) (late : system.NoLateWrite position proc.chunk action)
    (moved : Chunk.Taken env setting proc.chunk now action next) (after : Coherent system.table next) :
    Standing id status index ⟨now,tableAfter system.table proc.chunk now action,
      system.procs.set position ⟨next,tickAfter proc now action⟩⟩ := by
  obtain ⟨owner,known,chosen,done⟩ := standing.owner
  have agree : ∀ update ∈ proc.chunk.commits action, id ∈ update.ids → update.status = status := by
    intro update member listed
    have own := (coherent proc (List.mem_of_getElem? found)).selected.commits member listed
    rcases Nat.lt_trichotomy position index with before | rfl | behind
    · exact absurd chosen (late update member id listed owner (Parties.mem_later known before))
    · rw [found] at known
      cases known
      exact after.agree moved ((Chunk.mem_commitWrites moved.committed).mpr (Or.inl done)) update member listed
    · exact absurd own (standing.last proc (Parties.mem_later found behind))
  refine ⟨tableAfter_status agree (Or.inl standing.row),by rw [tableAfter_ids]; exact standing.listed,?_,
    last_set found moved.selection.2 standing.last⟩
  by_cases same : position = index
  · subst same
    rw [found] at known
    cases known
    have small := (List.getElem?_eq_some_iff.mp found).1
    exact ⟨_,List.getElem?_set_self small,moved.selection.2 ▸ chosen,
      (Chunk.mem_commitWrites moved.committed).mpr (Or.inl done)⟩
  · exact ⟨owner,by rw [List.getElem?_set_ne same]; exact known,chosen,done⟩

theorem Standing.spared {system : System} {id : String} {status index : Nat}
    (standing : Standing id status index system)
    (final : status = EventProcessingStatus.Done ∨ status = EventProcessingStatus.Exceeded)
    (now startTime baseDate : Nat) (delayed : List String) :
    id ∉ (selection config system.table now startTime baseDate delayed).selectedEventMap := by
  intro chosen
  obtain ⟨row,inside,same⟩ := selection_entry chosen
  obtain ⟨member,fits⟩ := mem_entries_rows config inside
  have known := standing.row row member same
  obtain ⟨done,exceeded⟩ := selectable_status config fits
  rcases final with rfl | rfl
  · exact done known
  · exact exceeded known

theorem Standing.step {system next : System} {id : String} {status index : Nat}
    (standing : Standing id status index system)
    (coherent : system.AllCoherent) {now : Nat} {move : Move} (isolated : setting.transactionMode = .isolated)
    (agree : StatusesAgree env system (now,move))
    (spares : (status = EventProcessingStatus.Done ∨ status = EventProcessingStatus.Exceeded) ∨
      Spares config id system (now,move))
    (taken : Taken env setting config system now move next) : Standing id status index next := by
  cases taken with
  | publish position row fresh => exact standing.publish now position row fresh
  | select startTime baseDate delayed earlier free =>
    refine standing.select ?_
    rcases spares with final | spared
    · exact standing.spared final now startTime baseDate delayed
    · exact spared
  | act position action proc chunk found reads moved =>
    obtain ⟨own,errorsOnly,late⟩ := agree proc found
    have old := coherent proc (List.mem_of_getElem? found)
    refine standing.act coherent found late moved ?_
    exact ⟨old.base.step now action isolated moved,old.consistent.step old.base isolated own errorsOnly moved,
      old.selected.step moved,moved.selection.2 ▸ old.listed⟩

theorem standing_commit {system : System} (coherent : system.AllCoherent) {now index : Nat} {action : Chunk.Action}
    {proc : Proc} {next : Chunk} (found : system.procs[index]? = some proc)
    (late : system.NoLateWrite index proc.chunk action)
    (moved : Chunk.Taken env setting proc.chunk now action next) (after : Coherent system.table next)
    {update : Update} (member : update ∈ proc.chunk.commits action) {id : String} (listed : id ∈ update.ids) :
    Standing id update.status index ⟨now,tableAfter system.table proc.chunk now action,
      system.procs.set index ⟨next,tickAfter proc now action⟩⟩ := by
  have old := coherent proc (List.mem_of_getElem? found)
  have chosen := old.selected.commits member listed
  have done : (id,update.status) ∈ next.committedWrites :=
    (Chunk.mem_commitWrites moved.committed).mpr
      (Or.inr (List.mem_flatMap.mpr ⟨update,member,List.mem_map_of_mem listed⟩))
  have small := (List.getElem?_eq_some_iff.mp found).1
  exact
    { row := tableAfter_status (after.agree moved done) (Or.inr ⟨update,member,listed⟩)
      listed := by
        rw [tableAfter_ids]
        exact old.listed chosen
      owner := ⟨_,List.getElem?_set_self small,moved.selection.2 ▸ chosen,done⟩
      last := last_set found moved.selection.2 (late update member id listed) }

/-- Once a transaction has committed a status for an entry, the entry keeps it until it is selected
again; Done and Exceeded stay for ever. -/
theorem committed_status_survives (env : Environment) (setting : Setting) (config : SelectConfig)
    (isolated : setting.transactionMode = .isolated) (table : Table) (start now index : Nat)
    (before after : List (Nat × Move)) (action : Chunk.Action) (system next final : System) (proc : Proc)
    (update : Update) (id : String)
    (guarded : Transition.Along (step env setting config) (StatusesAgree env) ⟨start,table,[]⟩
      (before ++ (now,.act index action)::after))
    (reached : Transition.run (step env setting config) ⟨start,table,[]⟩ before = some system)
    (found : system.procs[index]? = some proc) (commits : update ∈ proc.chunk.commits action)
    (listed : id ∈ update.ids) (taken : system.step env setting config (now,.act index action) = some next)
    (continued : Transition.run (step env setting config) next after = some final)
    (spared : (update.status = EventProcessingStatus.Done ∨ update.status = EventProcessingStatus.Exceeded) ∨
      Transition.Along (step env setting config) (Spares config id) next after) :
    ∃ row ∈ final.table.rows, row.ID = id ∧ row.status = update.status := by
  have preserved : ∀ state entry later, AllCoherent state → StatusesAgree env state entry →
      state.step env setting config entry = some later → AllCoherent later := by
    rintro state ⟨time,move⟩ later coherent agree moved
    exact coherent.step isolated agree (step_taken env setting config state later time move moved).2
  have coherent : system.AllCoherent :=
    Transition.invariant _ _ AllCoherent preserved _ _ _ (by simp [AllCoherent])
      (Transition.along_left _ _ _ _ _ guarded) reached
  have remaining := Transition.along_append _ _ _ _ _ _ guarded reached
  have agree := remaining.1
  have committed : next.AllCoherent ∧ Standing id update.status index next := by
    obtain ⟨_,known⟩ := step_taken env setting config system next now (.act index action) taken
    have later := coherent.step isolated agree known
    refine ⟨later,?_⟩
    cases known with
    | act _ _ owner chunk own reads moved =>
      rw [found] at own
      cases own
      obtain ⟨reported,errorsOnly,late⟩ := agree proc found
      have old := coherent proc (List.mem_of_getElem? found)
      refine standing_commit coherent found late moved ?_ commits listed
      exact ⟨old.base.step now action isolated moved,
        old.consistent.step old.base isolated reported errorsOnly moved,old.selected.step moved,
        moved.selection.2 ▸ old.listed⟩
  have guarded : Transition.Along (step env setting config) (fun state entry => StatusesAgree env state entry ∧
      ((update.status = EventProcessingStatus.Done ∨ update.status = EventProcessingStatus.Exceeded) ∨
        Spares config id state entry)) next after := by
    refine Transition.along_and _ _ _ _ _ (remaining.2 next taken) ?_
    rcases spared with final | spared
    · exact Transition.along_strengthen _ _ _ (fun _ => True) (fun _ _ _ _ _ _ => trivial)
        (fun _ _ _ _ => Or.inl final) next after trivial (Transition.along_true _ next after)
    · exact Transition.along_strengthen _ _ _ (fun _ => True) (fun _ _ _ _ _ _ => trivial)
        (fun _ _ _ spares => Or.inr spares) next after trivial spared
  have standing := Transition.invariant _ _ (fun state => AllCoherent state ∧ Standing id update.status index state)
    (fun state entry later holds guard moved => ⟨preserved state entry later holds.1 guard.1 moved,
      holds.2.step holds.1 isolated guard.1 guard.2 (step_taken env setting config state later _ _ moved).2⟩)
    next final after committed guarded continued
  obtain ⟨row,member,same⟩ := List.mem_map.mp standing.2.listed
  exact ⟨row,member,same,standing.2.row row member same⟩

/-- Two clusters at work, the first one about to commit. -/
def firstDone : List (Nat × Move) :=
  [(1,.select 1 1 []),(1,.act 0 (.preprocess (fun _ => .value))),
    (1,.act 0 (.cluster (some [("e1",["e1"]),("e2",["e2"])]))),(2,.act 0 (.launch 0)),(2,.act 0 (.launch 1)),
    (3,.act 0 (.processEvent 0 true)),(3,.act 0 (.processEvent 1 true)),
    (4,.act 0 (.report 0 (.returned (.arr [.arr [.str "e1",.nat EventProcessingStatus.Done]])))),
    (5,.act 0 (.settle 0 false true)),(5,.act 0 (.write 0 true))]

/-- The second cluster commits or fails to; the chunk ends and another processor selects. -/
def secondDone (ok : Bool) (persist : List (Nat × Move)) : List (Nat × Move) :=
  [(7,.act 0 (.report 1 (.returned (.arr [.arr [.str "e2",.nat EventProcessingStatus.Done]])))),
    (8,.act 0 (.settle 1 false true)),(8,.act 0 (.write 1 true)),(9,.act 0 (.commit 1 ok)),
    (10,.act 0 (.endMap true)),(10,.act 0 .persistOpen)] ++ persist ++
  [(11,.act 0 (.persistCommit true)),(12,.select 1 12 [])]

theorem committed_status_survives_two_clusters :
    ∃ system ∈ Transition.run (step .plain twoAtATime window) ⟨0,twoEntries,[]⟩ firstDone,
      ∃ next ∈ system.step .plain twoAtATime window (6,.act 0 (.commit 0 true)),
      ∃ final ∈ Transition.run (step .plain twoAtATime window) next (secondDone true []),
      ∃ row ∈ final.table.rows, row.ID = "e1" ∧ row.status = EventProcessingStatus.Done := by
  have computed : ∃ system ∈ Transition.run (step .plain twoAtATime window) ⟨0,twoEntries,[]⟩ firstDone,
      ∃ proc ∈ system.procs[0]?, ∃ update ∈ proc.chunk.commits (.commit 0 true), "e1" ∈ update.ids ∧
      update.status = EventProcessingStatus.Done ∧
      ∃ next ∈ system.step .plain twoAtATime window (6,.act 0 (.commit 0 true)),
      (Transition.run (step .plain twoAtATime window) next (secondDone true [])).isSome := by decide
  obtain ⟨system,reached,proc,found,update,commits,listed,done,next,taken,more⟩ := computed
  obtain ⟨final,continued⟩ := Option.isSome_iff_exists.mp more
  refine ⟨system,reached,next,taken,final,continued,?_⟩
  rw [← done]
  exact committed_status_survives .plain twoAtATime window rfl twoEntries 0 6 0 firstDone (secondDone true [])
    (.commit 0 true) system next final proc update "e1" (by decide) reached found commits listed taken continued
    (Or.inl (Or.inl done))

/-- The second cluster fails to commit: the first entry is Done and then an error, without a selection. -/
theorem committed_done_overwritten :
    ∃ system ∈ Transition.run (step .plain twoAtATime window) ⟨0,twoEntries,[]⟩ firstDone,
      ∃ proc ∈ system.procs[0]?, ∃ update ∈ proc.chunk.commits (.commit 0 true), "e1" ∈ update.ids ∧
      update.status = EventProcessingStatus.Done ∧
      ∃ next ∈ system.step .plain twoAtATime window (6,.act 0 (.commit 0 true)),
      Transition.Along (step .plain twoAtATime window) (Spares window "e1") next
        (secondDone false [(10,.act 0 (.persistWrite true))]) ∧
      ∃ final ∈ Transition.run (step .plain twoAtATime window) next
        (secondDone false [(10,.act 0 (.persistWrite true))]),
      ∃ row ∈ final.table.rows, row.ID = "e1" ∧ row.status = EventProcessingStatus.Error := by
  have computed : ∃ system ∈ Transition.run (step .plain twoAtATime window) ⟨0,twoEntries,[]⟩ firstDone,
      ∃ proc ∈ system.procs[0]?, ∃ update ∈ proc.chunk.commits (.commit 0 true), "e1" ∈ update.ids ∧
      update.status = EventProcessingStatus.Done ∧
      ∃ next ∈ system.step .plain twoAtATime window (6,.act 0 (.commit 0 true)),
      decide (Transition.Along (step .plain twoAtATime window) (Spares window "e1") next
          (secondDone false [(10,.act 0 (.persistWrite true))]) ∧
        ∃ final ∈ Transition.run (step .plain twoAtATime window) next
          (secondDone false [(10,.act 0 (.persistWrite true))]),
        ∃ row ∈ final.table.rows, row.ID = "e1" ∧ row.status = EventProcessingStatus.Error) = true := by decide
  simpa only [decide_eq_true_eq] using computed

end EventQueue.System

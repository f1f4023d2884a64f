import EventQueue.Lib.Parties
import EventQueue.Lib.Transition
import Mathlib.Logic.Relation

/-! `outboxed` and `unboxed` of `outbox/eventQueueAsOutbox.js`: handles that have the service as their prototype, and the
two properties that lead from a service to its handle and back. Both are inherited, also by what `tx` derives. -/
namespace EventQueue.OutboxedService

/-- The properties an object has of its own; objects are named by their place in the heap. -/
structure Object where
  proto : Option Nat
  UNBOXED : Option Nat
  OUTBOXED : Option Nat
  deriving DecidableEq

/-- A property of the object or of the next of its prototypes that has it. -/
def lookup (objects : List Object) (slot : Object → Option Nat) : Nat → Nat → Option Nat
  | 0,_ => none
  | fuel + 1,id => objects[id]?.bind (fun object =>
      (slot object).or (object.proto.bind (lookup objects slot fuel)))

/-- A prototype is older than what is derived from it. -/
def get (objects : List Object) (slot : Object → Option Nat) (id : Nat) : Option Nat := lookup objects slot (id + 1) id

def unboxed (objects : List Object) (srv : Nat) : Nat := (get objects Object.UNBOXED srv).getD srv

/-- `Object.create(originalSrv)` with the property that leads back. -/
def handleOf (originalSrv : Nat) : Object := ⟨some originalSrv,some originalSrv,none⟩

/-- The result and the heap afterwards; `isNew` if it is called with `new`. -/
def outboxed (objects : List Object) (srv : Nat) (customOpts isNew : Bool) : Nat × List Object :=
  match if isNew || customOpts then none else get objects Object.OUTBOXED srv with
  | some former => (former,objects)
  | none =>
    let outboxedSrv := objects.length
    let created := objects ++ [handleOf (unboxed objects srv)]
    (outboxedSrv,if isNew || (get objects Object.OUTBOXED srv).isSome then created
      else created.modify srv (fun object => {object with OUTBOXED := some outboxedSrv}))

structure Call where
  srv : Nat
  /-- Without options and without `new`. -/
  plain : Bool
  result : Nat
  deriving DecidableEq

structure State where
  objects : List Object
  /-- History that no function reads back. -/
  calls : List Call

def State.initial : State := ⟨[],[]⟩

inductive Action
  /-- A service comes into being. -/
  | connect
  /-- `tx` and the like: an object with another one as its prototype. -/
  | derive (srv : Nat)
  | outboxed (srv : Nat) (customOpts isNew : Bool)

def step (state : State) : Action → Option State
  | .connect => some {state with objects := state.objects ++ [⟨none,none,none⟩]}
  | .derive srv =>
    if srv < state.objects.length then some {state with objects := state.objects ++ [⟨some srv,none,none⟩]} else none
  | .outboxed srv customOpts isNew =>
    if srv < state.objects.length then
      let (result,objects) := OutboxedService.outboxed state.objects srv customOpts isNew
      some ⟨objects,state.calls ++ [⟨srv,!(isNew || customOpts),result⟩]⟩
    else none

/-- `new` is not used. -/
def Called : State → Action → Prop
  | _,.outboxed _ _ isNew => isNew = false
  | _,_ => True

instance decidableCalled (state : State) (action : Action) : Decidable (Called state action) :=
  match action with
  | .outboxed _ _ isNew => inferInstanceAs (Decidable (isNew = false))
  | .connect => .isTrue trivial
  | .derive _ => .isTrue trivial

def Derives (objects : List Object) : Nat → Nat → Prop :=
  Relation.ReflTransGen (fun id proto => ∃ object, objects[id]? = some object ∧ object.proto = some proto)

/-- The handle stands for an object that is no handle, the service itself or one that it derives from. -/
def StandsFor (objects : List Object) (call : Call) : Prop :=
  unboxed objects call.result ≠ call.result ∧ get objects Object.UNBOXED (unboxed objects call.result) = none ∧
    Derives objects call.srv (unboxed objects call.result)

def Older (objects : List Object) : Prop :=
  ∀ (id : Nat) object, objects[id]? = some object → ∀ proto, object.proto = some proto → proto < id

section
variable {objects : List Object} (older : Older objects) (slot : Object → Option Nat)

include older

theorem lookup_enough (id : Nat) : ∀ fuel, id < fuel → lookup objects slot fuel id = lookup objects slot (id + 1) id := by
  induction id using Nat.strong_induction_on with
  | _ id ih =>
    intro fuel enough
    obtain ⟨fuel,rfl⟩ : ∃ less, fuel = less + 1 := ⟨fuel - 1,by omega⟩
    simp only [lookup]
    cases found : objects[id]? with
    | none => rfl
    | some object =>
      cases proto : object.proto with
      | none => simp [proto]
      | some parent =>
        have before := older id object found parent proto
        have same : lookup objects slot fuel parent = lookup objects slot id parent :=
          (ih parent before fuel (by omega)).trans (ih parent before id before).symm
        simp [proto,same]

theorem get_eq {id : Nat} {object : Object} (found : objects[id]? = some object) :
    get objects slot id = (slot object).or (object.proto.bind (get objects slot)) := by
  rw [get,lookup,found,Option.bind_some]
  cases proto : object.proto with
  | none => rfl
  | some parent =>
    rw [Option.bind_some,Option.bind_some,get,lookup_enough older slot parent id (older id object found parent proto)]

omit older in
theorem get_missing {id : Nat} (missing : objects[id]? = none) : get objects slot id = none := by
  simp [get,lookup,missing]

/-- A property that an object has comes from an object it derives from. -/
theorem get_owner {id value : Nat} (given : get objects slot id = some value) :
    ∃ owner object, Derives objects id owner ∧ objects[owner]? = some object ∧ slot object = some value := by
  induction id using Nat.strong_induction_on with
  | _ id ih =>
    cases found : objects[id]? with
    | none =>
      rw [get_missing slot found] at given
      cases given
    | some object =>
      rw [get_eq older slot found] at given
      rcases Option.or_eq_some_iff.mp given with own | ⟨_,inherited⟩
      · exact ⟨id,object,Relation.ReflTransGen.refl,found,own⟩
      · obtain ⟨parent,proto,above⟩ := Option.bind_eq_some_iff.mp inherited
        obtain ⟨owner,source,derives,at_,own⟩ := ih parent (older id object found parent proto) above
        exact ⟨owner,source,derives.head ⟨object,found,proto⟩,at_,own⟩

/-- What derives from an object that has a property has it too. -/
theorem get_derived {id owner : Nat} (derives : Derives objects id owner)
    (given : (get objects slot owner).isSome = true) : (get objects slot id).isSome = true := by
  induction derives using Relation.ReflTransGen.head_induction_on with
  | refl => exact given
  | head first _ ih =>
    obtain ⟨object,found,proto⟩ := first
    rw [get_eq older slot found,proto,Option.bind_some,Option.isSome_or,ih,Bool.or_true]

end

/-- The object gets the new handle, which stands for the same as the object. -/
def GetsHandle (before after : List Object) (id : Nat) (kept : Object) : Prop :=
  get before Object.OUTBOXED id = none ∧ kept.OUTBOXED = some before.length ∧
    ∃ handle, after[before.length]? = some handle ∧ handle.UNBOXED = some (unboxed before id)

/-- Objects stay with what they have, and may get a handle if they have none yet. -/
structure Kept (before after : List Object) : Prop where
  length : before.length ≤ after.length
  objects : ∀ (id : Nat) object, before[id]? = some object → ∃ kept, after[id]? = some kept ∧
    kept.proto = object.proto ∧ kept.UNBOXED = object.UNBOXED ∧
    (kept.OUTBOXED = object.OUTBOXED ∨ GetsHandle before after id kept)

section
variable {before after : List Object} (older : Older before) (still : Older after) (kept : Kept before after)

include older still kept

theorem Kept.unboxed {id : Nat} (inside : id < before.length) :
    get after Object.UNBOXED id = get before Object.UNBOXED id := by
  induction id using Nat.strong_induction_on with
  | _ id ih =>
    have found := List.getElem?_eq_getElem inside
    obtain ⟨object,at_,proto,own,_⟩ := kept.objects id _ found
    rw [get_eq still _ at_,get_eq older _ found,proto,own]
    cases given : before[id].proto with
    | none => rfl
    | some parent =>
      have less := older id _ found parent given
      rw [Option.bind_some,Option.bind_some,ih parent less (Nat.lt_trans less inside)]

theorem Kept.outboxed {id value : Nat} (given : get before Object.OUTBOXED id = some value) :
    get after Object.OUTBOXED id = some value := by
  induction id using Nat.strong_induction_on with
  | _ id ih =>
    cases found : before[id]? with
    | none =>
      rw [get_missing _ found] at given
      cases given
    | some object =>
      obtain ⟨same,at_,proto,_,own⟩ := kept.objects id object found
      have own := own.resolve_right (fun gets => by simp [gets.1] at given)
      rw [get_eq older _ found] at given
      rw [get_eq still _ at_,proto,own]
      rcases Option.or_eq_some_iff.mp given with mine | ⟨none,inherited⟩
      · rw [mine,Option.some_or]
      · obtain ⟨parent,given,above⟩ := Option.bind_eq_some_iff.mp inherited
        rw [none,Option.none_or,given,Option.bind_some]
        exact ih parent (older id object found parent given) above

omit older still in
theorem Kept.derives {id other : Nat} (derives : Derives before id other) : Derives after id other := by
  refine Relation.ReflTransGen.mono (fun id proto first => ?_) _ _ derives
  obtain ⟨object,found,given⟩ := first
  obtain ⟨same,at_,equal,_⟩ := kept.objects id object found
  exact ⟨same,at_,equal.trans given⟩

end

/-- An object of the grown heap is one of before or the one that it grew by. -/
theorem Kept.grown {before after : List Object} (kept : Kept before after) {last : Object}
    (length : after.length = before.length + 1) (newest : after[before.length]? = some last) {id : Nat} {object : Object}
    (found : after[id]? = some object) :
    (∃ former, before[id]? = some former ∧ object.proto = former.proto ∧ object.UNBOXED = former.UNBOXED ∧
      (object.OUTBOXED = former.OUTBOXED ∨ GetsHandle before after id object)) ∨ id = before.length ∧ object = last := by
  have bound := (List.getElem?_eq_some_iff.mp found).1
  by_cases inside : id < before.length
  · obtain ⟨same,at_,rest⟩ := kept.objects id _ (List.getElem?_eq_getElem inside)
    cases at_.symm.trans found
    exact Or.inl ⟨_,List.getElem?_eq_getElem inside,rest⟩
  · have here : id = before.length := by omega
    subst here
    exact Or.inr ⟨rfl,Option.some.inj (found.symm.trans newest)⟩

theorem kept_joined (objects : List Object) (last : Object) : Kept objects (objects ++ [last]) := by
  refine ⟨by simp,fun id object found => ⟨object,?_,rfl,rfl,Or.inl rfl⟩⟩
  rw [List.getElem?_append_left (List.getElem?_eq_some_iff.mp found).1]
  exact found

theorem older_joined {objects : List Object} (older : Older objects) {last : Object}
    (inside : ∀ proto, last.proto = some proto → proto < objects.length) : Older (objects ++ [last]) := by
  intro id object found proto given
  rcases Parties.getElem?_joined found with before | ⟨rfl,rfl⟩
  · exact older id object before proto given
  · exact inside proto given

theorem older_boxed {objects : List Object} (older : Older objects) (srv value : Nat) :
    Older (objects.modify srv (fun object => {object with OUTBOXED := some value})) := by
  intro id object found proto given
  rw [List.getElem?_modify] at found
  obtain ⟨before,at_,same⟩ := Option.map_eq_some_iff.mp found
  refine older id before at_ proto ?_
  rw [← given,← same]
  by_cases own : srv = id
  · simp [own]
  · simp [own]

theorem newest_boxed {objects : List Object} {srv : Nat} (inside : srv < objects.length) (last : Object) (value : Nat) :
    ((objects ++ [last]).modify srv (fun object => {object with OUTBOXED := some value}))[objects.length]? = some last := by
  simp [Nat.ne_of_lt inside]

/-- The object without a handle gets the one that is made for it. -/
theorem kept_boxed {objects : List Object} {srv : Nat} (none : get objects Object.OUTBOXED srv = none) :
    Kept objects ((objects ++ [handleOf (unboxed objects srv)]).modify srv
      (fun object => {object with OUTBOXED := some objects.length})) := by
  refine ⟨by simp,fun id object found => ?_⟩
  have joined (last : Object) : (objects ++ [last])[id]? = some object := by
    rw [List.getElem?_append_left (List.getElem?_eq_some_iff.mp found).1]
    exact found
  have inside := (List.getElem?_eq_some_iff.mp found).1
  rw [List.getElem?_modify,joined]
  by_cases same : srv = id
  · subst same
    exact ⟨{object with OUTBOXED := some objects.length},by simp,rfl,rfl,
      Or.inr ⟨none,rfl,handleOf (unboxed objects srv),newest_boxed inside _ _,rfl⟩⟩
  · exact ⟨object,by simp [same],rfl,rfl,Or.inl rfl⟩

/-- The result of a call is a handle of the service or of one that it derives from. -/
def Boxes (objects : List Object) (call : Call) : Prop :=
  ∃ handle original, objects[call.result]? = some handle ∧ handle.UNBOXED = some original ∧
    Derives objects call.srv original

/-- Handles have what they stand for as their prototype, and stand for no handle. -/
structure Boxing (objects : List Object) : Prop where
  older : Older objects
  boxed : ∀ (id : Nat) object original, objects[id]? = some object → object.UNBOXED = some original →
    object.proto = some original ∧ get objects Object.UNBOXED original = none
  handles : ∀ (id : Nat) object handle, objects[id]? = some object → object.OUTBOXED = some handle →
    ∃ boxed, objects[handle]? = some boxed ∧ boxed.UNBOXED = some (unboxed objects id)

section
variable {objects : List Object} (boxing : Boxing objects)

include boxing

theorem Boxing.unboxed_cases (srv : Nat) : get objects Object.UNBOXED srv = none ∧ unboxed objects srv = srv ∨
    ∃ owner object original, Derives objects srv owner ∧ objects[owner]? = some object ∧
      object.UNBOXED = some original ∧ unboxed objects srv = original := by
  unfold unboxed
  cases given : get objects Object.UNBOXED srv with
  | none => exact Or.inl ⟨rfl,rfl⟩
  | some original =>
    obtain ⟨owner,object,derives,found,own⟩ := get_owner boxing.older Object.UNBOXED given
    exact Or.inr ⟨owner,object,original,derives,found,own,rfl⟩

theorem Boxing.unboxed_derives (srv : Nat) : Derives objects srv (unboxed objects srv) := by
  rcases boxing.unboxed_cases srv with ⟨_,same⟩ | ⟨owner,object,original,derives,found,own,same⟩
  · rw [same]
    exact Relation.ReflTransGen.refl
  · rw [same]
    exact derives.tail ⟨object,found,(boxing.boxed owner object original found own).1⟩

theorem Boxing.unboxed_plain (srv : Nat) : get objects Object.UNBOXED (unboxed objects srv) = none := by
  rcases boxing.unboxed_cases srv with ⟨plain,same⟩ | ⟨owner,object,original,_,found,own,same⟩
  · rw [same]
    exact plain
  · rw [same]
    exact (boxing.boxed owner object original found own).2

theorem Boxing.unboxed_inside {srv : Nat} (inside : srv < objects.length) : unboxed objects srv < objects.length := by
  rcases boxing.unboxed_cases srv with ⟨_,same⟩ | ⟨owner,object,original,_,found,own,same⟩
  · rw [same]
    exact inside
  · rw [same]
    have proto := (boxing.boxed owner object original found own).1
    exact Nat.lt_trans (boxing.older owner object found original proto) (List.getElem?_eq_some_iff.mp found).1

theorem Boxing.unboxed_handle {handle original : Nat} {object : Object} (found : objects[handle]? = some object)
    (own : object.UNBOXED = some original) : unboxed objects handle = original := by
  rw [unboxed,get_eq boxing.older _ found,own,Option.some_or,Option.getD_some]

theorem Boxing.standsFor {call : Call} (boxes : Boxes objects call) : StandsFor objects call := by
  obtain ⟨handle,original,found,own,derives⟩ := boxes
  obtain ⟨proto,plain⟩ := boxing.boxed call.result handle original found own
  rw [StandsFor,boxing.unboxed_handle found own]
  exact ⟨Nat.ne_of_lt (boxing.older call.result handle found original proto),plain,derives⟩

/-- What is found under the service is a handle of it or of one that it derives from. -/
theorem Boxing.former {srv former : Nat} (given : get objects Object.OUTBOXED srv = some former) (plain : Bool) :
    Boxes objects ⟨srv,plain,former⟩ := by
  obtain ⟨owner,object,derives,found,own⟩ := get_owner boxing.older Object.OUTBOXED given
  obtain ⟨handle,at_,stands⟩ := boxing.handles owner object former found own
  exact ⟨handle,unboxed objects owner,at_,stands,derives.trans (boxing.unboxed_derives owner)⟩

/-- The heap grows by one object, a plain one or a handle of a service. -/
theorem Boxing.grown {after : List Object} (kept : Kept objects after) (older : Older after) {last : Object}
    (length : after.length = objects.length + 1) (newest : after[objects.length]? = some last) (bare : last.OUTBOXED = none)
    (stands : ∀ original, last.UNBOXED = some original → last.proto = some original ∧
      get objects Object.UNBOXED original = none) : Boxing after := by
  refine ⟨older,fun id object original found own => ?_,fun id object handle found own => ?_⟩
  · rcases kept.grown length newest found with ⟨before,at_,proto,unboxed,_⟩ | ⟨rfl,rfl⟩
    · rw [unboxed] at own
      obtain ⟨parent,plain⟩ := boxing.boxed id before original at_ own
      have less := boxing.older id before at_ original parent
      rw [proto,kept.unboxed boxing.older older (Nat.lt_trans less (List.getElem?_eq_some_iff.mp at_).1)]
      exact ⟨parent,plain⟩
    · obtain ⟨proto,plain⟩ := stands original own
      have less := older _ object found original proto
      rw [kept.unboxed boxing.older older less]
      exact ⟨proto,plain⟩
  · rcases kept.grown length newest found with ⟨before,at_,_,_,same | ⟨_,given,handle_,isNew,stands_⟩⟩ | ⟨_,rfl⟩
    · have inside := (List.getElem?_eq_some_iff.mp at_).1
      rw [same] at own
      obtain ⟨boxed,there,standing⟩ := boxing.handles id before handle at_ own
      obtain ⟨still,foundStill,_,unboxed_,_⟩ := kept.objects handle boxed there
      refine ⟨still,foundStill,?_⟩
      rw [unboxed_,standing,unboxed,unboxed,kept.unboxed boxing.older older inside]
    · have inside := (List.getElem?_eq_some_iff.mp at_).1
      cases given.symm.trans own
      refine ⟨handle_,isNew,?_⟩
      rw [stands_,unboxed,unboxed,kept.unboxed boxing.older older inside]
    · rw [bare] at own
      cases own

omit boxing in
/-- There is a handle already; or the call makes one, that nobody finds or that the service keeps. -/
theorem outboxed_cases (srv : Nat) (customOpts isNew : Bool) :
    (∃ former, get objects Object.OUTBOXED srv = some former ∧
        outboxed objects srv customOpts isNew = (former,objects)) ∨
      (isNew || customOpts) = true ∧ (isNew = true ∨ (get objects Object.OUTBOXED srv).isSome = true) ∧
        outboxed objects srv customOpts isNew = (objects.length,objects ++ [handleOf (unboxed objects srv)]) ∨
      isNew = false ∧ get objects Object.OUTBOXED srv = none ∧ outboxed objects srv customOpts isNew =
        (objects.length,(objects ++ [handleOf (unboxed objects srv)]).modify srv
          (fun object => {object with OUTBOXED := some objects.length})) := by
  unfold outboxed
  cases isNew with
  | true => simp
  | false =>
    cases former : get objects Object.OUTBOXED srv with
    | none => cases customOpts <;> simp
    | some former => cases customOpts <;> simp

theorem Boxing.joined {last : Object} (inside : ∀ proto, last.proto = some proto → proto < objects.length)
    (bare : last.OUTBOXED = none) (stands : ∀ original, last.UNBOXED = some original → last.proto = some original ∧
      get objects Object.UNBOXED original = none) : Boxing (objects ++ [last]) :=
  boxing.grown (kept_joined objects last) (older_joined boxing.older inside) (by simp) (by simp) bare stands

theorem Boxing.handle {srv : Nat} (inside : srv < objects.length) : Boxing (objects ++ [handleOf (unboxed objects srv)]) := by
  refine boxing.joined (fun proto given => ?_) rfl (fun original own => ?_)
  · cases given
    exact boxing.unboxed_inside inside
  · cases own
    exact ⟨rfl,boxing.unboxed_plain srv⟩

theorem Boxing.kept_handle {srv : Nat} (inside : srv < objects.length)
    (none : get objects Object.OUTBOXED srv = none) :
    Boxing ((objects ++ [handleOf (unboxed objects srv)]).modify srv
      (fun object => {object with OUTBOXED := some objects.length})) := by
  have older := older_boxed (boxing.handle inside).older srv objects.length
  refine boxing.grown (kept_boxed none) older (by simp) (newest_boxed inside _ _) rfl (fun original own => ?_)
  cases own
  exact ⟨rfl,boxing.unboxed_plain srv⟩

/-- The service has the handle that was made for it. -/
theorem Boxing.get_handle {srv : Nat} (inside : srv < objects.length)
    (none : get objects Object.OUTBOXED srv = none) :
    get ((objects ++ [handleOf (unboxed objects srv)]).modify srv
      (fun object => {object with OUTBOXED := some objects.length})) Object.OUTBOXED srv = some objects.length := by
  have older := (boxing.kept_handle inside none).older
  have found : ((objects ++ [handleOf (unboxed objects srv)]).modify srv
      (fun object => {object with OUTBOXED := some objects.length}))[srv]? =
        some {objects[srv] with OUTBOXED := some objects.length} := by
    rw [List.getElem?_modify_eq,List.getElem?_append_left inside,List.getElem?_eq_getElem inside]
    rfl
  rw [get_eq older _ found,Option.some_or]

end

structure Sound (state : State) : Prop where
  boxing : Boxing state.objects
  calls : ∀ call ∈ state.calls, Boxes state.objects call ∧
    (call.plain = true → get state.objects Object.OUTBOXED call.srv = some call.result)

section
variable {state next : State} (sound : Sound state)

include sound

theorem Sound.kept {after : List Object} (kept : Kept state.objects after) (boxing : Boxing after) :
    Sound ⟨after,state.calls⟩ := by
  refine ⟨boxing,fun call member => ?_⟩
  obtain ⟨⟨handle,original,found,own,derives⟩,given⟩ := sound.calls call member
  obtain ⟨still,at_,_,stands,_⟩ := kept.objects call.result handle found
  refine ⟨⟨still,original,at_,stands.trans own,kept.derives derives⟩,fun plain => ?_⟩
  exact kept.outboxed sound.boxing.older boxing.older (given plain)

theorem Sound.answered {call : Call} (boxes : Boxes state.objects call)
    (given : call.plain = true → get state.objects Object.OUTBOXED call.srv = some call.result) :
    Sound ⟨state.objects,state.calls ++ [call]⟩ := by
  refine ⟨sound.boxing,fun other member => ?_⟩
  rcases List.mem_append.mp member with before | last
  · exact sound.calls other before
  · rw [List.mem_singleton.mp last]
    exact ⟨boxes,given⟩

theorem Sound.outboxed {srv : Nat} (inside : srv < state.objects.length) (customOpts isNew : Bool) :
    Sound ⟨(outboxed state.objects srv customOpts isNew).2,
      state.calls ++ [⟨srv,!(isNew || customOpts),(outboxed state.objects srv customOpts isNew).1⟩]⟩ := by
  have boxing := sound.boxing
  have derives := boxing.unboxed_derives srv
  rcases outboxed_cases srv customOpts isNew with ⟨former,given,same⟩ | ⟨special,_,same⟩ | ⟨_,none,same⟩
  · rw [same]
    exact sound.answered (boxing.former given _) (fun _ => given)
  · rw [same,special]
    have kept := kept_joined state.objects (handleOf (unboxed state.objects srv))
    refine (sound.kept kept (boxing.handle inside)).answered ⟨_,_,List.getElem?_concat_length,rfl,kept.derives derives⟩ ?_
    simp
  · rw [same]
    have kept := kept_boxed none
    exact (sound.kept kept (boxing.kept_handle inside none)).answered
      ⟨handleOf (unboxed state.objects srv),_,newest_boxed inside _ _,rfl,kept.derives derives⟩
      (fun _ => boxing.get_handle inside none)

theorem Sound.step {action : Action} (taken : step state action = some next) : Sound next := by
  cases action with
  | connect =>
    cases taken
    exact sound.kept (kept_joined _ _) (sound.boxing.joined (by simp) rfl (by simp))
  | derive srv =>
    simp only [OutboxedService.step] at taken
    split at taken
    · rename_i inside
      cases taken
      refine sound.kept (kept_joined _ _) (sound.boxing.joined (fun proto given => ?_) rfl (by simp))
      cases given
      exact inside
    · cases taken
  | outboxed srv customOpts isNew =>
    simp only [OutboxedService.step] at taken
    split at taken
    · rename_i inside
      cases taken
      exact sound.outboxed inside customOpts isNew
    · cases taken

end

theorem initial_sound : Sound State.initial := by
  refine ⟨⟨?_,?_,?_⟩,?_⟩
  · simp [State.initial,Older]
  · simp [State.initial]
  · simp [State.initial]
  · simp [State.initial]

/-- Whatever was outboxed before and in between, with options, with `new`, of handles or of what `tx` derives: every
result stands for the service itself or for one that it derives from, and without options the same service always has
the same handle. -/
theorem outboxed_calls_agree (actions : List Action) (state : State)
    (reached : Transition.run step State.initial actions = some state) (first : Call) (member : first ∈ state.calls) :
    StandsFor state.objects first ∧ ∀ second ∈ state.calls, first.plain = true → second.plain = true →
      second.srv = first.srv → second.result = first.result := by
  have sound := Transition.invariant step (fun _ _ => True) Sound (fun _ _ _ sound _ taken => sound.step taken)
    State.initial state actions initial_sound (Transition.along_true _ _ _) reached
  obtain ⟨boxes,given⟩ := sound.calls first member
  refine ⟨sound.boxing.standsFor boxes,fun second other plain alike same => ?_⟩
  have again := (sound.calls second other).2 alike
  rw [same,given plain] at again
  exact (Option.some.inj again).symm

/-- A service, its handle, what `tx` derives from both, and handles of these with options and with `new`. -/
def handlesOfHandles : List Action :=
  [.connect,.outboxed 0 false false,.derive 1,.derive 0,.outboxed 2 true false,.outboxed 0 false true,
    .outboxed 5 false false,.outboxed 3 false false,.outboxed 0 false false]

theorem outboxed_calls_agree_handles_of_handles : ∃ state,
    Transition.run step State.initial handlesOfHandles = some state ∧ state.calls.length = 6 ∧
      ∀ first ∈ state.calls, StandsFor state.objects first ∧ ∀ second ∈ state.calls, first.plain = true →
        second.plain = true → second.srv = first.srv → second.result = first.result := by
  obtain ⟨state,reached⟩ := Option.isSome_iff_exists.mp
    (show (Transition.run step State.initial handlesOfHandles).isSome = true by decide +kernel)
  have count : (Transition.run step State.initial handlesOfHandles).map (fun state => state.calls.length) = some 6 := by
    decide +kernel
  rw [reached] at count
  exact ⟨state,reached,Option.some.inj count,outboxed_calls_agree handlesOfHandles state reached⟩

/-- What a handle stands for has a handle, and what has one of its own is no handle. -/
structure Settled (objects : List Object) : Prop where
  handles : ∀ (id : Nat) object original, objects[id]? = some object → object.UNBOXED = some original →
    (get objects Object.OUTBOXED original).isSome = true
  owners : ∀ (id : Nat) object handle, objects[id]? = some object → object.OUTBOXED = some handle →
    get objects Object.UNBOXED id = none

section
variable {objects : List Object} (boxing : Boxing objects) (settled : Settled objects)

include boxing settled

theorem Settled.derived {srv original : Nat} (given : get objects Object.UNBOXED srv = some original) :
    (get objects Object.OUTBOXED original).isSome = true ∧ (get objects Object.OUTBOXED srv).isSome = true := by
  obtain ⟨owner,object,derives,found,own⟩ := get_owner boxing.older Object.UNBOXED given
  have handled := settled.handles owner object original found own
  have above : Derives objects owner original :=
    Relation.ReflTransGen.single ⟨object,found,(boxing.boxed owner object original found own).1⟩
  exact ⟨handled,get_derived boxing.older Object.OUTBOXED (derives.trans above) handled⟩

/-- What has no handle is no handle and derives from none. -/
theorem Settled.plain {srv : Nat} (none : get objects Object.OUTBOXED srv = none) :
    get objects Object.UNBOXED srv = Option.none := by
  cases given : get objects Object.UNBOXED srv with
  | none => rfl
  | some original =>
    have handled := (settled.derived boxing given).2
    rw [none] at handled
    cases handled

theorem Settled.stands {srv : Nat} (handled : (get objects Object.OUTBOXED srv).isSome = true) :
    (get objects Object.OUTBOXED (unboxed objects srv)).isSome = true := by
  unfold unboxed
  cases given : get objects Object.UNBOXED srv with
  | none => exact handled
  | some original => exact (settled.derived boxing given).1

theorem Settled.get_handle {handle original : Nat} {object : Object} (found : objects[handle]? = some object)
    (own : object.UNBOXED = some original) :
    get objects Object.OUTBOXED handle = get objects Object.OUTBOXED original := by
  rw [get_eq boxing.older _ found,(boxing.boxed handle object original found own).1,Option.bind_some]
  cases mine : object.OUTBOXED with
  | none => rw [Option.none_or]
  | some other =>
    have plain := settled.owners handle object other found mine
    rw [get_eq boxing.older _ found,own,Option.some_or] at plain
    cases plain

/-- The handle of a service is its own handle. -/
theorem Settled.again {srv former : Nat} (given : get objects Object.OUTBOXED srv = some former) :
    get objects Object.OUTBOXED former = some former := by
  obtain ⟨owner,object,_,found,own⟩ := get_owner boxing.older Object.OUTBOXED given
  obtain ⟨handle,at_,stands⟩ := boxing.handles owner object former found own
  have plain := settled.owners owner object former found own
  rw [unboxed,plain,Option.getD_none] at stands
  rw [settled.get_handle boxing at_ stands,get_eq boxing.older _ found,own,Option.some_or]

theorem Settled.grown {after : List Object} (kept : Kept objects after) (older : Older after) {last : Object}
    (length : after.length = objects.length + 1) (newest : after[objects.length]? = some last) (bare : last.OUTBOXED = none)
    (stands : ∀ original, last.UNBOXED = some original → (get after Object.OUTBOXED original).isSome = true) :
    Settled after := by
  refine ⟨fun id object original found own => ?_,fun id object handle found own => ?_⟩
  · rcases kept.grown length newest found with ⟨before,at_,_,unboxed,_⟩ | ⟨_,rfl⟩
    · rw [unboxed] at own
      obtain ⟨former,given⟩ := Option.isSome_iff_exists.mp (settled.handles id before original at_ own)
      rw [kept.outboxed boxing.older older given,Option.isSome_some]
    · exact stands original own
  · rcases kept.grown length newest found with ⟨before,at_,_,_,outboxed⟩ | ⟨_,rfl⟩
    · rw [kept.unboxed boxing.older older (List.getElem?_eq_some_iff.mp at_).1]
      rcases outboxed with same | ⟨none,_⟩
      · rw [same] at own
        exact settled.owners id before handle at_ own
      · exact settled.plain boxing none
    · rw [bare] at own
      cases own

theorem Settled.joined {last : Object} (inside : ∀ proto, last.proto = some proto → proto < objects.length)
    (bare : last.OUTBOXED = none) (stands : ∀ original, last.UNBOXED = some original →
      (get objects Object.OUTBOXED original).isSome = true) : Settled (objects ++ [last]) := by
  have kept := kept_joined objects last
  have older := older_joined boxing.older inside
  refine settled.grown boxing kept older (by simp) (by simp) bare (fun original own => ?_)
  obtain ⟨former,given⟩ := Option.isSome_iff_exists.mp (stands original own)
  rw [kept.outboxed boxing.older older given,Option.isSome_some]

theorem Settled.outboxed {srv : Nat} (inside : srv < objects.length) (customOpts : Bool) :
    Settled (outboxed objects srv customOpts false).2 := by
  rcases outboxed_cases srv customOpts false with ⟨former,_,same⟩ | ⟨_,handled,same⟩ | ⟨_,none,same⟩
  · rw [same]
    exact settled
  · rw [same]
    refine settled.joined boxing (fun proto given => ?_) rfl (fun original own => ?_)
    · cases given
      exact boxing.unboxed_inside inside
    · cases own
      exact settled.stands boxing (handled.resolve_left Bool.false_ne_true)
  · rw [same]
    have older := (boxing.kept_handle inside none).older
    refine settled.grown boxing (kept_boxed none) older (by simp) (newest_boxed inside _ _) rfl (fun original own => ?_)
    cases own
    have self : unboxed objects srv = srv := by
      rw [unboxed,settled.plain boxing none,Option.getD_none]
    have given := boxing.get_handle inside none
    rw [self] at given ⊢
    rw [given,Option.isSome_some]

end

/-- Without `new`, handles of handles are settled. -/
theorem settled_step {state next : State} {action : Action} (sound : Sound state) (settled : Settled state.objects)
    (called : Called state action) (taken : step state action = some next) : Settled next.objects := by
  cases action with
  | connect =>
    cases taken
    exact settled.joined sound.boxing (by simp) rfl (by simp)
  | derive srv =>
    simp only [OutboxedService.step] at taken
    split at taken
    · rename_i inside
      cases taken
      refine settled.joined sound.boxing (fun proto given => ?_) rfl (by simp)
      cases given
      exact inside
    · cases taken
  | outboxed srv customOpts isNew =>
    cases called
    simp only [OutboxedService.step] at taken
    split at taken
    · rename_i inside
      cases taken
      exact settled.outboxed sound.boxing inside customOpts
    · cases taken

/-- Without `new`: a handle that is outboxed again without options is what the service that it stands for has as its
handle, and the handle of a service without options is itself. -/
theorem handles_outboxed_again (actions : List Action) (state : State)
    (called : Transition.Along step Called State.initial actions)
    (reached : Transition.run step State.initial actions = some state) (first second : Call)
    (member : first ∈ state.calls) (other : second ∈ state.calls) (plain : second.plain = true)
    (again : second.srv = first.result) :
    (∀ third ∈ state.calls, third.plain = true → third.srv = unboxed state.objects first.result →
        third.result = second.result) ∧ (first.plain = true → second.result = first.result) := by
  obtain ⟨sound,settled⟩ := Transition.invariant step Called (fun state => Sound state ∧ Settled state.objects)
    (fun _ _ _ kept called taken => ⟨kept.1.step taken,settled_step kept.1 kept.2 called taken⟩) State.initial state actions
    ⟨initial_sound,by simp [State.initial],by simp [State.initial]⟩ called reached
  have given := (sound.calls second other).2 plain
  rw [again] at given
  refine ⟨fun third one alike same => ?_,fun alike => ?_⟩
  · obtain ⟨handle,original,found,own,_⟩ := (sound.calls first member).1
    have former := (sound.calls third one).2 alike
    rw [same,sound.boxing.unboxed_handle found own,← settled.get_handle sound.boxing found own,given] at former
    exact (Option.some.inj former).symm
  · have self := settled.again sound.boxing ((sound.calls first member).2 alike)
    exact Option.some.inj (given.symm.trans self)

/-- What `tx` derives gets a handle, this one with options, and all are outboxed without. -/
def outboxedAgain : List Action :=
  [.connect,.derive 0,.outboxed 1 true false,.outboxed 2 true false,.outboxed 3 false false,.outboxed 1 false false,
    .outboxed 2 false false]

theorem handles_outboxed_again_options : ∃ state, Transition.run step State.initial outboxedAgain = some state ∧
    state.calls = [⟨1,false,2⟩,⟨2,false,3⟩,⟨3,true,2⟩,⟨1,true,2⟩,⟨2,true,2⟩] ∧
      ∀ third ∈ state.calls, third.plain = true → third.srv = unboxed state.objects 3 → third.result = 2 := by
  obtain ⟨state,reached⟩ := Option.isSome_iff_exists.mp
    (show (Transition.run step State.initial outboxedAgain).isSome = true by decide +kernel)
  have calls : (Transition.run step State.initial outboxedAgain).map State.calls =
      some [⟨1,false,2⟩,⟨2,false,3⟩,⟨3,true,2⟩,⟨1,true,2⟩,⟨2,true,2⟩] := by decide +kernel
  rw [reached] at calls
  have calls := Option.some.inj calls
  have called : Transition.Along step Called State.initial outboxedAgain := by decide +kernel
  refine ⟨state,reached,calls,?_⟩
  exact (handles_outboxed_again outboxedAgain state called reached ⟨2,false,3⟩ ⟨3,true,2⟩ (by simp [calls])
    (by simp [calls]) rfl rfl).1

end EventQueue.OutboxedService

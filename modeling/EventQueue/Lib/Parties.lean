import Mathlib.Algebra.Ring.Nat

/-! A list of parties of which one moves at a time, in the order they came in. -/
namespace Parties

variable {Party : Type}

/-- The parties after a step of one of them. -/
theorem getElem?_moved {parties : List Party} {index position : Nat} {party changed other : Party}
    (found : parties[index]? = some party) (at_ : (parties.set index changed)[position]? = some other) :
    position = index ∧ other = changed ∨ position ≠ index ∧ parties[position]? = some other := by
  have small := (List.getElem?_eq_some_iff.mp found).1
  by_cases same : position = index
  · subst same
    rw [List.getElem?_set_self small] at at_
    cases at_
    exact Or.inl ⟨rfl,rfl⟩
  · rw [List.getElem?_set_ne (fun equal => same equal.symm)] at at_
    exact Or.inr ⟨same,at_⟩

/-- Everybody but the party that moved is still there. -/
theorem mem_moved {parties : List Party} {index : Nat} {party other : Party} (changed : Party)
    (found : parties[index]? = some party) (member : other ∈ parties) :
    other = party ∨ other ∈ parties.set index changed := by
  obtain ⟨position,at_⟩ := List.mem_iff_getElem?.mp member
  by_cases same : position = index
  · subst same
    rw [found] at at_
    exact Or.inl (Option.some.inj at_).symm
  · refine Or.inr (List.mem_of_getElem? (i := position) ?_)
    rw [List.getElem?_set_ne (fun equal => same equal.symm)]
    exact at_

theorem getElem?_kept {parties : List Party} {index position : Nat} {other : Party} (changed : Party)
    (at_ : parties[position]? = some other) (differ : position ≠ index) :
    (parties.set index changed)[position]? = some other := by
  rw [List.getElem?_set_ne (fun equal => differ equal.symm)]
  exact at_

/-- What holds of all parties still does if it holds of the one that moved. -/
theorem forall_mem_moved {holds : Party → Prop} {parties : List Party} {index : Nat} {changed : Party}
    (before : ∀ party ∈ parties, holds party) (moved : holds changed) :
    ∀ party ∈ parties.set index changed, holds party := by
  intro party member
  rcases List.mem_or_eq_of_mem_set member with old | rfl
  · exact before party old
  · exact moved

theorem forall_getElem?_moved {holds : Nat → Party → Prop} {parties : List Party} {index : Nat}
    {party changed : Party} (found : parties[index]? = some party)
    (before : ∀ position other, parties[position]? = some other → holds position other) (moved : holds index changed) :
    ∀ position other, (parties.set index changed)[position]? = some other → holds position other := by
  intro position other at_
  rcases getElem?_moved found at_ with ⟨rfl,rfl⟩ | ⟨_,old⟩
  · exact moved
  · exact before position other old

/-- At most one party acts in each place, also after a move. -/
theorem alone_moved {Place : Type} {acts : Party → Prop} {place : Nat → Place} {parties : List Party} {index : Nat}
    {party changed : Party} (found : parties[index]? = some party)
    (alone : ∀ first second one other, parties[first]? = some one → parties[second]? = some other →
      acts one → acts other → place first = place second → first = second)
    (apart : acts changed → ∀ position other, parties[position]? = some other → acts other →
      place position = place index → position = index) (first second : Nat) (one other : Party)
    (atFirst : (parties.set index changed)[first]? = some one)
    (atSecond : (parties.set index changed)[second]? = some other) (actsOne : acts one) (actsOther : acts other)
    (same : place first = place second) : first = second := by
  rcases getElem?_moved found atFirst with ⟨rfl,rfl⟩ | ⟨_,oneOld⟩
  · rcases getElem?_moved found atSecond with ⟨rfl,_⟩ | ⟨_,otherOld⟩
    · rfl
    · exact (apart actsOne second other otherOld actsOther same.symm).symm
  · rcases getElem?_moved found atSecond with ⟨rfl,rfl⟩ | ⟨_,otherOld⟩
    · exact apart actsOther first one oneOld actsOne same
    · exact alone first second one other oneOld otherOld actsOne actsOther same

/-- Whoever came in later is behind. -/
theorem mem_later {parties : List Party} {index position : Nat} {party : Party}
    (at_ : parties[position]? = some party) (after : index < position) : party ∈ parties.drop (index + 1) := by
  refine List.mem_of_getElem? (i := position - (index + 1)) ?_
  rw [List.getElem?_drop,Nat.add_sub_cancel' after]
  exact at_

/-- A party that came in last has no other behind it. -/
theorem getElem?_joined {parties : List Party} {position : Nat} {last other : Party}
    (at_ : (parties ++ [last])[position]? = some other) :
    parties[position]? = some other ∨ position = parties.length ∧ other = last := by
  by_cases small : position < parties.length
  · rw [List.getElem?_append_left small] at at_
    exact Or.inl at_
  · have bound := (List.getElem?_eq_some_iff.mp at_).1
    rw [List.length_append,List.length_singleton] at bound
    have same : position = parties.length := by omega
    subst same
    rw [List.getElem?_append_right (Nat.le_refl _),Nat.sub_self] at at_
    exact Or.inr ⟨rfl,(Option.some.inj at_).symm⟩

/-- A count over all parties changes by what the party that moved contributes. -/
theorem sum_moved {parties : List Party} {index : Nat} {party : Party} (f : Party → Nat) (changed : Party)
    (found : parties[index]? = some party) :
    ((parties.set index changed).map f).sum + f party = (parties.map f).sum + f changed := by
  induction parties generalizing index with
  | nil => simp at found
  | cons first rest ih =>
    cases index with
    | zero =>
      simp only [List.getElem?_cons_zero,Option.some.injEq] at found
      subst found
      simp only [List.set_cons_zero,List.map_cons,List.sum_cons]
      omega
    | succ index =>
      simp only [List.getElem?_cons_succ] at found
      have moved := ih found
      simp only [List.set_cons_succ,List.map_cons,List.sum_cons]
      omega

theorem sum_joined (parties : List Party) (f : Party → Nat) (last : Party) :
    ((parties ++ [last]).map f).sum = (parties.map f).sum + f last := by
  simp

theorem sum_le_sum (parties : List Party) (f g : Party → Nat) (each : ∀ party ∈ parties, f party ≤ g party) :
    (parties.map f).sum ≤ (parties.map g).sum := by
  induction parties with
  | nil => exact Nat.le_refl _
  | cons first rest ih =>
    have remaining := ih (fun party member => each party (by simp [member]))
    have own := each first (by simp)
    simp only [List.map_cons,List.sum_cons]
    omega

/-- What the move leaves as it was. -/
theorem map_moved {View : Type} {parties : List Party} {index : Nat} {party changed : Party} (view : Party → View)
    (found : parties[index]? = some party) (same : view changed = view party) :
    (parties.set index changed).map view = parties.map view := by
  refine List.ext_getElem? (fun position => ?_)
  rw [List.getElem?_map,List.getElem?_map]
  by_cases own : position = index
  · subst own
    rw [List.getElem?_set_self (List.getElem?_eq_some_iff.mp found).1,found,Option.map_some,Option.map_some,same]
  · rw [List.getElem?_set_ne (fun equal => own equal.symm)]

theorem countP_moved {parties : List Party} {index : Nat} {party : Party} (p : Party → Bool) (changed : Party)
    (found : parties[index]? = some party) :
    (parties.set index changed).countP p + (if p party then 1 else 0) =
      parties.countP p + if p changed then 1 else 0 := by
  induction parties generalizing index with
  | nil => simp at found
  | cons first rest ih =>
    cases index with
    | zero =>
      simp only [List.getElem?_cons_zero,Option.some.injEq] at found
      subst found
      simp only [List.set_cons_zero,List.countP_cons]
      omega
    | succ index =>
      simp only [List.getElem?_cons_succ] at found
      have moved := ih found
      simp only [List.set_cons_succ,List.countP_cons]
      omega

end Parties

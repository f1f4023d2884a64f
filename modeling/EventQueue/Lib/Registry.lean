import EventQueue.Lib.Keyed

/-! Registries: keyed lists filled by a loop that refuses a key somebody has registered, completes an item and puts it.
Items of another kind do not refuse anything, and lose their place to an item with their key. -/
namespace Registry
open Keyed

section
variable {α κ : Type} [DecidableEq κ] (key : α → κ)

theorem mem_put_iff {map : List α} {item other : α} :
    other ∈ put key map item ↔ other = item ∨ other ∈ map ∧ key other ≠ key item := by
  obtain ⟨old,member,same⟩ | absent := put_cases key map item
  · rw [put_present key member same,List.mem_map]
    constructor
    · rintro ⟨before,inside,rfl⟩
      split
      · exact Or.inl rfl
      · rename_i apart
        exact Or.inr ⟨inside,apart⟩
    · rintro (rfl | ⟨inside,apart⟩)
      · exact ⟨old,member,if_pos same⟩
      · exact ⟨other,inside,if_neg apart⟩
  · rw [put_absent key absent,List.mem_append,List.mem_singleton]
    constructor
    · rintro (inside | rfl)
      · exact Or.inr ⟨inside,absent other inside⟩
      · exact Or.inl rfl
    · rintro (rfl | ⟨inside,_⟩)
      · exact Or.inr rfl
      · exact Or.inl inside

/-- Items of different keys are all there, and of the others those whose keys they do not have. -/
theorem mem_foldl_put {map items : List α} (distinct : (items.map key).Nodup) {other : α} :
    other ∈ items.foldl (put key) map ↔ other ∈ items ∨ other ∈ map ∧ key other ∉ items.map key := by
  induction items using List.reverseRecOn with
  | nil => simp
  | append_singleton items item ih =>
    rw [List.map_append,List.nodup_append] at distinct
    have fresh : ∀ old ∈ items, key old ≠ key item := fun old inside =>
      distinct.2.2 _ (List.mem_map_of_mem inside) _ (List.mem_singleton.mpr rfl)
    rw [List.foldl_append,List.foldl_cons,List.foldl_nil,mem_put_iff,ih distinct.1]
    simp only [List.map_append,List.map_singleton,List.mem_append,List.mem_singleton,not_or]
    constructor
    · rintro (rfl | ⟨inside | ⟨inside,absent⟩,apart⟩)
      · exact Or.inl (Or.inr rfl)
      · exact Or.inl (Or.inl inside)
      · exact Or.inr ⟨inside,absent,apart⟩
    · rintro ((inside | rfl) | ⟨inside,absent,apart⟩)
      · exact Or.inr ⟨Or.inl inside,fresh other inside⟩
      · exact Or.inl rfl
      · exact Or.inr ⟨Or.inr ⟨inside,absent⟩,apart⟩

theorem nodup_foldl_put {map : List α} (distinct : (map.map key).Nodup) (items : List α) :
    ((items.foldl (put key) map).map key).Nodup := by
  induction items generalizing map with
  | nil => exact distinct
  | cons item rest ih => exact ih (nodup_put key distinct item)

theorem putAll_distinct {items : List α} (distinct : (items.map key).Nodup) : putAll key items = items := by
  induction items using List.reverseRecOn with
  | nil => rfl
  | append_singleton items item ih =>
    rw [List.map_append,List.nodup_append] at distinct
    rw [putAll_append_singleton,ih distinct.1,put_absent]
    exact fun other inside => distinct.2.2 _ (List.mem_map_of_mem inside) _ (List.mem_singleton.mpr rfl)

theorem filter_put_other {keep : α → Bool} {item : α} (dropped : keep item = false) (map : List α) :
    (put key map item).filter keep = (map.filter keep).filter (fun other => key other ≠ key item) := by
  obtain ⟨other,member,same⟩ | absent := put_cases key map item
  · rw [put_present key member same]
    clear member
    induction map with
    | nil => rfl
    | cons first rest ih =>
      rw [List.map_cons,List.filter_cons,List.filter_cons]
      by_cases taken : key first = key item
      · rw [if_pos taken,dropped]
        by_cases kept : keep first = true
        · simpa [kept,taken] using ih
        · simpa [kept] using ih
      · rw [if_neg taken]
        by_cases kept : keep first = true
        · simpa [kept,taken] using ih
        · simpa [kept] using ih
  · have all : (map.filter keep).filter (fun other => key other ≠ key item) = map.filter keep :=
      List.filter_eq_self.mpr (fun other inside => by simpa using absent other (List.mem_filter.mp inside).1)
    rw [put_absent key absent,List.filter_append,all]
    simp [dropped]

/-- The items of one kind lose those whose keys items of another kind have, and stay in their order. -/
theorem filter_foldl_put {keep : α → Bool} {items : List α} (dropped : ∀ item ∈ items, keep item = false) (map : List α) :
    (items.foldl (put key) map).filter keep = (map.filter keep).filter (fun other => key other ∉ items.map key) := by
  induction items generalizing map with
  | nil => simp
  | cons item rest ih =>
    rw [List.foldl_cons,ih (fun other inside => dropped other (List.mem_cons_of_mem item inside)),
      filter_put_other key (dropped item List.mem_cons_self),List.filter_filter]
    refine List.filter_congr (fun other _ => ?_)
    simp [Bool.and_comm]

end

section
variable {α β κ ε : Type} [DecidableEq κ] (key : α → κ) (blocks : α → Bool) (keyOf : β → κ) (duplicate : β → ε)
  (complete : β → Except ε α)

/-- A key is refused if an item that blocks it is there; then the item is completed and put. -/
def putNew (map : List α) (item : β) : Except ε (List α) :=
  if (get? key map (keyOf item)).any blocks then .error (duplicate item) else (complete item).map (put key map)

/-- What `putNew` has made of a list: every item is complete and has a key of its own. -/
def Accepted (items : List β) (done : List α) : Prop := items.mapM complete = .ok done ∧ (items.map keyOf).Nodup

variable {key blocks keyOf duplicate complete}

theorem mapM_snoc {items : List β} {item : β} {done : List α} : (items ++ [item]).mapM complete = .ok done ↔
    ∃ front last, items.mapM complete = .ok front ∧ complete item = .ok last ∧ done = front ++ [last] := by
  rw [List.mapM_append]
  constructor
  · intro passed
    cases before : items.mapM complete with
    | error failed =>
      rw [before] at passed
      cases passed
    | ok front =>
      cases at_ : complete item with
      | error failed =>
        simp only [before,List.mapM_cons,at_] at passed
        cases passed
      | ok last =>
        simp only [before,List.mapM_cons,at_] at passed
        cases passed
        exact ⟨front,last,rfl,rfl,rfl⟩
  · rintro ⟨front,last,before,at_,rfl⟩
    simp only [before,List.mapM_cons,at_]
    rfl

/-- Items that can be completed if they are valid, each in one way. -/
theorem mapM_iff {valid : β → Prop} {value : β → α}
    (each : ∀ item done, complete item = .ok done ↔ valid item ∧ done = value item) {items : List β} {done : List α} :
    items.mapM complete = .ok done ↔ (∀ item ∈ items, valid item) ∧ done = items.map value := by
  induction items using List.reverseRecOn generalizing done with
  | nil =>
    constructor
    · intro equal
      cases equal
      exact ⟨by simp,rfl⟩
    · rintro ⟨_,rfl⟩
      rfl
  | append_singleton items item ih =>
    rw [mapM_snoc,List.map_append,List.map_singleton]
    constructor
    · rintro ⟨front,last,before,at_,rfl⟩
      obtain ⟨others,rfl⟩ := ih.mp before
      obtain ⟨own,rfl⟩ := (each item last).mp at_
      exact ⟨by simpa using fun other either => either.elim (others other) (fun same => same ▸ own),rfl⟩
    · rintro ⟨every,rfl⟩
      have own := every item (List.mem_append_right _ (List.mem_singleton.mpr rfl))
      have others := ih.mpr ⟨fun other inside => every other (List.mem_append_left _ inside),rfl⟩
      exact ⟨_,_,others,(each item _).mpr ⟨own,rfl⟩,rfl⟩

theorem foldlM_next {γ : Type} {step : γ → β → Except ε γ} {start map : γ} {front : List β}
    (before : front.foldlM step start = .ok map) (item : β) (back : List β) :
    (front ++ item::back).foldlM step start = (step map item).bind (fun next => back.foldlM step next) := by
  rw [List.foldlM_append,before]
  rfl

theorem foldlM_snoc {γ : Type} {step : γ → β → Except ε γ} {start map : γ} {front : List β}
    (before : front.foldlM step start = .ok map) (item : β) : (front ++ [item]).foldlM step start = step map item := by
  rw [foldlM_next before]
  cases step map item with
  | error failed => rfl
  | ok next => rfl

theorem foldlM_failed {γ : Type} {step : γ → β → Except ε γ} {start : γ} {front : List β} {failed : ε}
    (before : front.foldlM step start = .error failed) (back : List β) :
    (front ++ back).foldlM step start = .error failed := by
  rw [List.foldlM_append,before]
  rfl

omit [DecidableEq κ] in
theorem map_key_mapM (own : ∀ item done, complete item = .ok done → key done = keyOf item) {items : List β} {done : List α}
    (completed : items.mapM complete = .ok done) : done.map key = items.map keyOf := by
  induction items using List.reverseRecOn generalizing done with
  | nil =>
    cases completed
    rfl
  | append_singleton items item ih =>
    obtain ⟨front,last,before,at_,rfl⟩ := mapM_snoc.mp completed
    rw [List.map_append,List.map_append,ih before,List.map_singleton,List.map_singleton,own item last at_]

theorem mem_mapM {items : List β} {done : List α} (completed : items.mapM complete = .ok done) {other : α}
    (member : other ∈ done) : ∃ item ∈ items, complete item = .ok other := by
  induction items using List.reverseRecOn generalizing done with
  | nil =>
    cases completed
    cases member
  | append_singleton items item ih =>
    obtain ⟨front,last,before,at_,rfl⟩ := mapM_snoc.mp completed
    rcases List.mem_append.mp member with inside | here
    · obtain ⟨old,listed,done⟩ := ih before inside
      exact ⟨old,List.mem_append_left _ listed,done⟩
    · rw [List.mem_singleton] at here
      exact ⟨item,List.mem_append_right _ (List.mem_singleton.mpr rfl),here ▸ at_⟩

section
variable (own : ∀ item done, complete item = .ok done → key done = keyOf item ∧ blocks done = true) {start : List α}
  (free : ∀ other ∈ start, blocks other = false)

include own free

/-- A key is blocked iff one of the items has it. -/
theorem blocked_iff {items : List β} {done : List α} (accepted : Accepted keyOf complete items done) (wanted : κ) :
    (get? key (done.foldl (put key) start) wanted).any blocks = true ↔ wanted ∈ items.map keyOf := by
  have keys := map_key_mapM (fun item last at_ => (own item last at_).1) accepted.1
  have blocking : ∀ other ∈ done, blocks other = true := by
    intro other member
    obtain ⟨item,_,completed⟩ := mem_mapM accepted.1 member
    exact (own item other completed).2
  clear accepted
  rw [← keys]
  clear keys
  induction done using List.reverseRecOn with
  | nil =>
    simp only [List.foldl_nil,List.map_nil,List.not_mem_nil,iff_false,Bool.not_eq_true]
    cases found : get? key start wanted with
    | none => rfl
    | some other => exact free other (List.mem_of_find?_eq_some found)
  | append_singleton done last ih =>
    rw [List.foldl_append,List.foldl_cons,List.foldl_nil,get?_put,List.map_append,List.mem_append,List.map_singleton,
      List.mem_singleton]
    split
    · rename_i same
      simp [← same,blocking last (List.mem_append_right _ (List.mem_singleton.mpr rfl))]
    · rename_i apart
      have before := ih (fun other member => blocking other (List.mem_append_left _ member))
      exact before.trans ⟨Or.inl,fun either => either.resolve_right (fun same => apart same.symm)⟩

theorem putNews_iff {items : List β} {map : List α} :
    items.foldlM (putNew key blocks keyOf duplicate complete) start = .ok map ↔
      ∃ done, Accepted keyOf complete items done ∧ map = done.foldl (put key) start := by
  induction items using List.reverseRecOn generalizing map with
  | nil =>
    constructor
    · intro equal
      cases equal
      exact ⟨[],⟨rfl,List.nodup_nil⟩,rfl⟩
    · rintro ⟨done,⟨completed,_⟩,rfl⟩
      cases completed
      rfl
  | append_singleton items item ih =>
    constructor
    · intro passed
      cases before : items.foldlM (putNew key blocks keyOf duplicate complete) start with
      | error failed =>
        rw [foldlM_failed before] at passed
        cases passed
      | ok earlier =>
        obtain ⟨done,accepted,rfl⟩ := ih.mp before
        rw [foldlM_snoc before,putNew] at passed
        split at passed
        · cases passed
        · rename_i unblocked
          have fresh := (not_congr (blocked_iff own free accepted (keyOf item))).mp unblocked
          cases at_ : complete item with
          | error failed =>
            rw [at_] at passed
            cases passed
          | ok last =>
            rw [at_] at passed
            cases passed
            refine ⟨done ++ [last],⟨mapM_snoc.mpr ⟨done,last,accepted.1,at_,rfl⟩,?_⟩,by simp⟩
            rw [List.map_append,List.map_singleton,List.nodup_append]
            refine ⟨accepted.2,List.nodup_singleton _,?_⟩
            intro name listed other added same
            rw [List.mem_singleton] at added
            exact fresh (added ▸ same ▸ listed)
    · rintro ⟨done,⟨completed,distinct⟩,rfl⟩
      obtain ⟨front,last,before,at_,rfl⟩ := mapM_snoc.mp completed
      rw [List.map_append,List.map_singleton,List.nodup_append] at distinct
      have accepted : Accepted keyOf complete items front := ⟨before,distinct.1⟩
      have fresh : keyOf item ∉ items.map keyOf := fun inside =>
        distinct.2.2 _ inside _ (List.mem_singleton.mpr rfl) rfl
      rw [foldlM_snoc (ih.mpr ⟨front,accepted,rfl⟩),putNew,
        if_neg ((not_congr (blocked_iff own free accepted _)).mpr fresh),at_,List.foldl_append]
      rfl

end

end

end Registry

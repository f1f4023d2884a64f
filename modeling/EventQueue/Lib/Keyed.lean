import Mathlib.Data.List.Nodup
import Mathlib.Data.List.Induction

/-! Lists as insertion-ordered maps whose items carry their key: an item takes the place of the one
with the same key, a new key goes to the end. A map filled step by step is known from the log of what
was put into it. -/
namespace Keyed

section
variable {α κ : Type} [DecidableEq κ] (key : α → κ)

def put (map : List α) (item : α) : List α :=
  if map.any (fun other => key other = key item) then
    map.map (fun other => if key other = key item then item else other)
  else map ++ [item]

def get? (map : List α) (wanted : κ) : Option α := map.find? (fun item => key item = wanted)

def putAll (items : List α) : List α := items.foldl (put key) []

/-- The last item with the key of the first one. -/
def governing (items : List α) : Option α :=
  items.head?.bind (fun first => (items.filter (fun item => key item = key first)).getLast?)

theorem map_keys (map : List α) (item : α) :
    (map.map (fun other => if key other = key item then item else other)).map key = map.map key := by
  rw [List.map_map]
  apply List.map_congr_left
  intro other _
  by_cases same : key other = key item
  · simp [same]
  · simp [same]

theorem put_present {map : List α} {item other : α} (member : other ∈ map) (same : key other = key item) :
    put key map item = map.map (fun other => if key other = key item then item else other) :=
  if_pos (List.any_eq_true.mpr ⟨other,member,by simp [same]⟩)

theorem put_absent {map : List α} {item : α} (absent : ∀ other ∈ map, key other ≠ key item) :
    put key map item = map ++ [item] :=
  if_neg (by simpa using absent)

theorem put_cases (map : List α) (item : α) :
    (∃ other ∈ map, key other = key item) ∨ ∀ other ∈ map, key other ≠ key item := by
  by_cases present : ∃ other ∈ map, key other = key item
  · exact Or.inl present
  · exact Or.inr (fun other member same => present ⟨other,member,same⟩)

theorem putAll_append_singleton (items : List α) (item : α) :
    putAll key (items ++ [item]) = put key (putAll key items) item := by
  simp [putAll]

theorem mem_put {map : List α} {item other : α} (member : other ∈ put key map item) : other ∈ map ∨ other = item := by
  unfold put at member
  split at member
  · obtain ⟨old,listed,rfl⟩ := List.mem_map.mp member
    split
    · exact Or.inr rfl
    · exact Or.inl listed
  · simpa using member

theorem mem_putAll {items : List α} {item : α} (member : item ∈ putAll key items) : item ∈ items := by
  induction items using List.reverseRecOn with
  | nil => cases member
  | append_singleton items last ih =>
    rw [putAll_append_singleton] at member
    rcases mem_put key member with old | new
    · exact List.mem_append_left _ (ih old)
    · exact List.mem_append_right _ (List.mem_singleton.mpr new)

theorem nodup_put {map : List α} (distinct : (map.map key).Nodup) (item : α) : ((put key map item).map key).Nodup := by
  obtain ⟨other,member,same⟩ | absent := put_cases key map item
  · rw [put_present key member same,map_keys]
    exact distinct
  · rw [put_absent key absent,List.map_append,List.nodup_append]
    refine ⟨distinct,List.nodup_singleton _,?_⟩
    intro name listed last added
    obtain ⟨other,member,rfl⟩ := List.mem_map.mp listed
    rw [List.map_singleton,List.mem_singleton] at added
    rw [added]
    exact absent other member

theorem nodup_putAll (items : List α) : ((putAll key items).map key).Nodup := by
  induction items using List.reverseRecOn with
  | nil => exact List.nodup_nil
  | append_singleton items item ih =>
    rw [putAll_append_singleton]
    exact nodup_put key ih item

theorem get?_put (map : List α) (item : α) (wanted : κ) :
    get? key (put key map item) wanted = if key item = wanted then some item else get? key map wanted := by
  obtain ⟨other,member,same⟩ | absent := put_cases key map item
  · rw [put_present key member same,get?,List.find?_map]
    split
    · rename_i own
      have found : (map.find? ((fun item => decide (key item = wanted)) ∘
          fun other => if key other = key item then item else other)).isSome = true :=
        List.find?_isSome.mpr ⟨other,member,by simp [same,own]⟩
      obtain ⟨first,hit⟩ := Option.isSome_iff_exists.mp found
      have fits := List.find?_some hit
      by_cases taken : key first = key item
      · rw [hit,Option.map_some,if_pos taken]
      · simp only [Function.comp_apply,if_neg taken,decide_eq_true_eq] at fits
        exact absurd (fits.trans own.symm) taken
    · rename_i differ
      have agree : ((fun item => decide (key item = wanted)) ∘
          fun other => if key other = key item then item else other) = fun other => decide (key other = wanted) := by
        funext other
        by_cases taken : key other = key item
        · simp [taken]
        · simp [taken]
      rw [agree]
      cases hit : map.find? (fun item => decide (key item = wanted)) with
      | none => rw [get?,hit,Option.map_none]
      | some first =>
        have fits := List.find?_some hit
        have apart : key first ≠ key item := fun taken => differ (taken.symm.trans (of_decide_eq_true fits))
        rw [get?,hit,Option.map_some,if_neg apart]
  · rw [put_absent key absent,get?,List.find?_append]
    split
    · rename_i own
      have missing : map.find? (fun item => decide (key item = wanted)) = none :=
        List.find?_eq_none.mpr (fun other member => by simpa [own] using absent other member)
      simp [missing,own]
    · rename_i differ
      simp [get?,differ]

theorem get?_putAll (items : List α) (wanted : κ) :
    get? key (putAll key items) wanted = (items.filter (fun item => key item = wanted)).getLast? := by
  induction items using List.reverseRecOn with
  | nil => rfl
  | append_singleton items item ih =>
    rw [putAll_append_singleton,get?_put,ih,List.filter_append]
    by_cases own : key item = wanted
    · simp [own]
    · simp [own]

theorem head?_put_key (map : List α) (item : α) :
    (put key map item).head?.map key = (map.head?.map key).or (some (key item)) := by
  obtain ⟨other,member,same⟩ | absent := put_cases key map item
  · rw [← List.head?_map,put_present key member same,map_keys,List.head?_map]
    cases map with
    | nil => cases member
    | cons first rest => rfl
  · rw [put_absent key absent]
    cases map with
    | nil => rfl
    | cons first rest => rfl

theorem head?_putAll_key (items : List α) : (putAll key items).head?.map key = items.head?.map key := by
  induction items using List.reverseRecOn with
  | nil => rfl
  | append_singleton items item ih =>
    rw [putAll_append_singleton,head?_put_key,ih]
    cases items with
    | nil => rfl
    | cons first rest => rfl

theorem get?_mem {map : List α} (distinct : (map.map key).Nodup) {item : α} (member : item ∈ map) :
    get? key map (key item) = some item := by
  induction map with
  | nil => cases member
  | cons first rest ih =>
    obtain ⟨fresh,later⟩ := List.nodup_cons.mp distinct
    cases member with
    | head => simp [get?]
    | tail _ inside =>
      have apart : key first ≠ key item := fun same => fresh (same ▸ List.mem_map_of_mem inside)
      simpa [get?,apart] using ih later inside

theorem get?_head {map : List α} {first : α} (front : map.head? = some first) :
    get? key map (key first) = some first := by
  cases map with
  | nil => cases front
  | cons head rest =>
    cases front
    simp [get?]

theorem head?_putAll (items : List α) : (putAll key items).head? = governing key items := by
  have keys := head?_putAll_key key items
  cases front : (putAll key items).head? with
  | none =>
    rw [front] at keys
    cases items with
    | nil => rfl
    | cons first rest => cases keys
  | some item =>
    rw [front] at keys
    cases items with
    | nil => cases keys
    | cons first rest =>
      have same : key item = key first := Option.some.inj keys
      rw [← get?_head key front,get?_putAll,same]
      rfl

/-- The items whose keys are kept do not depend on the others. -/
theorem filter_put (keep : κ → Bool) (map : List α) (item : α) :
    (put key map item).filter (fun other => keep (key other)) =
      if keep (key item) then put key (map.filter (fun other => keep (key other))) item
      else map.filter (fun other => keep (key other)) := by
  obtain ⟨other,member,same⟩ | absent := put_cases key map item
  · rw [put_present key member same,List.filter_map]
    have agree : ((fun other => keep (key other)) ∘ fun other => if key other = key item then item else other) =
        fun other => keep (key other) := by
      funext other
      by_cases taken : key other = key item
      · simp [taken]
      · simp [taken]
    rw [agree]
    split
    · rename_i kept
      have inside : other ∈ map.filter (fun other => keep (key other)) :=
        List.mem_filter.mpr ⟨member,by simpa [same] using kept⟩
      rw [put_present key inside same]
    · rename_i dropped
      conv_rhs => rw [← List.map_id (map.filter (fun other => keep (key other)))]
      apply List.map_congr_left
      intro other inside
      have kept := (List.mem_filter.mp inside).2
      have apart : key other ≠ key item := fun taken => dropped (by simpa [taken] using kept)
      simp [apart]
  · rw [put_absent key absent,List.filter_append]
    split
    · rename_i kept
      rw [put_absent key (fun other inside => absent other (List.mem_filter.mp inside).1)]
      simp [kept]
    · rename_i dropped
      simp [dropped]

theorem filter_putAll (keep : κ → Bool) (items : List α) :
    (putAll key items).filter (fun item => keep (key item)) = putAll key (items.filter (fun item => keep (key item))) := by
  induction items using List.reverseRecOn with
  | nil => rfl
  | append_singleton items item ih =>
    rw [putAll_append_singleton,filter_put,ih,List.filter_append]
    by_cases kept : keep (key item) = true
    · simp [kept,putAll_append_singleton]
    · simp [kept]

theorem getLast?_all {items : List α} {item : α} (every : ∀ other ∈ items, other = item) (filled : items ≠ []) :
    items.getLast? = some item := by
  rw [List.getLast?_eq_some_getLast filled]
  exact congrArg some (every _ (List.getLast_mem filled))

theorem governing_all {items : List α} {item : α} (every : ∀ other ∈ items, other = item) (filled : items ≠ []) :
    governing key items = some item := by
  obtain ⟨first,rest,rfl⟩ := List.exists_cons_of_ne_nil filled
  have own := every first List.mem_cons_self
  have kept : first ∈ (first::rest).filter (fun other => key other = key first) :=
    List.mem_filter.mpr ⟨List.mem_cons_self,by simp⟩
  exact getLast?_all (fun other inside => every other (List.mem_filter.mp inside).1) (List.ne_nil_of_mem kept)

/-- Two items one after the other, each perhaps put several times. -/
theorem governing_append {front back : List α} {first second : α} (everyFront : ∀ other ∈ front, other = first)
    (everyBack : ∀ other ∈ back, other = second) (filledFront : front ≠ []) (filledBack : back ≠ []) :
    governing key (front ++ back) = some (if key second = key first then second else first) := by
  obtain ⟨head,rest,rfl⟩ := List.exists_cons_of_ne_nil filledFront
  obtain rfl := everyFront head List.mem_cons_self
  have same : ∀ other ∈ head::rest, key other = key head := fun other inside => by rw [everyFront other inside]
  change ((head::rest ++ back).filter (fun item => key item = key head)).getLast? = _
  rw [List.filter_append,List.filter_eq_self.mpr (fun other inside => by simpa using same other inside)]
  split
  · rename_i shared
    have kept : back.filter (fun item => key item = key head) = back :=
      List.filter_eq_self.mpr (fun other inside => by simpa [everyBack other inside] using shared)
    rw [kept,List.getLast?_append,getLast?_all everyBack filledBack]
    rfl
  · rename_i apart
    have dropped : back.filter (fun item => key item = key head) = [] :=
      List.filter_eq_nil_iff.mpr (fun other inside => by simpa [everyBack other inside] using apart)
    rw [dropped,List.append_nil]
    exact getLast?_all everyFront filledFront

end

section
variable {α β κ ε : Type} [DecidableEq κ] (key : α → κ)

theorem flatMap_only {items : List β} (distinct : items.Nodup) {item : β} (member : item ∈ items) {log : β → List α}
    (silent : ∀ other ∈ items, other ≠ item → log other = []) : items.flatMap log = log item := by
  induction items with
  | nil => cases member
  | cons first rest ih =>
    obtain ⟨fresh,later⟩ := List.nodup_cons.mp distinct
    rw [List.flatMap_cons]
    rcases List.mem_cons.mp member with rfl | inside
    · have quiet : rest.flatMap log = [] := List.flatMap_eq_nil_iff.mpr (fun other listed =>
        silent other (List.mem_cons_of_mem item listed) (fun same => fresh (same ▸ listed)))
      rw [quiet,List.append_nil]
    · rw [silent first List.mem_cons_self (fun same => fresh (same ▸ inside)),List.nil_append]
      exact ih later inside (fun other listed => silent other (List.mem_cons_of_mem first listed))

/-- Only two items of a loop log anything, in the order of the loop. -/
theorem flatMap_pair {items : List β} (distinct : items.Nodup) {first second : β} (order : [first,second].Sublist items)
    {log : β → List α} (silent : ∀ other ∈ items, other ≠ first → other ≠ second → log other = []) :
    items.flatMap log = log first ++ log second := by
  induction items with
  | nil => cases order
  | cons head rest ih =>
    obtain ⟨fresh,later⟩ := List.nodup_cons.mp distinct
    rw [List.flatMap_cons]
    cases order with
    | cons _ inside =>
      have firstInside : first ∈ rest := inside.subset List.mem_cons_self
      have secondInside : second ∈ rest := inside.subset (List.mem_cons_of_mem first List.mem_cons_self)
      rw [silent head List.mem_cons_self (fun same => fresh (same ▸ firstInside))
        (fun same => fresh (same ▸ secondInside)),List.nil_append]
      exact ih later inside (fun other listed => silent other (List.mem_cons_of_mem head listed))
    | cons_cons _ tail =>
      rw [flatMap_only later (List.singleton_sublist.mp tail) (fun other listed =>
        silent other (List.mem_cons_of_mem first listed) (fun same => fresh (same ▸ listed)))]

theorem pair_total {items : List β} {first second : β} (one : first ∈ items) (two : second ∈ items)
    (differ : first ≠ second) : [first,second].Sublist items ∨ [second,first].Sublist items := by
  induction items with
  | nil => cases one
  | cons head rest ih =>
    rcases List.mem_cons.mp one with rfl | firstInside
    · have inside := (List.mem_cons.mp two).resolve_left differ.symm
      exact Or.inl ((List.singleton_sublist.mpr inside).cons_cons first)
    · rcases List.mem_cons.mp two with rfl | secondInside
      · exact Or.inr ((List.singleton_sublist.mpr firstInside).cons_cons second)
      · exact (ih firstInside secondInside).imp (fun order => order.cons head) (fun order => order.cons head)

theorem pair_asymm {items : List β} (distinct : items.Nodup) {first second : β} (order : [first,second].Sublist items) :
    ¬[second,first].Sublist items := by
  induction items with
  | nil => cases order
  | cons head rest ih =>
    obtain ⟨fresh,later⟩ := List.nodup_cons.mp distinct
    intro reverse
    cases order with
    | cons _ inside =>
      cases reverse with
      | cons _ others => exact ih later inside others
      | cons_cons _ _ => exact fresh (inside.subset (List.mem_cons_of_mem first List.mem_cons_self))
    | cons_cons _ tail =>
      cases reverse with
      | cons _ others => exact fresh (others.subset (List.mem_cons_of_mem second List.mem_cons_self))
      | cons_cons _ _ => exact fresh (List.singleton_sublist.mp tail)

/-- A step that puts the items of its log if it is valid, and throws if it is not. -/
def Logged (step : List α → Except ε (List α)) (valid : Prop) (log : List α) : Prop :=
  ∀ map, (valid → step map = .ok (log.foldl (put key) map)) ∧ (¬valid → ∃ error, step map = .error error)

theorem logged_pure : Logged key (pure : List α → Except ε (List α)) True [] := fun _ => ⟨fun _ => rfl,fun invalid => absurd trivial invalid⟩

theorem logged_bind {first second : List α → Except ε (List α)} {valid others : Prop} {log more : List α}
    (one : Logged key first valid log) (two : Logged key second others more) :
    Logged key (fun map => first map >>= second) (valid ∧ others) (log ++ more) := by
  intro map
  constructor
  · rintro ⟨holds,later⟩
    simp only [(one map).1 holds,List.foldl_append]
    exact (two _).1 later
  · intro invalid
    by_cases holds : valid
    · simp only [(one map).1 holds]
      exact (two _).2 (fun later => invalid ⟨holds,later⟩)
    · obtain ⟨error,thrown⟩ := (one map).2 holds
      refine ⟨error,?_⟩
      simp only [thrown]
      rfl

theorem logged_put (item : α) : Logged key (fun map => (pure (put key map item) : Except ε (List α))) True [item] :=
  fun _ => ⟨fun _ => rfl,fun invalid => absurd trivial invalid⟩

theorem logged_foldlM {step : List α → β → Except ε (List α)} {valid : β → Prop} {log : β → List α} (items : List β)
    (each : ∀ item ∈ items, Logged key (fun map => step map item) (valid item) (log item)) :
    Logged key (fun map => items.foldlM step map) (∀ item ∈ items, valid item) (items.flatMap log) := by
  induction items with
  | nil => exact fun map => ⟨fun _ => rfl,fun invalid => absurd (fun _ inside => nomatch inside) invalid⟩
  | cons item rest ih =>
    have both := logged_bind key (each item List.mem_cons_self)
      (ih (fun other inside => each other (List.mem_cons_of_mem item inside)))
    intro map
    simpa only [List.foldlM_cons,List.forall_mem_cons,List.flatMap_cons] using both map

end

end Keyed

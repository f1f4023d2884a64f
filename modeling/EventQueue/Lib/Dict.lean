import Mathlib.Data.List.Nodup
import Mathlib.Data.List.Dedup

/-! Insertion-ordered dictionaries with string keys: overwriting keeps a key's place,
a new key goes to the end. No key occurs twice. -/

structure Dict (α : Type) where
  entries : List (String × α)
  nodup : (entries.map Prod.fst).Nodup

namespace Dict

variable {α β : Type}

def empty : Dict α := ⟨[],List.nodup_nil⟩

def get? (dict : Dict α) (key : String) : Option α :=
  (dict.entries.find? (fun entry => entry.1 == key)).map Prod.snd

def contains (dict : Dict α) (key : String) : Bool := dict.entries.any (fun entry => entry.1 == key)

def keys (dict : Dict α) : List String := dict.entries.map Prod.fst

theorem mem_entries {dict : Dict α} {key : String} {value : α} :
    (key,value) ∈ dict.entries ↔ dict.get? key = some value := by
  obtain ⟨entries,nodup⟩ := dict
  simp only [get?]
  induction entries with
  | nil => simp
  | cons entry rest ih =>
    obtain ⟨name,other⟩ := entry
    simp only [List.map_cons,List.nodup_cons] at nodup
    by_cases same : name = key
    · subst same
      have absent : (name,value) ∉ rest := fun inside => nodup.1 (List.mem_map.mpr ⟨_,inside,rfl⟩)
      simp [absent,eq_comm]
    · have differ : key ≠ name := fun equal => same equal.symm
      simp [same,differ,ih nodup.2]

theorem contains_iff {dict : Dict α} {key : String} : dict.contains key = true ↔ (dict.get? key).isSome := by
  simp [contains,get?,List.any_eq_true]

theorem mem_keys {dict : Dict α} {key : String} : key ∈ dict.keys ↔ ∃ value, dict.get? key = some value := by
  simp only [keys,List.mem_map,Prod.exists,exists_and_right,exists_eq_right,mem_entries]

theorem map_set_keys (entries : List (String × α)) (key : String) (value : α) :
    (entries.map (fun entry => if entry.1 = key then (key,value) else entry)).map Prod.fst =
      entries.map Prod.fst := by
  rw [List.map_map]
  apply List.map_congr_left
  intro entry _
  simp only [Function.comp_apply]
  split
  · rename_i same
    exact same.symm
  · rfl

def set (dict : Dict α) (key : String) (value : α) : Dict α :=
  if present : dict.contains key = true then
    ⟨dict.entries.map (fun entry => if entry.1 = key then (key,value) else entry),
      (map_set_keys dict.entries key value).symm ▸ dict.nodup⟩
  else ⟨dict.entries ++ [(key,value)],by
    have absent : key ∉ dict.entries.map Prod.fst := by
      intro listed
      obtain ⟨value,found⟩ := mem_keys.mp (show key ∈ dict.keys from listed)
      exact present (contains_iff.mpr (by simp [found]))
    rw [List.map_append]
    exact dict.nodup.append (List.nodup_singleton _) (by simpa using absent)⟩

def filter (dict : Dict α) (keep : String → α → Bool) : Dict α :=
  ⟨dict.entries.filter (fun entry => keep entry.1 entry.2),
    dict.nodup.sublist ((List.filter_sublist).map Prod.fst)⟩

def map (dict : Dict α) (f : α → β) : Dict β :=
  ⟨dict.entries.map (fun entry => (entry.1,f entry.2)),by
    rw [List.map_map]
    exact dict.nodup⟩

@[simp] theorem get?_empty (key : String) : (empty : Dict α).get? key = none := rfl

@[simp] theorem get?_map (dict : Dict α) (f : α → β) (key : String) :
    (dict.map f).get? key = (dict.get? key).map f := by
  simp only [get?,map,List.find?_map,Option.map_map]
  rfl

theorem get?_filter (dict : Dict α) (keep : String → α → Bool) (key : String) :
    (dict.filter keep).get? key = (dict.get? key).filter (keep key) := by
  apply Option.ext
  intro value
  rw [← mem_entries,Option.filter_eq_some_iff,← mem_entries]
  simp [filter]

theorem mem_set_entries (dict : Dict α) (name : String) (value : α) (entry : String × α) :
    entry ∈ (dict.set name value).entries ↔ entry = (name,value) ∨ entry ∈ dict.entries ∧ entry.1 ≠ name := by
  unfold set
  split
  · rename_i present
    obtain ⟨old,found⟩ := Option.isSome_iff_exists.mp (contains_iff.mp present)
    have inside := mem_entries.mpr found
    simp only [List.mem_map]
    constructor
    · rintro ⟨other,member,rfl⟩
      split
      · exact Or.inl rfl
      · rename_i differ
        exact Or.inr ⟨member,differ⟩
    · rintro (rfl | ⟨member,differ⟩)
      · exact ⟨(name,old),inside,by simp⟩
      · exact ⟨entry,member,by simp [differ]⟩
  · rename_i absent
    have away : ∀ other ∈ dict.entries, other.1 ≠ name := by
      intro other member same
      exact absent (List.any_eq_true.mpr ⟨other,member,by simp [same]⟩)
    simp only [List.mem_append,List.mem_singleton]
    constructor
    · rintro (member | rfl)
      · exact Or.inr ⟨member,away entry member⟩
      · exact Or.inl rfl
    · rintro (rfl | ⟨member,_⟩)
      · exact Or.inr rfl
      · exact Or.inl member

theorem get?_set (dict : Dict α) (name key : String) (value : α) :
    (dict.set name value).get? key = if key = name then some value else dict.get? key := by
  apply Option.ext
  intro found
  rw [← mem_entries,mem_set_entries]
  by_cases same : key = name
  · simp [same,eq_comm]
  · simp [same,mem_entries]

theorem contains_set (dict : Dict α) (name key : String) (value : α) :
    (dict.set name value).contains key = true ↔ key = name ∨ dict.contains key = true := by
  rw [contains_iff,contains_iff,get?_set]
  by_cases same : key = name
  · simp [same]
  · simp [same]

theorem map_set (dict : Dict α) (f : α → β) (key : String) (value : α) :
    (dict.set key value).map f = (dict.map f).set key (f value) := by
  have present : (dict.map f).contains key = dict.contains key := by simp [contains,map,Function.comp_def]
  unfold set
  by_cases there : dict.contains key = true
  · have listed := present.trans there
    simp only [there,listed,dite_true]
    simp only [map,mk.injEq,List.map_map]
    refine List.map_congr_left (fun entry _ => ?_)
    by_cases same : entry.1 = key
    · simp [same]
    · simp [same]
  · have missing : ¬(dict.map f).contains key = true := by rwa [present]
    simp only [there,missing]
    simp [map]

/-- A new key goes to the end. -/
theorem set_fresh {dict : Dict α} {key : String} (fresh : key ∉ dict.keys) (value : α) :
    (dict.set key value).entries = dict.entries ++ [(key,value)] := by
  have absent : ¬dict.contains key = true := by
    rw [contains_iff,Option.isSome_iff_exists]
    exact fun found => fresh (mem_keys.mpr found)
  unfold set
  simp only [absent]
  rfl

/-- Writing what is there changes nothing. -/
theorem set_same {dict : Dict α} {key : String} {value : α} (found : dict.get? key = some value) :
    dict.set key value = dict := by
  obtain ⟨entries,nodup⟩ := dict
  have there : (Dict.mk entries nodup).contains key = true := contains_iff.mpr (by simp [found])
  unfold set
  simp only [there,dite_true,mk.injEq]
  refine (List.map_congr_left (fun entry member => ?_)).trans (List.map_id entries)
  by_cases same : entry.1 = key
  · have own := mem_entries.mp (show (entry.1,entry.2) ∈ (Dict.mk entries nodup).entries from member)
    rw [same,found,Option.some.injEq] at own
    simp [← same,own]
  · simp [same]

/-- All names of a list are set to one value. -/
theorem get?_setAll (names : List String) (dict : Dict α) (value : α) (key : String) :
    (names.foldl (fun dict name => dict.set name value) dict).get? key =
      if key ∈ names then some value else dict.get? key := by
  induction names generalizing dict with
  | nil => simp
  | cons name rest ih =>
    rw [List.foldl_cons,ih,get?_set]
    by_cases same : key = name
    · simp [same]
    · simp [same]

/-- Of several values with one key the last one stays. -/
theorem get?_index (values : List α) (name : α → String) (dict : Dict α) (key : String) :
    (values.foldl (fun dict value => dict.set (name value) value) dict).get? key =
      (values.filter (fun value => name value = key)).getLast?.or (dict.get? key) := by
  induction values generalizing dict with
  | nil => rfl
  | cons value rest ih =>
    rw [List.foldl_cons,ih,get?_set]
    by_cases same : name value = key
    · rw [List.filter_cons_of_pos (by simpa using same),if_pos same.symm,List.getLast?_cons]
      cases (rest.filter (fun value => name value = key)).getLast? <;> rfl
    · rw [List.filter_cons_of_neg (by simpa using same),if_neg (fun equal => same equal.symm)]

/-- `Object.assign(target, source)`. -/
def assign (target source : Dict α) : Dict α := source.entries.foldl (fun dict entry => dict.set entry.1 entry.2) target

theorem get?_assignAll (entries : List (String × α)) (nodup : (entries.map Prod.fst).Nodup) (target : Dict α)
    (key : String) : (entries.foldl (fun dict entry => dict.set entry.1 entry.2) target).get? key =
      ((entries.find? (fun entry => entry.1 == key)).map Prod.snd).or (target.get? key) := by
  induction entries generalizing target with
  | nil => rfl
  | cons entry rest ih =>
    simp only [List.map_cons,List.nodup_cons] at nodup
    rw [List.foldl_cons,ih nodup.2,get?_set]
    by_cases same : entry.1 = key
    · have absent : rest.find? (fun other => other.1 == key) = none := by
        refine List.find?_eq_none.mpr (fun other member equal => nodup.1 ?_)
        rw [same,← beq_iff_eq.mp equal]
        exact List.mem_map_of_mem member
      simp [same,absent]
    · have differ : key ≠ entry.1 := fun equal => same equal.symm
      simp [same,differ]

theorem get?_assign (target source : Dict α) (key : String) :
    (target.assign source).get? key = (source.get? key).or (target.get? key) :=
  get?_assignAll source.entries source.nodup target key

/-- The named entries of a dictionary, as far as it has them. -/
def pick (names : List String) (source : Dict α) : Dict α :=
  names.foldl (fun picked name =>
    match source.get? name with
    | none => picked
    | some value => picked.set name value) empty

theorem get?_pick (names : List String) (source : Dict α) (key : String) :
    (pick names source).get? key = if key ∈ names then source.get? key else none := by
  have folded (picked : Dict α) : (names.foldl (fun picked name =>
      match source.get? name with
      | none => picked
      | some value => picked.set name value) picked).get? key =
        if key ∈ names then (source.get? key).or (picked.get? key) else picked.get? key := by
    induction names generalizing picked with
    | nil => rfl
    | cons name rest ih =>
      rw [List.foldl_cons,ih]
      by_cases same : key = name
      · subst same
        cases source.get? key <;> simp [get?_set]
      · cases source.get? name <;> simp [same,get?_set]
  rw [pick,folded,get?_empty,Option.or_none]

theorem filter_key (dict : Dict α) (key : String) :
    dict.entries.filter (fun entry => entry.1 = key) = (dict.get? key).toList.map (fun value => (key,value)) := by
  obtain ⟨entries,nodup⟩ := dict
  simp only [get?]
  induction entries with
  | nil => rfl
  | cons entry rest ih =>
    obtain ⟨name,value⟩ := entry
    simp only [List.map_cons,List.nodup_cons] at nodup
    by_cases same : name = key
    · subst same
      have absent : rest.filter (fun entry => entry.1 = name) = [] := by
        rw [List.filter_eq_nil_iff]
        intro other member equal
        exact nodup.1 (List.mem_map.mpr ⟨other,member,of_decide_eq_true equal⟩)
      simp [absent]
    · simpa [same] using ih nodup.2

/-- Items collected in lists, by a key of theirs. -/
def group (key : α → String) (items : List α) (dict : Dict (List α)) : Dict (List α) :=
  items.foldl (fun dict item => dict.set (key item) ((dict.get? (key item)).getD [] ++ [item])) dict

theorem get?_group (key : α → String) (items : List α) (dict : Dict (List α)) (name : String) :
    ((group key items dict).get? name).getD [] =
      (dict.get? name).getD [] ++ items.filter (fun item => key item = name) := by
  induction items generalizing dict with
  | nil => simp [group]
  | cons item rest ih =>
    have next := ih (dict.set (key item) ((dict.get? (key item)).getD [] ++ [item]))
    rw [get?_set] at next
    by_cases same : key item = name
    · subst same
      simpa [group] using next
    · have other : name ≠ key item := fun equal => same equal.symm
      simpa [group,same,other] using next

theorem mem_group {key : α → String} {items : List α} {name : String} {listed : List α}
    (member : (name,listed) ∈ (group key items empty).entries) :
    listed = items.filter (fun item => key item = name) := by
  have found := get?_group key items empty name
  rw [mem_entries.mp member] at found
  simpa using found

theorem group_ne_nil {key : α → String} {items : List α} {dict : Dict (List α)}
    (filled : ∀ name listed, dict.get? name = some listed → listed ≠ []) {name : String} {listed : List α}
    (found : (group key items dict).get? name = some listed) : listed ≠ [] := by
  induction items generalizing dict with
  | nil => exact filled name listed found
  | cons item rest ih =>
    refine @ih (dict.set (key item) ((dict.get? (key item)).getD [] ++ [item])) ?_ found
    intro other list present
    rw [get?_set] at present
    split at present
    · cases present
      simp
    · exact filled other list present

theorem set_flatMap_perm (dict : Dict (List α)) (name : String) (item : α) :
    ((dict.set name ((dict.get? name).getD [] ++ [item])).entries.flatMap Prod.snd).Perm
      (dict.entries.flatMap Prod.snd ++ [item]) := by
  unfold set
  split
  · rename_i present
    obtain ⟨old,found⟩ := Option.isSome_iff_exists.mp (contains_iff.mp present)
    obtain ⟨left,right,split⟩ := List.append_of_mem (mem_entries.mpr found)
    have nodup := dict.nodup
    rw [split,List.map_append,List.map_cons,List.nodup_append] at nodup
    have others : ∀ part : List (String × List α), (∀ entry ∈ part, entry.1 ≠ name) →
        part.map (fun entry => if entry.1 = name then (name,old ++ [item]) else entry) = part := by
      intro part apart
      conv_rhs => rw [← List.map_id part]
      apply List.map_congr_left
      intro entry member
      rw [if_neg (apart entry member)]
      rfl
    have before : ∀ entry ∈ left, entry.1 ≠ name := by
      intro entry member same
      exact nodup.2.2 entry.1 (List.mem_map_of_mem member) name (by simp) same
    have after : ∀ entry ∈ right, entry.1 ≠ name := by
      intro entry member same
      have absent := (List.nodup_cons.mp nodup.2.1).1
      exact absent (List.mem_map.mpr ⟨entry,member,same⟩)
    simp only [found,Option.getD_some,split,List.map_append,List.map_cons,others left before,others right after,
      if_true,List.flatMap_append,List.flatMap_cons,List.append_assoc]
    refine List.Perm.append_left _ (List.Perm.append_left _ ?_)
    exact List.perm_append_comm
  · rename_i absent
    have missing : dict.get? name = none := by
      cases found : dict.get? name with
      | none => rfl
      | some old => exact absurd (contains_iff.mpr (by simp [found])) absent
    simp [missing]

/-- Grouping loses and duplicates nothing. -/
theorem group_perm (key : α → String) (items : List α) (dict : Dict (List α)) :
    ((group key items dict).entries.flatMap Prod.snd).Perm (dict.entries.flatMap Prod.snd ++ items) := by
  induction items generalizing dict with
  | nil => simp [group]
  | cons item rest ih =>
    have next := ih (dict.set (key item) ((dict.get? (key item)).getD [] ++ [item]))
    refine next.trans ?_
    have added := List.Perm.append_right rest (set_flatMap_perm dict (key item) item)
    rwa [List.append_assoc _ [item] rest] at added

end Dict

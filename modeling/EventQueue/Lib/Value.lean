import Mathlib.Data.Rat.Defs
import Mathlib.Algebra.Order.Ring.Rat

/-! Plain JavaScript values with the few language operations the modelled code
applies to values it does not control: truth, property reads, the `in` operator,
comparison with `>=`. An operation that throws has no result. -/
namespace Js

inductive Number
  | nan
  | infinity (negative : Bool)
  | finite (value : Rat)
  deriving DecidableEq

inductive Value
  | undefined
  | null
  | bool (value : Bool)
  | num (value : Number)
  | str (value : String)
  | bigint (value : Int)
  | symbol (tag : Nat)
  | function (tag : Nat)
  /-- A `Date` object; an invalid date has no time. -/
  | date (time : Option Int)
  | arr (items : List Value)
  | obj (fields : List (String × Value))

def Number.ge : Number → Number → Bool
  | .nan,_ => false
  | _,.nan => false
  | .infinity false,_ => true
  | _,.infinity true => true
  | .infinity true,_ => false
  | _,.infinity false => false
  | .finite left,.finite right => decide (right ≤ left)

def Value.nat (value : Nat) : Value := .num (.finite value)

def Value.truthy : Value → Bool
  | .undefined => false
  | .null => false
  | .bool value => value
  | .num .nan => false
  | .num (.infinity _) => true
  | .num (.finite value) => decide (value ≠ 0)
  | .str value => value ≠ ""
  | .bigint value => value ≠ 0
  | _ => true

def field (fields : List (String × Value)) (name : String) : Option Value :=
  (fields.find? (fun entry => entry.1 == name)).map Prod.snd

theorem field_map_other {fields : List (String × Value)} {change : String × Value → Value} {name changed : String}
    (other : name ≠ changed) :
    field (fields.map (fun entry => if entry.1 = changed then (changed,change entry) else entry)) name =
      field fields name := by
  induction fields with
  | nil => rfl
  | cons entry rest ih =>
    by_cases same : entry.1 = changed
    · have differ : entry.1 ≠ name := fun equal => other (equal.symm.trans same)
      have apart : changed ≠ name := fun equal => other equal.symm
      simpa [field,same,differ,apart] using ih
    · by_cases own : entry.1 = name
      · simp [field,own,other]
      · simpa [field,same,own] using ih

theorem field_filter {fields : List (String × Value)} {keep : String × Value → Bool} {name : String}
    (kept : ∀ value, keep (name,value) = true) : field (fields.filter keep) name = field fields name := by
  induction fields with
  | nil => rfl
  | cons entry rest ih =>
    obtain ⟨key,value⟩ := entry
    by_cases own : key = name
    · subst own
      simp [field,kept]
    · by_cases stays : keep (key,value) = true
      · simpa [field,stays,own] using ih
      · simpa [field,stays,own] using ih

theorem field_append {fields more : List (String × Value)} {name : String} :
    field (fields ++ more) name = (field fields name).or (field more name) := by
  unfold field
  rw [List.find?_append]
  cases fields.find? (fun entry => entry.1 == name) with
  | none => rfl
  | some entry => rfl

/-- `value[name]` for a name that no built-in prototype defines; `null` and `undefined` throw. -/
def Value.get (name : String) : Value → Option Value
  | .undefined => none
  | .null => none
  | .obj fields => some ((field fields name).getD .undefined)
  | _ => some .undefined

/-- `value instanceof Object`. -/
def Value.isObject : Value → Bool
  | .function _ => true
  | .date _ => true
  | .arr _ => true
  | .obj _ => true
  | _ => false

/-- The enumerable properties an object has itself. -/
def Value.ownFields : Value → List (String × Value)
  | .obj fields => fields
  | .arr items => items.zipIdx.map (fun item => (toString item.2,item.1))
  | _ => []

/-- The values that `JSON.stringify` keeps as they are. -/
inductive Json : Value → Prop
  | null : Json .null
  | bool (value : Bool) : Json (.bool value)
  | num (value : Rat) : Json (.num (.finite value))
  | str (value : String) : Json (.str value)
  | arr (items : List Value) (every : ∀ item ∈ items, Json item) : Json (.arr items)
  | obj (fields : List (String × Value)) (distinct : (fields.map Prod.fst).Nodup)
      (every : ∀ entry ∈ fields, Json entry.2) : Json (.obj fields)

/-- `Array.prototype.includes` on a list of small integers. -/
def Value.isOneOf (value : Value) (candidates : List Nat) : Bool :=
  match value with
  | .num (.finite number) => candidates.any (fun candidate => decide (number = candidate))
  | _ => false

theorem isOneOf_nat (number : Nat) (candidates : List Nat) :
    (Value.nat number).isOneOf candidates = decide (number ∈ candidates) := by
  simp [Value.isOneOf,Value.nat,List.any_eq]

theorem isOneOf_exists {value : Value} {candidates : List Nat} (included : value.isOneOf candidates = true) :
    ∃ number ∈ candidates, value = .nat number := by
  unfold Value.isOneOf at included
  split at included
  · rename_i number
    obtain ⟨candidate,member,same⟩ := List.any_eq_true.mp included
    exact ⟨candidate,member,by simp [Value.nat,of_decide_eq_true same]⟩
  · cases included

end Js

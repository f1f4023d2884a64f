import Mathlib.Algebra.BigOperators.Group.List.Lemmas
import Mathlib.Algebra.GroupWithZero.Nat
import Mathlib.Algebra.Ring.Int.Defs
import Mathlib.Logic.Function.Basic
import EventQueue.Lib.Dict

/-! Counters in a shared store. Increments commute with each other; an assignment forgets what came before it. -/
namespace Counters

variable {Cell : Type} [DecidableEq Cell]

inductive Command (Cell : Type)
  | incr (cell : Cell) (increment : Int)
  | assign (cell : Cell) (value : Int)
  deriving DecidableEq

/-- None for a cell that does not exist. -/
abbrev Store (Cell : Type) := Cell → Option Int

def value (store : Store Cell) (cell : Cell) : Int := (store cell).getD 0

def apply (store : Store Cell) : Command Cell → Store Cell
  | .incr cell increment => Function.update store cell (some (value store cell + increment))
  | .assign cell assigned => Function.update store cell (some assigned)

def run (store : Store Cell) (commands : List (Command Cell)) : Store Cell := commands.foldl apply store

namespace Command

def increment (cell : Cell) : Command Cell → Int
  | .incr own increment => if own = cell then increment else 0
  | .assign _ _ => 0

def assigns (cell : Cell) : Command Cell → Bool
  | .incr _ _ => false
  | .assign own _ => decide (own = cell)

def isIncr : Command Cell → Bool
  | .incr _ _ => true
  | .assign _ _ => false

end Command

/-- The sum of the increments of a cell. -/
def added (cell : Cell) (commands : List (Command Cell)) : Int := (commands.map (Command.increment cell)).sum

theorem added_append (cell : Cell) (first second : List (Command Cell)) :
    added cell (first ++ second) = added cell first + added cell second := by
  simp [added]

theorem added_perm {first second : List (Command Cell)} (arranged : first.Perm second) (cell : Cell) :
    added cell first = added cell second := (arranged.map _).sum_eq

theorem not_assigns_of_incr {commands : List (Command Cell)} (incrs : ∀ command ∈ commands, command.isIncr = true)
    (cell : Cell) : ∀ command ∈ commands, command.assigns cell = false := by
  intro command member
  have plain := incrs command member
  cases command with
  | incr own increment => rfl
  | assign own assigned => cases plain

theorem value_apply (store : Store Cell) (command : Command Cell) (cell : Cell) (kept : command.assigns cell = false) :
    value (apply store command) cell = value store cell + command.increment cell := by
  cases command with
  | incr own increment =>
    by_cases same : own = cell
    · subst same
      simp [value,apply,Command.increment]
    · have other : cell ≠ own := fun equal => same equal.symm
      simp [value,apply,Command.increment,same,Function.update_of_ne other]
  | assign own assigned =>
    have other : cell ≠ own := fun equal => by simp [Command.assigns,equal] at kept
    simp [value,apply,Command.increment,Function.update_of_ne other]

/-- Without an assignment, a cell grows by what the commands add to it, in whatever order. -/
theorem value_run (store : Store Cell) (commands : List (Command Cell)) (cell : Cell)
    (kept : ∀ command ∈ commands, command.assigns cell = false) :
    value (run store commands) cell = value store cell + added cell commands := by
  induction commands generalizing store with
  | nil => simp [run,added]
  | cons command rest ih =>
    have next := ih (apply store command) (fun later member => kept later (List.mem_cons_of_mem _ member))
    rw [value_apply store command cell (kept command List.mem_cons_self)] at next
    simp only [run,List.foldl_cons,added,List.map_cons,List.sum_cons] at next ⊢
    rw [next,Int.add_assoc]

/-- After the last assignment only the increments that follow count. -/
theorem value_run_assigned (store : Store Cell) (before after : List (Command Cell)) (cell : Cell) (assigned : Int)
    (kept : ∀ command ∈ after, command.assigns cell = false) :
    value (run store (before ++ .assign cell assigned::after)) cell = assigned + added cell after := by
  have split : run store (before ++ .assign cell assigned::after) =
      run (apply (run store before) (.assign cell assigned)) after := by
    simp [run,List.foldl_append]
  rw [split,value_run _ after cell kept]
  simp [value,apply]

/-- A history with one assignment of a cell, parted at it. -/
theorem value_run_once {store : Store Cell} {history : List (Command Cell)} {cell : Cell} {assigned : Int}
    (once : history.filter (fun command => command.assigns cell) = [.assign cell assigned]) :
    ∃ before after, history = before ++ .assign cell assigned::after ∧
      value (run store history) cell = assigned + added cell after := by
  obtain ⟨before,after,parts,_,own,behind⟩ := List.filter_eq_cons_iff.mp once
  subst parts
  refine ⟨before,after,rfl,value_run_assigned store before after cell assigned (fun command member => ?_)⟩
  have none := List.filter_eq_nil_iff.mp behind command member
  simpa using none

theorem filter_perm_singleton {commands history : List (Command Cell)} {cell : Cell} {command : Command Cell}
    (arranged : history.Perm commands)
    (once : commands.filter (fun command => command.assigns cell) = [command]) :
    history.filter (fun command => command.assigns cell) = [command] := by
  have filtered := arranged.filter (fun command => command.assigns cell)
  rw [once] at filtered
  exact List.perm_singleton.mp filtered

/-- Commands for different cells assign a cell at most once, namely as the one item for it says. -/
theorem filter_assigns_map {Item : Type} {items : List Item} {cellOf : Item → Cell} {amount : Item → Int}
    (distinct : (items.map cellOf).Nodup) {item : Item} (member : item ∈ items) :
    (items.map (fun item => Command.assign (cellOf item) (amount item))).filter
      (fun command => command.assigns (cellOf item)) = [.assign (cellOf item) (amount item)] := by
  induction items with
  | nil => cases member
  | cons first rest ih =>
    obtain ⟨fresh,later⟩ := List.nodup_cons.mp distinct
    rw [List.map_cons]
    obtain rfl | behind := List.mem_cons.mp member
    · have others : (rest.map (fun item => Command.assign (cellOf item) (amount item))).filter
          (fun command => command.assigns (cellOf item)) = [] := by
        refine List.filter_eq_nil_iff.mpr (fun command listed assigned => fresh ?_)
        obtain ⟨other,inside,rfl⟩ := List.mem_map.mp listed
        rw [← (of_decide_eq_true assigned : cellOf other = cellOf item)]
        exact List.mem_map_of_mem inside
      rw [List.filter_cons_of_pos (by simp [Command.assigns]),others]
    · have apart : cellOf first ≠ cellOf item := fun same => fresh (same ▸ List.mem_map_of_mem behind)
      rw [List.filter_cons_of_neg (by simp [Command.assigns,apart])]
      exact ih later behind

/-- A cell that nothing increases and that is only set to zero is zero at the end if it was zero or has been set. -/
theorem value_run_zero {store : Store Cell} {history : List (Command Cell)} {cell : Cell}
    (zero : ∀ command ∈ history, command.assigns cell = true → command = .assign cell 0)
    (idle : ∀ command ∈ history, command.increment cell = 0)
    (reset : value store cell = 0 ∨ ∃ command ∈ history, command.assigns cell = true) :
    value (run store history) cell = 0 := by
  induction history generalizing store with
  | nil => simpa [run] using reset
  | cons command rest ih =>
    refine @ih (apply store command) (fun other member => zero other (List.mem_cons_of_mem _ member))
      (fun other member => idle other (List.mem_cons_of_mem _ member)) ?_
    cases own : command.assigns cell with
    | true =>
      rw [zero command List.mem_cons_self own]
      exact Or.inl (by simp [value,apply])
    | false =>
      obtain before | ⟨other,member,assigned⟩ := reset
      · rw [value_apply store command cell own,before,idle command List.mem_cons_self]
        exact Or.inl rfl
      · obtain rfl | behind := List.mem_cons.mp member
        · rw [assigned] at own
          cases own
        · exact Or.inr ⟨other,behind,assigned⟩

section
variable {Item : Type} (key : Item → String) (amount : Item → Nat)

/-- Amounts added up in a dictionary; a key that is not there counts as zero. -/
def tally (items : List Item) (dict : Dict Nat) : Dict Nat :=
  items.foldl (fun dict item => dict.set (key item) ((dict.get? (key item)).getD 0 + amount item)) dict

theorem get?_tally (items : List Item) (dict : Dict Nat) (name : String) :
    ((tally key amount items dict).get? name).getD 0 =
      (dict.get? name).getD 0 + ((items.filter (fun item => key item = name)).map amount).sum := by
  induction items generalizing dict with
  | nil => simp [tally]
  | cons item rest ih =>
    have next := ih (dict.set (key item) ((dict.get? (key item)).getD 0 + amount item))
    rw [Dict.get?_set] at next
    by_cases same : key item = name
    · subst same
      simpa [tally,Nat.add_assoc] using next
    · have other : name ≠ key item := fun equal => same equal.symm
      simpa [tally,same,other] using next

theorem mem_keys_tally {items : List Item} {dict : Dict Nat} {name : String} :
    name ∈ (tally key amount items dict).keys ↔ name ∈ dict.keys ∨ ∃ item ∈ items, key item = name := by
  induction items generalizing dict with
  | nil => simp [tally]
  | cons item rest ih =>
    have next := @ih (dict.set (key item) ((dict.get? (key item)).getD 0 + amount item))
    have listed : name ∈ (dict.set (key item) ((dict.get? (key item)).getD 0 + amount item)).keys ↔
        name = key item ∨ name ∈ dict.keys := by
      rw [Dict.mem_keys,Dict.mem_keys,Dict.get?_set]
      by_cases same : name = key item
      · simp [same]
      · simp [same]
    simp only [tally,List.foldl_cons] at next ⊢
    rw [next,listed]
    simp only [List.mem_cons,exists_eq_or_imp,eq_comm (a := name)]
    tauto

end

end Counters

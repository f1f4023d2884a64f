import Mathlib.Algebra.Order.BigOperators.Group.List
import Mathlib.Algebra.Order.Ring.Nat
import Mathlib.Data.List.Basic
import Mathlib.Data.List.Infix
import Mathlib.Data.String.Basic

/-! Texts joined with a doubled character, and the split that takes them apart from the left. -/
namespace Separated

variable (mark : Char)

/-- `split` at every pair of marks; pairs do not overlap. -/
def splitChars : List Char → List (List Char)
  | [] => [[]]
  | [char] => [[char]]
  | first::second::rest =>
    if first = mark ∧ second = mark then []::splitChars rest
    else match splitChars (second::rest) with
      | [] => [[first]]
      | part::parts => (first::part)::parts

def split (text : String) : List String := (splitChars mark text.toList).map String.ofList

def join (parts : List String) : String := (String.ofList [mark,mark]).intercalate parts

/-- No pair of marks inside. -/
def Pairless (part : List Char) : Prop := ¬[mark,mark] <:+: part

/-- A pair after the part overlaps with none that begins in the part. -/
def Closed (part : List Char) : Prop := Pairless mark part ∧ part.getLast? ≠ some mark

instance decidablePairless (part : List Char) : Decidable (Pairless mark part) :=
  inferInstanceAs (Decidable (¬[mark,mark] <:+: part))

instance decidableClosed (part : List Char) : Decidable (Closed mark part) :=
  inferInstanceAs (Decidable (Pairless mark part ∧ part.getLast? ≠ some mark))

/-- Every part but the last one is followed by a pair. -/
def Separable : List String → Prop
  | [] => True
  | [part] => Pairless mark part.toList
  | part::next::rest => Closed mark part.toList ∧ Separable (next::rest)

section
variable {mark : Char}

theorem pairless_cons_cons {first second : Char} {rest : List Char} :
    Pairless mark (first::second::rest) ↔ ¬(first = mark ∧ second = mark) ∧ Pairless mark (second::rest) := by
  simp only [Pairless,List.infix_cons_iff,List.cons_prefix_cons,List.nil_prefix,and_true,not_or,eq_comm (a := mark)]

theorem pairless_singleton (char : Char) : Pairless mark [char] := by
  intro inside
  have lengths := inside.length_le
  simp at lengths

theorem closed_nil : Closed mark [] := ⟨by simp [Pairless],by simp⟩

theorem closed_cons_cons {first second : Char} {rest : List Char} :
    Closed mark (first::second::rest) ↔ ¬(first = mark ∧ second = mark) ∧ Closed mark (second::rest) := by
  simp only [Closed,pairless_cons_cons,List.getLast?_cons_cons,and_assoc]

theorem splitChars_pairless {part : List Char} (pairless : Pairless mark part) : splitChars mark part = [part] := by
  induction part with
  | nil => rfl
  | cons first rest ih =>
    cases rest with
    | nil => rfl
    | cons second rest =>
      obtain ⟨other,tail⟩ := pairless_cons_cons.mp pairless
      simp only [splitChars,if_neg other,ih tail]

theorem splitChars_closed {part : List Char} (closed : Closed mark part) (rest : List Char) :
    splitChars mark (part ++ mark::mark::rest) = part::splitChars mark rest := by
  induction part with
  | nil => simp [splitChars]
  | cons first tail ih =>
    cases tail with
    | nil =>
      have other : first ≠ mark := by simpa using closed.2
      simp [splitChars,other]
    | cons second tail =>
      obtain ⟨other,closed⟩ := closed_cons_cons.mp closed
      have next := ih closed
      simp only [List.cons_append] at next
      simp only [List.cons_append,splitChars,next,if_neg other]

theorem splitChars_ne_nil (text : List Char) : splitChars mark text ≠ [] := by
  fun_cases splitChars mark text <;> simp_all

/-- The first part of a split is the whole text, or the text up to its first pair of marks. -/
theorem splitChars_first {text part : List Char} {parts : List (List Char)}
    (found : splitChars mark text = part::parts) :
    (Pairless mark part ∧ parts = [] ∧ text = part) ∨
      (Closed mark part ∧ ∃ rest, text = part ++ mark::mark::rest ∧ parts = splitChars mark rest) := by
  induction text generalizing part with
  | nil =>
    cases found
    exact Or.inl ⟨closed_nil.1,rfl,rfl⟩
  | cons first rest ih =>
    cases rest with
    | nil =>
      cases found
      exact Or.inl ⟨pairless_singleton first,rfl,rfl⟩
    | cons second rest =>
      by_cases pair : first = mark ∧ second = mark
      · obtain ⟨rfl,rfl⟩ := pair
        simp only [splitChars,and_self,if_true,List.cons.injEq] at found
        obtain ⟨rfl,rfl⟩ := found
        exact Or.inr ⟨closed_nil,rest,rfl,rfl⟩
      · simp only [splitChars,if_neg pair] at found
        cases tail : splitChars mark (second::rest) with
        | nil => exact absurd tail (splitChars_ne_nil _)
        | cons own others =>
          rw [tail] at found
          cases found
          rcases ih tail with ⟨pairless,none,whole⟩ | ⟨closed,after,whole,later⟩
          · subst whole
            exact Or.inl ⟨pairless_cons_cons.mpr ⟨pair,pairless⟩,none,rfl⟩
          · refine Or.inr ⟨?_,after,by rw [whole,List.cons_append],later⟩
            cases own with
            | nil =>
              cases whole
              refine ⟨pairless_singleton first,fun last => pair ⟨?_,rfl⟩⟩
              simpa using last
            | cons char own =>
              cases whole
              exact closed_cons_cons.mpr ⟨pair,closed⟩

theorem pairless_append_cons {before after : List Char} {char : Char} (other : char ≠ mark) :
    Pairless mark (before ++ char::after) ↔ Pairless mark before ∧ Pairless mark after := by
  have behind : Pairless mark (char::after) ↔ Pairless mark after := by
    cases after with
    | nil => simp [pairless_singleton,closed_nil.1]
    | cons second rest => simp [pairless_cons_cons,other]
  induction before with
  | nil => simp [behind,closed_nil.1]
  | cons first rest ih =>
    cases rest with
    | nil =>
      simp only [List.cons_append,List.nil_append,pairless_cons_cons,other,and_false,not_false_eq_true,true_and,behind,
        pairless_singleton]
    | cons second rest =>
      simp only [List.cons_append] at ih
      simp only [List.cons_append,pairless_cons_cons,ih,and_assoc]

/-- Only what stands after the last other character matters for the end. -/
theorem closed_append_cons {before after : List Char} {char : Char} (other : char ≠ mark) :
    Closed mark (before ++ char::after) ↔ Pairless mark before ∧ Closed mark after := by
  have last : (before ++ char::after).getLast? = some mark ↔ after.getLast? = some mark := by
    cases after with
    | nil => simp [other]
    | cons second rest => simp
  simp only [Closed,pairless_append_cons other,last,ne_eq,and_assoc]

theorem closed_of_plain {part : List Char} (plain : mark ∉ part) : Closed mark part := by
  refine ⟨fun inside => plain (inside.subset (by simp)),fun last => plain (List.mem_of_getLast? last)⟩

theorem toList_join (part next : String) (rest : List String) :
    (join mark (part::next::rest)).toList = part.toList ++ mark::mark::(join mark (next::rest)).toList := by
  simp [join,String.intercalate_cons_cons]

theorem separable_of_plain {parts : List String} (plain : ∀ part ∈ parts, mark ∉ part.toList) :
    Separable mark parts := by
  induction parts with
  | nil => trivial
  | cons part rest ih =>
    have own := closed_of_plain (plain part (by simp))
    cases rest with
    | nil => exact own.1
    | cons next rest => exact ⟨own,ih (fun other member => plain other (by simp [member]))⟩

theorem count_join (part : String) (rest : List String) :
    (join mark (part::rest)).toList.count mark =
      2 * rest.length + ((part::rest).map (fun part => part.toList.count mark)).sum := by
  induction rest generalizing part with
  | nil => simp [join]
  | cons next rest ih =>
    rw [toList_join,List.count_append,List.count_cons_self,List.count_cons_self,ih next]
    simp only [List.length_cons,List.map_cons,List.sum_cons]
    omega

theorem split_join {parts : List String} (given : parts ≠ []) (separable : Separable mark parts) :
    split mark (join mark parts) = parts := by
  induction parts with
  | nil => exact absurd rfl given
  | cons part rest ih =>
    cases rest with
    | nil => simp [split,join,splitChars_pairless separable]
    | cons next rest =>
      have tail := ih (by simp) separable.2
      rw [split] at tail ⊢
      rw [toList_join,splitChars_closed separable.1,List.map_cons,tail,String.ofList_toList]

/-- The parts of a split are separable, also where the split goes on after the last of them. -/
theorem separable_of_split {parts : List String} {text : String} (initial : parts <+: split mark text) :
    Separable mark parts := by
  induction parts generalizing text with
  | nil => trivial
  | cons part rest ih =>
    obtain ⟨more,found⟩ := initial
    cases chars : splitChars mark text.toList with
    | nil => exact absurd chars (splitChars_ne_nil _)
    | cons own parts =>
      rw [split,chars] at found
      simp only [List.cons_append,List.map_cons,List.cons.injEq] at found
      obtain ⟨rfl,later⟩ := found
      have whole := splitChars_first chars
      cases rest with
      | nil =>
        rw [Separable,String.toList_ofList]
        exact whole.elim And.left (fun closed => closed.1.1)
      | cons next rest =>
        rcases whole with ⟨_,none,_⟩ | ⟨closed,after,_,rfl⟩
        · simp [none] at later
        · refine ⟨by simpa using closed,@ih (String.ofList after) ⟨more,?_⟩⟩
          rw [split,String.toList_ofList]
          exact later

/-- A text with no other marks comes from one list of its length only. -/
theorem join_plain_inj {parts others : List String} (plain : ∀ part ∈ parts, mark ∉ part.toList)
    (sameLength : others.length = parts.length) (same : join mark others = join mark parts) : others = parts := by
  cases parts with
  | nil => exact List.length_eq_zero_iff.mp sameLength
  | cons part rest =>
    cases others with
    | nil => simp at sameLength
    | cons other more =>
      have marks := congrArg (fun text => text.toList.count mark) same
      simp only [count_join] at marks
      have unmarked : ((part::rest).map (fun part => part.toList.count mark)).sum = 0 := by
        refine List.sum_eq_zero (fun count member => ?_)
        obtain ⟨part,inside,rfl⟩ := List.mem_map.mp member
        exact List.count_eq_zero.mpr (plain part inside)
      have otherPlain : ∀ part ∈ other::more, mark ∉ part.toList := by
        intro part inside
        have bound := List.le_sum_of_mem
          (List.mem_map_of_mem (f := fun part => part.toList.count mark) inside)
        simp only [List.length_cons] at sameLength
        exact List.count_eq_zero.mp (by omega)
      rw [← split_join (by simp) (separable_of_plain otherPlain),same,
        split_join (by simp) (separable_of_plain plain)]

theorem plain_before_inj {left right rest others : List Char} (plainLeft : mark ∉ left) (plainRight : mark ∉ right)
    (same : left ++ mark::rest = right ++ mark::others) : left = right ∧ rest = others := by
  induction left generalizing right with
  | nil =>
    cases right with
    | nil => exact ⟨rfl,(List.cons.inj same).2⟩
    | cons char right => exact absurd (List.cons.inj same).1 (fun equal => plainRight (equal ▸ List.mem_cons_self))
  | cons char left ih =>
    cases right with
    | nil => exact absurd (List.cons.inj same).1.symm (fun equal => plainLeft (equal ▸ List.mem_cons_self))
    | cons other right =>
      obtain ⟨first,tail⟩ := List.cons.inj same
      obtain ⟨rfl,later⟩ := ih (fun inside => plainLeft (List.mem_cons_of_mem _ inside))
        (fun inside => plainRight (List.mem_cons_of_mem _ inside)) tail
      exact ⟨by rw [first],later⟩

/-- A last part without a mark is known from the whole text, and so is what stands before it. -/
theorem plain_last_inj {left right last other : List Char} (plainLast : mark ∉ last) (plainOther : mark ∉ other)
    (same : left ++ mark::last = right ++ mark::other) : left = right ∧ last = other := by
  have reversed := congrArg List.reverse same
  simp only [List.reverse_append,List.reverse_cons,List.append_assoc,List.singleton_append] at reversed
  obtain ⟨tail,front⟩ := plain_before_inj (by simpa using plainLast) (by simpa using plainOther) reversed
  exact ⟨List.reverse_injective front,List.reverse_injective tail⟩

end

end Separated

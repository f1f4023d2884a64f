import Mathlib.Data.List.Basic

/-! The enumerations of `constants.js`. -/
namespace EventQueue

namespace EventProcessingStatus

def Open : Nat := 0
def InProgress : Nat := 1
def Done : Nat := 2
def Error : Nat := 3
def Exceeded : Nat := 4
def Suspended : Nat := 5

end EventProcessingStatus

inductive TransactionMode
  | isolated
  | alwaysCommit
  | alwaysRollback
  deriving DecidableEq, Repr

inductive Priorities
  | low
  | medium
  | high
  | veryHigh
  deriving DecidableEq, Repr

namespace Priorities

/-- The string a configuration carries; any other string is no priority. -/
def ofString : String → Option Priorities
  | "low" => some .low
  | "medium" => some .medium
  | "high" => some .high
  | "veryHigh" => some .veryHigh
  | _ => none

def values : List Priorities := [.low,.medium,.high,.veryHigh]

end Priorities

end EventQueue

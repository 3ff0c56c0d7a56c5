import TextScan.Proofs.ColumnSums.Reference
import Mathlib.Data.List.Induction

/-! Running totals are totals: adding the values one by one, with columns padded when they are
first seen, ends with the sum of each column. -/
namespace TextScan.ColumnSums
open Floating (Number)
open Literal (FloatType)
open Progress (addAt)

namespace Reference

theorem width_append (values : List (Nat × Number)) (column : Nat) (value : Number) :
    width (values ++ [(column, value)]) = max (width values) (column + 1) := by
  simp [width, List.foldl_append]

theorem total_append (values : List (Nat × Number)) (column other : Nat) (value : Number) :
    total (values ++ [(column, value)]) other =
      if column = other then Floating.Format.double.add (total values other) value
      else total values other := by
  by_cases same : column = other <;> simp [total, same]

theorem lt_width {values : List (Nat × Number)} {entry : Nat × Number} (member : entry ∈ values) :
    entry.1 < width values := by
  induction values using List.reverseRecOn with
  | nil => cases member
  | append_singleton values last ih =>
    rw [width_append]
    rcases List.mem_append.mp member with before | same
    · have below := ih before
      omega
    · cases List.mem_singleton.mp same
      omega

theorem total_of_width_le {values : List (Nat × Number)} {column : Nat}
    (beyond : width values ≤ column) : total values column = FloatType.double.zero := by
  have none : values.filter (·.1 = column) = [] := by
    rw [List.filter_eq_nil_iff]
    intro entry member same
    have below := lt_width member
    simp only [decide_eq_true_eq] at same
    omega
  rw [total, none]
  rfl

end Reference

open Reference

/-- Padding extends the totals to further columns, all of them at zero. -/
theorem pad_totals (values : List (Nat × Number)) (count : Nat) :
    (List.range (width values)).map (total values) ++
        List.replicate (count - width values) FloatType.double.zero =
      (List.range (max (width values) count)).map (total values) := by
  apply List.ext_getElem
  · simp
    omega
  · intro column left right
    by_cases seen : column < width values
    · simp [seen]
    · rw [List.getElem_append_right (by simpa using seen)]
      simp [total_of_width_le (Nat.le_of_not_lt seen)]

theorem addAt_totals (values : List (Nat × Number)) (column : Nat) (value : Number) :
    addAt ((List.range (width values)).map (total values)) column value =
      (List.range (width (values ++ [(column, value)]))).map
        (total (values ++ [(column, value)])) := by
  rw [addAt, List.length_map, List.length_range, pad_totals, width_append]
  apply List.ext_getElem
  · simp
  · intro other left right
    simp only [List.getElem_modify, List.getElem_map, List.getElem_range, total_append]

theorem foldl_addAt (values : List (Nat × Number)) :
    values.foldl (fun sums entry => addAt sums entry.1 entry.2) [] =
      (List.range (width values)).map (total values) := by
  induction values using List.reverseRecOn with
  | nil => rfl
  | append_singleton values last ih =>
    rw [List.foldl_append, ih]
    exact addAt_totals values last.1 last.2

end TextScan.ColumnSums

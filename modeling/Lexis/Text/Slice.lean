/-!
# Text — slices

A slice `[low, high)` of a list whose bounds may be any integers: a negative bound is counted
from the end, and a bound beyond either end stands for that end.
-/

namespace Lexis.Text

/-- The place in a list of `size` items that a bound stands for. -/
def sliceBound (size : Nat) (bound : Int) : Nat :=
  if bound < 0 then (bound + size).toNat else min bound.toNat size

/-- The items from `low` up to but not including `high`; none where the bounds cross. -/
def slice {α : Type} (items : List α) (low high : Int) : List α :=
  (items.drop (sliceBound items.length low)).take
    (sliceBound items.length high - sliceBound items.length low)

/-- The slice of one item at `place`. -/
def sliceAt {α : Type} (items : List α) (place : Int) : List α :=
  slice items place (place + 1)

/-- At a place within the list the slice holds the item there. -/
theorem sliceAt_of_lt {α : Type} (items : List α) (place : Nat) (h : place < items.length) :
    sliceAt items place = [items[place]] := by
  have low : sliceBound items.length (place : Int) = place := by
    unfold sliceBound; split <;> omega
  have high : sliceBound items.length ((place : Int) + 1) = place + 1 := by
    unfold sliceBound; split <;> omega
  rw [sliceAt, slice, low, high, List.drop_eq_getElem_cons h, Nat.add_sub_cancel_left]
  rfl

end Lexis.Text

import Lexis.Text.Slice

/-!
# Text — slices between two places

A slice whose bounds are offsets of a text: it drops what is before and takes what is up to the
second bound (`slice_natCast`).  Slices that meet join (`slice_append_slice`).
-/

namespace Lexis.Text

variable {α : Type} {items : List α}

theorem sliceBound_natCast (size n : Nat) : sliceBound size (n : Int) = min n size := by
  unfold sliceBound
  split <;> omega

theorem slice_natCast (items : List α) (low high : Nat) :
    slice items low high = (items.take high).drop low := by
  rw [slice, sliceBound_natCast, sliceBound_natCast, List.drop_take]
  rcases Nat.le_total low items.length with hlow | hlow
  · rw [Nat.min_eq_left hlow]
    rcases Nat.le_total high items.length with hhigh | hhigh
    · rw [Nat.min_eq_left hhigh]
    · have hlen : (items.drop low).length = items.length - low := List.length_drop
      rw [Nat.min_eq_right hhigh, List.take_of_length_le (by omega),
        List.take_of_length_le (by omega)]
  · rw [Nat.min_eq_right hlow, List.drop_of_length_le (Nat.le_refl _),
      List.drop_of_length_le hlow]
    simp

/-- The slice of a text between two places. -/
theorem slice_append (before text after : List α) :
    slice (before ++ text ++ after) before.length (before ++ text).length = text := by
  rw [slice_natCast, List.take_left, List.drop_left]

theorem slice_self (items : List α) (n : Nat) : slice items n n = [] := by
  rw [slice_natCast, List.drop_eq_nil_iff, List.length_take]
  exact Nat.min_le_left _ _

/-- Slices that meet join. -/
theorem slice_append_slice {low mid high : Nat} (h₁ : low ≤ mid) (h₂ : mid ≤ high) :
    slice items low mid ++ slice items mid high = slice items low high := by
  rw [slice_natCast, slice_natCast, slice_natCast]
  have hmid : items.take mid = (items.take high).take mid := by
    rw [List.take_take, Nat.min_eq_left h₂]
  have hcut := List.take_append_drop mid (items.take high)
  rw [hmid]
  generalize items.take high = taken at hcut ⊢
  rcases Nat.le_total low taken.length with hlow | hlow
  · rw [← List.drop_append_of_le_length (by rw [List.length_take]; omega), hcut]
  · rw [List.drop_of_length_le hlow, List.drop_of_length_le (Nat.le_trans hlow h₁),
      List.drop_of_length_le (by rw [List.length_take]; omega)]
    rfl

end Lexis.Text

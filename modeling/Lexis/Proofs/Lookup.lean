/-!
# Lookup — entries that are set

A list of entries by their keys, of which the first one with a key counts.  An entry is set by
putting it in front and leaving out those that have its key.
-/

namespace Lexis

variable {κ β : Type} [BEq κ] [LawfulBEq κ] [DecidableEq κ]

/-- What is looked up after an entry is set. -/
theorem lookup_set (entries : List (κ × β)) (key other : κ) (value : β) :
    ((key, value) :: entries.filter fun entry => entry.1 ≠ key).lookup other =
      if other = key then some value else entries.lookup other := by
  rw [List.lookup_cons]
  by_cases h : other = key
  · rw [if_pos h, beq_iff_eq.mpr h]
  · rw [if_neg h, beq_eq_false_iff_ne.mpr h]
    induction entries with
    | nil => rfl
    | cons entry entries ih =>
        by_cases hkey : entry.1 = key
        · have hne : (other == entry.1) = false := beq_eq_false_iff_ne.mpr (hkey ▸ h)
          rw [List.filter_cons_of_neg (by simpa using hkey), List.lookup_cons, hne]
          exact ih
        · rw [List.filter_cons_of_pos (by simpa using hkey), List.lookup_cons, List.lookup_cons]
          cases other == entry.1 with
          | true => rfl
          | false => exact ih

end Lexis

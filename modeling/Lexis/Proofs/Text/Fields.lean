import Lexis.Text.Fields
import Mathlib.Data.List.Basic

/-!
# Text — fields put together

Texts put together with a separator have the fields of both (`fields_append_cons`), so the fields
that hold no separator are found again when they are joined (`fields_joinFields`).
-/

namespace Lexis.Text

variable {sep : Char}

/-- At a separator the fields of a text are those in front of it and those behind. -/
theorem fields_append_cons (before after : List Char) :
    fields sep (before ++ sep :: after) = fields sep before ++ fields sep after := by
  induction before with
  | nil =>
      obtain ⟨field, rest, hfields, hcons⟩ := fields_cons_eq sep sep after
      rw [List.nil_append, hcons, if_pos rfl, hfields]
      rfl
  | cons c before ih =>
      obtain ⟨field, rest, hfields, hcons⟩ := fields_cons_eq sep c before
      rw [List.cons_append, fields_cons, ih, hcons, hfields, List.cons_append, consField]
      split <;> rfl

theorem fields_eq_singleton {text : List Char} (h : sep ∉ text) : fields sep text = [text] := by
  obtain ⟨field, hfield⟩ : ∃ field, fields sep text = [field] :=
    List.length_eq_one_iff.mp (by rw [length_fields, List.count_eq_zero.mpr h])
  have hjoin := joinFields_fields sep text
  rw [hfield] at hjoin
  rw [hfield, ← hjoin]
  simp [joinFields]

/-- **Joined fields are found again**, where none of them holds a separator. -/
theorem fields_joinFields {fs : List (List Char)} (hne : fs ≠ []) (h : ∀ field ∈ fs, sep ∉ field) :
    fields sep (joinFields sep fs) = fs := by
  induction fs with
  | nil => exact absurd rfl hne
  | cons field fs ih =>
      rw [List.forall_mem_cons] at h
      cases fs with
      | nil => simpa [joinFields] using fields_eq_singleton h.1
      | cons next fs =>
          have hjoin : joinFields sep (field :: next :: fs) =
              field ++ sep :: joinFields sep (next :: fs) := by
            simp [joinFields, List.intercalate]
          rw [hjoin, fields_append_cons, fields_eq_singleton h.1, ih (by simp) h.2]
          rfl

/-- A field of a text is a part of it. -/
theorem sublist_of_mem_fields {text field : List Char} (h : field ∈ fields sep text) :
    field.Sublist text := by
  induction text generalizing field with
  | nil =>
      obtain rfl : field = [] := by simpa using h
      exact .refl []
  | cons c text ih =>
      obtain ⟨first, rest, hfields, hcons⟩ := fields_cons_eq sep c text
      rw [hfields, List.forall_mem_cons] at ih
      rw [hcons] at h
      split at h
      · rcases List.mem_cons.mp h with rfl | h
        · exact List.nil_sublist _
        · rcases List.mem_cons.mp h with rfl | h
          · exact ih.1.cons c
          · exact (ih.2 _ h).cons c
      · rcases List.mem_cons.mp h with rfl | h
        · exact ih.1.cons_cons c
        · exact (ih.2 _ h).cons c

end Lexis.Text

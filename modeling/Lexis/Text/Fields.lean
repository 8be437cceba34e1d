/-!
# Text — fields

A text falls into fields at a separator: `fields` has one more entry than the text has
separators (`length_fields`), no entry holds one (`separator_not_mem_fields`), and joining the
entries with the separator gives the text back (`joinFields_fields`).
-/

namespace Lexis.Text

/-- A character in front of a text's fields. -/
def consField (sep c : Char) : List (List Char) → List (List Char)
  | []            => [[c]]
  | field :: rest => if c = sep then [] :: field :: rest else (c :: field) :: rest

/-- The fields of a text, without the separators between them. -/
def fields (sep : Char) (text : List Char) : List (List Char) :=
  text.foldr (consField sep) [[]]

/-- Fields put together with a separator between each two. -/
def joinFields (sep : Char) (fs : List (List Char)) : List Char :=
  [sep].intercalate fs

@[simp] theorem fields_nil (sep : Char) : fields sep [] = [[]] := rfl

theorem fields_cons (sep c : Char) (text : List Char) :
    fields sep (c :: text) = consField sep c (fields sep text) :=
  rfl

theorem fields_ne_nil (sep : Char) (text : List Char) : fields sep text ≠ [] := by
  cases text with
  | nil => simp
  | cons c text =>
    rw [fields_cons]
    cases fields sep text with
    | nil => simp [consField]
    | cons field rest => simp only [consField]; split <;> simp

/-- A separator ends a field, and any other character begins the first one. -/
theorem fields_cons_eq (sep c : Char) (text : List Char) :
    ∃ field rest, fields sep text = field :: rest ∧
      fields sep (c :: text) =
        if c = sep then [] :: field :: rest else (c :: field) :: rest := by
  cases h : fields sep text with
  | nil => exact absurd h (fields_ne_nil sep text)
  | cons field rest => exact ⟨field, rest, rfl, by rw [fields_cons, h, consField]⟩

theorem length_fields (sep : Char) (text : List Char) :
    (fields sep text).length = text.count sep + 1 := by
  induction text with
  | nil => rfl
  | cons c text ih =>
    obtain ⟨field, rest, hf, hc⟩ := fields_cons_eq sep c text
    rw [hf] at ih
    rw [hc]
    by_cases h : c = sep
    · simp [h] at ih ⊢; omega
    · simp [h] at ih ⊢; omega

/-- No field holds a separator. -/
theorem separator_not_mem_fields {sep : Char} {text field : List Char}
    (h : field ∈ fields sep text) : sep ∉ field := by
  induction text generalizing field with
  | nil => simp only [fields_nil, List.mem_singleton] at h; simp [h]
  | cons c text ih =>
    obtain ⟨first, rest, hf, hc⟩ := fields_cons_eq sep c text
    rw [hf] at ih
    rw [hc] at h
    by_cases hsep : c = sep
    · rw [if_pos hsep] at h
      rcases List.mem_cons.1 h with rfl | h
      · simp
      · exact ih h
    · rw [if_neg hsep] at h
      rcases List.mem_cons.1 h with rfl | h
      · have := ih (List.mem_cons_self (l := rest))
        simp [this, Ne.symm hsep]
      · exact ih (List.mem_cons_of_mem _ h)

/-- The fields of a text give it back. -/
theorem joinFields_fields (sep : Char) (text : List Char) :
    joinFields sep (fields sep text) = text := by
  induction text with
  | nil => rfl
  | cons c text ih =>
    obtain ⟨field, rest, hf, hc⟩ := fields_cons_eq sep c text
    rw [hf] at ih
    rw [hc, ← ih]
    by_cases hsep : c = sep
    · rw [if_pos hsep, hsep]
      cases rest <;> simp [joinFields, List.intercalate, List.intersperse]
    · rw [if_neg hsep]
      cases rest <;> simp [joinFields, List.intercalate, List.intersperse]

end Lexis.Text

import Lexis.Token.Charset

/-!
# String literals

The text between the quotes of a literal is a sequence of units: a plain character, or the escape
character, any number of `n`, and one character that is not `n`.  A plain character stands for
itself; an escape stands for as many line feeds as it has `n`, then for its last character.  Thus
an escaped `n` leaves the character behind it escaped too.
-/

namespace Lexis.Literal

/-- A pair of texts with a character put in front of each. -/
def consBoth (source decoded : Char) (texts : List Char × List Char) : List Char × List Char :=
  (source :: texts.1, decoded :: texts.2)

/-- The text before the closing quote, as it stands and as it decodes, where `escaped` tells
whether the first character is escaped; nothing where no quote closes the literal. -/
def body : (escaped : Bool) → List Char → Option (List Char × List Char)
  | _,     []     => none
  | true,  c :: r =>
    if c = 'n' then (body true r).map (consBoth c '\n') else (body false r).map (consBoth c c)
  | false, c :: r =>
    if c = escape then (body true r).map fun texts => (c :: texts.1, texts.2)
    else if c = quote then some ([], [])
    else (body false r).map (consBoth c c)

/-- The text before the closing quote is what the source holds there, and the quote is behind
it. -/
theorem eq_append_of_body {escaped : Bool} {text source decoded : List Char}
    (h : body escaped text = some (source, decoded)) :
    ∃ rest, text = source ++ quote :: rest := by
  induction text generalizing escaped source decoded with
  | nil => cases escaped <;> simp [body] at h
  | cons c r ih =>
    have lift : ∀ {esc : Bool} {f : List Char × List Char → List Char × List Char},
        (∀ texts, (f texts).1 = c :: texts.1) → (body esc r).map f = some (source, decoded) →
        ∃ rest, c :: r = source ++ quote :: rest := by
      intro esc f hf hmap
      obtain ⟨⟨s, d⟩, hsd, heq⟩ := Option.map_eq_some_iff.1 hmap
      obtain ⟨rest, rfl⟩ := ih hsd
      have := hf (s, d)
      rw [heq] at this
      exact ⟨rest, by simp_all⟩
    cases escaped with
    | true =>
      rw [body] at h
      split at h
      · exact lift (fun _ => rfl) h
      · exact lift (fun _ => rfl) h
    | false =>
      rw [body] at h
      split at h
      · exact lift (fun _ => rfl) h
      · split at h
        · rename_i hq
          simp only [Option.some.injEq, Prod.mk.injEq] at h
          exact ⟨r, by rw [← h.1, hq]; rfl⟩
        · exact lift (fun _ => rfl) h

end Lexis.Literal

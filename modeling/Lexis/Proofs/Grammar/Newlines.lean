import Lexis.Proofs.Grammar.Carriage
import Lexis.Proofs.Text.Newlines

/-!
# Grammar — reading with carriage returns as line feeds

To the grammar a carriage return is what a line feed is: a blank between lexemes, and in a literal a
character that no escape changes.  **So a text with every carriage return made a line feed is read
on to the same place** (`Reads.turned`), **and stops there for the same reason** (`Stops.turned`).
-/

namespace Lexis

open Text (turn turned)

/-! ### Literals -/

theorem Literal.body_turned (escaped : Bool) (text : List Char) :
    body escaped (turned text) = (body escaped text).map fun t => (turned t.1, turned t.2) := by
  induction text generalizing escaped with
  | nil => cases escaped <;> rfl
  | cons c text ih =>
      have step : ∀ (escaped : Bool) (f g : List Char × List Char → List Char × List Char),
          (∀ t, f (turned t.1, turned t.2) = (turned (g t).1, turned (g t).2)) →
          (body escaped (turned text)).map f =
            ((body escaped text).map g).map fun t => (turned t.1, turned t.2) := by
        intro escaped f g hfg
        rw [ih, Option.map_map, Option.map_map]
        exact congrArg (Option.map · (body escaped text)) (funext hfg)
      by_cases hc : c = '\r'
      · -- no escape changes it, nor the line feed in its place
        subst hc
        rw [Text.turned_cons,
          body_cons_of_plain (c := turn '\r') (by decide) (by decide) (by decide),
          body_cons_of_plain (c := '\r') (by decide) (by decide) (by decide)]
        exact step false _ _ fun t => rfl
      · have hself : turn c = c := Text.turn_eq_self hc
        have both : ∀ (d : Char) (t : List Char × List Char), turn d = d →
            consBoth c d (turned t.1, turned t.2) =
              (turned (consBoth c d t).1, turned (consBoth c d t).2) := by
          intro d t hd
          rw [consBoth, consBoth, Text.turned_cons, Text.turned_cons, hself, hd]
        rw [Text.turned_cons, hself]
        cases escaped with
        | true =>
            rw [body, body]
            split
            · exact step true _ _ fun t => both _ t (by decide)
            · exact step false _ _ fun t => both _ t hself
        | false =>
            rw [body, body]
            split
            · exact step true _ _ fun t => by rw [Text.turned_cons, hself]
            split
            · rfl
            · exact step false _ _ fun t => both _ t hself

theorem Literal.closes_turned_iff {text : List Char} : Closes (turned text) ↔ Closes text := by
  rw [← not_iff_not, ← body_eq_none_iff, ← body_eq_none_iff, body_turned, Option.map_eq_none_iff]

/-! ### Lexemes -/

theorem Word.exists_turned (w : Word) :
    ∃ w' : Word, w'.text = turned w.text ∧ w'.what = w.what ∧ w'.continues = w.continues := by
  have same (h : w.kind ≠ .string) : w.text = turned w.text :=
    (Text.turned_eq_self (not_mem_text_of_isSpace h (by decide))).symm
  cases w with
  | integer digits ne hd => exact ⟨.integer digits ne hd, same (by simp [kind]), rfl, rfl⟩
  | identifier first others hf ho =>
      exact ⟨.identifier first others hf ho, same (by simp [kind]), rfl, rfl⟩
  | literal pieces =>
      have hbody := Literal.body_turned false (Literal.sources pieces ++ [quote])
      rw [Literal.body_sources, Option.map_some] at hbody
      obtain ⟨pieces', -, -, hsources, -⟩ := Literal.body_eq_some_iff.mp hbody
      have hquote : turn quote = quote := by decide
      refine ⟨.literal pieces', ?_, rfl, rfl⟩
      simp only [Word.text, Text.turned_cons, Text.turned_append, hquote, Text.turned_nil]
      exact congrArg (fun t => quote :: (t ++ [quote])) hsources.symm

theorem Lexeme.exists_turned (x : Lexeme) :
    ∃ y : Lexeme, y.text = turned x.text ∧ (y.IsWord → x.IsWord) := by
  match x with
  | .filler (.blank c hc) =>
      have hblank : turn c ∈ [' ', '\t', '\n', '\r'] := by
        rw [turn]
        split
        · simp
        · exact hc
      exact ⟨.filler (.blank (turn c) hblank), rfl, id⟩
  | .filler (.mark m) =>
      have hmark : turn m.char = m.char := by cases m <;> rfl
      exact ⟨.filler (.mark m), congrArg (fun c => [c]) hmark.symm, id⟩
  | .word w =>
      obtain ⟨w', htext, -, -⟩ := w.exists_turned
      exact ⟨.word w', htext, fun _ => trivial⟩

/-! ### Reading -/

theorem Follows.turned {text : List Char} (h : Follows text) : Follows (Text.turned text) := by
  cases text with
  | nil => exact h
  | cons c text =>
      intro d hd
      obtain rfl : turn c = d := by simpa using hd
      by_cases hc : c = '\r'
      · exact .inl (by rw [hc]; rfl)
      · rw [Text.turn_eq_self hc]
        exact h c rfl

/-- **A text is read with its carriage returns made line feeds.** -/
theorem Reads.turned {text rest : List Char} {xs : List Lexeme} (h : Reads text xs rest) :
    ∃ ys, Reads (Text.turned text) ys (Text.turned rest) := by
  induction h with
  | done text => exact ⟨[], .done _⟩
  | @more x xs text rest hx _ ih =>
      obtain ⟨ys, hys⟩ := ih
      obtain ⟨y, htext, hword⟩ := x.exists_turned
      refine ⟨y :: ys, ?_⟩
      rw [Text.turned_append, ← htext]
      exact .more (fun hy => (hx (hword hy)).turned) hys

/-- **A text stops where it does, with its carriage returns made line feeds.** -/
theorem Stops.turned {text : List Char} {n : Nat} {kind : FaultKind} {detail : String}
    (h : Stops text n kind detail) : Stops (Text.turned text) n kind detail := by
  have behind (w : Word) {c : Char} (rest : List Char) (hc : w.Intrudes c) :
      ∃ w' : Word, w'.text.length = w.text.length ∧ w'.what = w.what ∧ w'.Intrudes c ∧
        Text.turned (w.text ++ c :: rest) = w'.text ++ c :: Text.turned rest := by
    obtain ⟨w', htext, hwhat, hcontinues⟩ := w.exists_turned
    have hself : turn c = c := Text.turn_eq_self (ne_of_isSpace hc.isSpace (by decide))
    refine ⟨w', by rw [htext, Text.length_turned], hwhat,
      ⟨by rw [hcontinues]; exact hc.1, hc.2⟩, ?_⟩
    rw [Text.turned_append, Text.turned_cons, hself, htext]
  cases h with
  | @misplaced w c rest hc hs =>
      obtain ⟨w', hlength, hwhat, hc', htext⟩ := behind w rest hc
      rw [htext, ← hlength, ← hwhat]
      exact .misplaced hc' hs
  | @foreign w c rest hc hs =>
      obtain ⟨w', hlength, -, hc', htext⟩ := behind w rest hc
      rw [htext, ← hlength]
      exact .foreign hc' hs
  | @unclosed rest h => exact .unclosed (Literal.closes_turned_iff.not.mpr h)
  | @illegal c rest h =>
      have hself : turn c = c := Text.turn_eq_self (ne_of_isSpace (illegal_iff.mp h).1 (by decide))
      rw [Text.turned_cons, hself]
      exact .illegal h

end Lexis

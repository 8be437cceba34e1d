import Lexis.Proofs.Grammar.Reading
import Lexis.Proofs.Text.Carriage

/-!
# Grammar — reading without carriage returns

A text with paired carriage returns reads without them as it does with them.  A blank is lost with
each line end between lexemes, and a literal that goes over line ends stands for a text with
shorter ones, whatever escape a line end meets there (`Literal.body_dropCarriages`).  `Shortens`
relates the lexemes of the two texts.

**Without carriage returns the text is read on to the same place** (`Reads.exists_shortens`), **and
stops there for the same reason** (`Stops.dropCarriages`).
-/

namespace Lexis

open Text (PairsCarriages dropCarriages shortenNewlines)

/-- What a lexeme says, with shorter line ends. -/
def shortenedPair (pair : Kind × String) : Kind × String :=
  (pair.1, String.ofList (shortenNewlines pair.2.toList))

/-! ### Literals -/

namespace Literal

/-- A character that no escape changes is passed alike in an escape and out of it. -/
theorem body_cons_of_plain {c : Char} (hn : c ≠ 'n') (he : c ≠ escape) (hq : c ≠ quote)
    (escaped : Bool) (text : List Char) :
    body escaped (c :: text) = (body false text).map (consBoth c c) := by
  cases escaped with
  | true => rw [body, if_neg hn]
  | false => rw [body, if_neg he, if_neg hq]

/-- **Without its carriage returns a literal ends where it does with them**, and decodes to the text
with shorter line ends.  An escape ends at a carriage return or, without it, at the line feed. -/
theorem body_dropCarriages {text : List Char} (h : PairsCarriages text) (escaped : Bool) :
    body escaped (dropCarriages text) =
      (body escaped text).map fun t => (dropCarriages t.1, shortenNewlines t.2) := by
  induction h using PairsCarriages.induction_on generalizing escaped with
  | nil => cases escaped <;> rfl
  | ending rest _ _ ih =>
      -- no escape changes either character, so none is left behind the line end
      have hfeed := body_cons_of_plain (c := '\n') (by decide) (by decide) (by decide)
      have hcarriage := body_cons_of_plain (c := '\r') (by decide) (by decide) (by decide)
      rw [Text.dropCarriages_carriage_cons, Text.dropCarriages_cons (by decide), hfeed, hcarriage,
        hfeed, ih, Option.map_map, Option.map_map, Option.map_map]
      refine congrArg (Option.map · (body false rest)) ?_
      funext t
      simp [consBoth, shortenNewlines, Text.dropCarriages_cons]
  | other c rest _ _ hc ih =>
      have step : ∀ (escaped : Bool) (f g : List Char × List Char → List Char × List Char),
          (∀ t, f (dropCarriages t.1, shortenNewlines t.2) =
            (dropCarriages (g t).1, shortenNewlines (g t).2)) →
          (body escaped (dropCarriages rest)).map f = ((body escaped rest).map g).map fun t =>
            (dropCarriages t.1, shortenNewlines t.2) := by
        intro escaped f g hfg
        rw [ih, Option.map_map, Option.map_map]
        exact congrArg (Option.map · (body escaped rest)) (funext hfg)
      have both : ∀ (d : Char) (t : List Char × List Char), d ≠ '\r' →
          consBoth c d (dropCarriages t.1, shortenNewlines t.2) =
            (dropCarriages (consBoth c d t).1, shortenNewlines (consBoth c d t).2) := by
        intro d t hd
        rw [consBoth, consBoth, Text.dropCarriages_cons hc, Text.shortenNewlines_cons hd]
      rw [Text.dropCarriages_cons hc]
      cases escaped with
      | true =>
          rw [body, body]
          split
          · exact step true _ _ fun t => both _ t (by decide)
          · exact step false _ _ fun t => both _ t hc
      | false =>
          rw [body, body]
          split
          · exact step true _ _ fun t => by rw [Text.dropCarriages_cons hc]
          split
          · rfl
          · exact step false _ _ fun t => both _ t hc

theorem closes_dropCarriages_iff {text : List Char} (h : PairsCarriages text) :
    Closes (dropCarriages text) ↔ Closes text := by
  rw [← not_iff_not, ← body_eq_none_iff, ← body_eq_none_iff, body_dropCarriages h,
    Option.map_eq_none_iff]

end Literal

/-! ### Lexemes -/

/-- A word without its carriage returns is a word of its kind, with a value of shorter line ends. -/
theorem Word.exists_dropCarriages {w : Word} {after : List Char}
    (h : PairsCarriages (w.text ++ after)) :
    ∃ w' : Word, w'.text = dropCarriages w.text ∧
      (w'.kind, w'.value) = shortenedPair (w.kind, w.value) ∧
      w'.what = w.what ∧ w'.continues = w.continues := by
  have same : w.kind ≠ .string → w.value = String.ofList w.text →
      w.text = dropCarriages w.text ∧ (w.kind, w.value) = shortenedPair (w.kind, w.value) := by
    intro hkind hvalue
    have hmem : '\r' ∉ w.text := not_mem_text_of_isSpace hkind (by decide)
    rw [Text.dropCarriages_eq_self hmem, shortenedPair, hvalue, String.toList_ofList,
      Text.shortenNewlines_eq_self hmem]
    exact ⟨rfl, rfl⟩
  cases w with
  | integer digits ne hd =>
      obtain ⟨htext, hpair⟩ := same (by simp [kind]) rfl
      exact ⟨.integer digits ne hd, htext, hpair, rfl, rfl⟩
  | identifier first others hf ho =>
      obtain ⟨htext, hpair⟩ := same (by simp [kind]) rfl
      exact ⟨.identifier first others hf ho, htext, hpair, rfl, rfl⟩
  | literal pieces =>
      have hquote : quote ≠ '\r' := by decide
      have htext : (Word.literal pieces).text ++ after =
          quote :: (Literal.sources pieces ++ quote :: after) := by
        simp [Word.text]
      rw [htext] at h
      have hbody := Literal.body_dropCarriages h.tail false
      rw [Literal.body_sources, Option.map_some] at hbody
      obtain ⟨pieces', -, -, hsources, hdecodings⟩ := Literal.body_eq_some_iff.mp hbody
      refine ⟨.literal pieces', ?_, ?_, rfl, rfl⟩
      · rw [Word.text, Word.text, ← hsources, Text.dropCarriages_cons hquote,
          Text.dropCarriages_append, Text.dropCarriages_cons hquote, Text.dropCarriages_nil]
      · simp [shortenedPair, Word.kind, Word.value, ← hdecodings]

/-- The second lexemes are the first without their carriage returns, and say what these do. -/
inductive Shortens : List Lexeme → List Lexeme → Prop where
  | nil : Shortens [] []
  | skip {x : Lexeme} {xs ys : List Lexeme} (htext : dropCarriages x.text = [])
      (hpair : x.pair? = none) (h : Shortens xs ys) : Shortens (x :: xs) ys
  | keep {x y : Lexeme} {xs ys : List Lexeme} (htext : y.text = dropCarriages x.text)
      (hpair : y.pair? = x.pair?.map shortenedPair) (h : Shortens xs ys) :
      Shortens (x :: xs) (y :: ys)

theorem Shortens.texts_eq {xs ys : List Lexeme} (h : Shortens xs ys) :
    Lexeme.texts ys = dropCarriages (Lexeme.texts xs) := by
  induction h with
  | nil => rfl
  | skip htext _ _ ih => rw [Lexeme.texts_cons, Text.dropCarriages_append, htext, ih]; rfl
  | keep htext _ _ ih =>
      rw [Lexeme.texts_cons, Lexeme.texts_cons, Text.dropCarriages_append, htext, ih]

/-- A lexeme is lost without its carriage returns, or leaves one that says what it does. -/
theorem Lexeme.shortens_cons {x : Lexeme} {after : List Char}
    (h : PairsCarriages (x.text ++ after)) :
    (dropCarriages x.text = [] ∧ x.pair? = none) ∨
      ∃ y : Lexeme, y.text = dropCarriages x.text ∧ y.pair? = x.pair?.map shortenedPair ∧
        (y.IsWord → x.IsWord) := by
  match x with
  | .filler (.blank c hc) =>
      by_cases hcarriage : c = '\r'
      · exact .inl ⟨by simp [text, Filler.char, hcarriage], rfl⟩
      · exact .inr ⟨.filler (.blank c hc),
          by simp [text, Filler.char, Text.dropCarriages_cons hcarriage], rfl, id⟩
  | .filler (.mark m) =>
      refine .inr ⟨.filler (.mark m), ?_, ?_, id⟩
      · cases m <;> rfl
      · cases m <;> rfl
  | .word w =>
      obtain ⟨w', htext, hpair, -⟩ := Word.exists_dropCarriages h
      exact .inr ⟨.word w', htext, congrArg some hpair, fun _ => trivial⟩

/-! ### Reading -/

/-- What may follow a word may follow it without carriage returns. -/
theorem Follows.dropCarriages {text : List Char} (hf : Follows text) (h : PairsCarriages text) :
    Follows (dropCarriages text) := by
  cases text with
  | nil => exact hf
  | cons c text =>
      by_cases hc : c = '\r'
      · subst hc
        obtain ⟨rest, rfl, -⟩ := h.exists_feed
        rw [Text.dropCarriages_carriage_cons, Text.dropCarriages_cons (by decide)]
        intro d hd
        obtain rfl : '\n' = d := by simpa using hd
        exact .inl rfl
      · rw [Text.dropCarriages_cons hc]
        exact fun d hd => hf d hd

/-- **A text is read without its carriage returns as it is with them.** -/
theorem Reads.exists_shortens {text rest : List Char} {xs : List Lexeme} (h : Reads text xs rest)
    (hpairs : PairsCarriages text) :
    ∃ ys, Shortens xs ys ∧ Reads (dropCarriages text) ys (dropCarriages rest) := by
  induction h with
  | done text => exact ⟨[], .nil, .done _⟩
  | @more x xs text rest hx h ih =>
      obtain ⟨ys, hys, hreads⟩ := ih hpairs.of_append
      rcases Lexeme.shortens_cons hpairs with ⟨htext, hpair⟩ | ⟨y, htext, hpair, hword⟩
      · refine ⟨ys, .skip htext hpair hys, ?_⟩
        rwa [Text.dropCarriages_append, htext, List.nil_append]
      · refine ⟨y :: ys, .keep htext hpair hys, ?_⟩
        rw [Text.dropCarriages_append, ← htext]
        exact .more (fun hw => (hx (hword hw)).dropCarriages hpairs.of_append) hreads

/-- What intrudes on a word is no blank. -/
theorem Word.Intrudes.isSpace {w : Word} {c : Char} (h : w.Intrudes c) : isSpace c = false := by
  simpa using fun hspace => h.2 (.inl hspace)

/-- At a stop there is a character, and no blank. -/
theorem Stops.drop_eq_cons {text : List Char} {n : Nat} {kind : FaultKind} {detail : String}
    (h : Stops text n kind detail) : ∃ c rest, text.drop n = c :: rest ∧ isSpace c = false := by
  cases h with
  | @misplaced w c rest hc hs => exact ⟨c, rest, List.drop_left, hc.isSpace⟩
  | @foreign w c rest hc hs => exact ⟨c, rest, List.drop_left, hc.isSpace⟩
  | @unclosed rest h => exact ⟨quote, rest, rfl, rfl⟩
  | @illegal c rest h => exact ⟨c, rest, rfl, (illegal_iff.mp h).1⟩

/-- A word, and what intrudes on it, without carriage returns. -/
theorem Word.Intrudes.exists_dropCarriages {w : Word} {c : Char} {rest : List Char}
    (hc : w.Intrudes c) (h : PairsCarriages (w.text ++ c :: rest)) :
    ∃ w' : Word, w'.text = dropCarriages w.text ∧ w'.what = w.what ∧ w'.Intrudes c ∧
      dropCarriages (w.text ++ c :: rest) = w'.text ++ c :: dropCarriages rest := by
  have hne : c ≠ '\r' := ne_of_isSpace hc.isSpace (by decide)
  obtain ⟨w', htext, -, hwhat, hcontinues⟩ := Word.exists_dropCarriages h
  refine ⟨w', htext, hwhat, ⟨by rw [hcontinues]; exact hc.1, hc.2⟩, ?_⟩
  rw [Text.dropCarriages_append, Text.dropCarriages_cons hne, htext]

/-- **A text stops without its carriage returns as it does with them.** -/
theorem Stops.dropCarriages {text : List Char} {n : Nat} {kind : FaultKind} {detail : String}
    (h : Stops text n kind detail) (hpairs : PairsCarriages text) :
    Stops (dropCarriages text) (Text.dropCarriages (text.take n)).length kind detail := by
  cases h with
  | @misplaced w c rest hc hs =>
      obtain ⟨w', htext, hwhat, hc', hdrop⟩ := hc.exists_dropCarriages hpairs
      rw [List.take_left, hdrop, ← htext, ← hwhat]
      exact .misplaced hc' hs
  | @foreign w c rest hc hs =>
      obtain ⟨w', htext, -, hc', hdrop⟩ := hc.exists_dropCarriages hpairs
      rw [List.take_left, hdrop, ← htext]
      exact .foreign hc' hs
  | @unclosed rest h =>
      rw [Text.dropCarriages_cons (by decide)]
      exact .unclosed ((Literal.closes_dropCarriages_iff hpairs.tail).not.mpr h)
  | @illegal c rest h =>
      rw [Text.dropCarriages_cons (ne_of_isSpace (illegal_iff.mp h).1 (by decide))]
      exact .illegal h

end Lexis

import Lexis.Proofs.Cursor.Between
import Lexis.Proofs.Grammar.Reading
import Lexis.Proofs.Text.Numeral
import Lexis.Turn

/-!
# Scan — one turn

What a turn does at a cursor in step with its source.  A text that begins with a lexeme is read
over that lexeme, to its token if it makes one (`turn_lexeme`).  A text that stops gives a fault at
the place where it stops (`turn_stops`).  Both come from what a turn does at a word that ends with
its run (`turn_word`).
-/

namespace Lexis

/-- The token of a lexeme between two parts of a source. -/
def Lexeme.token? (filename : String) (line : Int) (before after : List Char) (x : Lexeme) :
    Option Token :=
  x.pair?.map fun pair =>
    ⟨pair.1, pair.2, filename,
      String.ofList (Text.lastLine before ++ Text.firstLine (x.text ++ after)),
      .behind line before, .behind line (before ++ x.text)⟩

namespace Cursor

variable {filename : String} {line : Int} {before after : List Char}

/-! ### Words -/

/-- A run of a class, read. -/
theorem readRun_between (filename : String) (line : Int) (before : List Char) {run : List Char}
    {among : Char → Bool} (hfeed : among '\n' = false) (hrun : ∀ c ∈ run, among c = true)
    (hafter : ∀ c ∈ after.head?, among c = false) (kind : Kind) (what : String) :
    (between filename line before (run ++ after)).readRun among kind what =
      (between filename line (before ++ run) after).finishWord what kind (String.ofList run)
        (.behind line before) (between filename line before (run ++ after)).lineText := by
  have hne : ∀ c ∈ run, c ≠ '\n' := fun c hc h => by
    rw [h] at hc
    simp [hrun _ hc] at hfeed
  rw [readRun, between_rest, Text.takeWhile_run hrun hafter, advanceBy_between hne]
  rfl

/-- A literal that is closed, read: what is behind it must be such that a word may end there. -/
theorem readString_sources (filename : String) (line : Int) (before : List Char)
    (pieces : List Literal.Piece) (after : List Char) :
    (between filename line before
        (quote :: (Literal.sources pieces ++ quote :: after))).readString =
      (between filename line (before ++ [quote] ++ Literal.sources pieces ++ [quote])
        after).finishWord "string literal" .string (String.ofList (Literal.decodings pieces))
        (.behind line before)
        (between filename line before
          (quote :: (Literal.sources pieces ++ quote :: after))).lineText := by
  have hq : quote ≠ '\n' := by decide
  rw [readString, between_rest, List.tail_cons, Literal.body_sources]
  simp only
  rw [advance_between hq, stepBy_between, advance_between hq]
  rfl

/-- A literal that is open, read: a fault at its quote, and nothing is left. -/
theorem readString_of_not_closes {rest : List Char} (h : ¬ Literal.Closes rest) (filename : String)
    (line : Int) (before : List Char) :
    (between filename line before (quote :: rest)).readString =
      (between filename line (before ++ quote :: rest) []).failAt .invalidSyntax
        "unterminated string literal" (.behind line before)
        (between filename line before (quote :: rest)).lineText := by
  have hq : quote ≠ '\n' := by decide
  have hsteps := stepBy_between filename line (before ++ [quote]) rest []
  rw [List.append_nil, List.append_assoc, List.singleton_append] at hsteps
  rw [readString, between_rest, List.tail_cons, Literal.body_eq_none_iff.mpr h]
  simp only
  rw [advance_between hq, hsteps]
  rfl

/-- A turn at a quote reads a literal. -/
theorem turn_quote (filename : String) (line : Int) (before rest : List Char) :
    (between filename line before (quote :: rest)).turn =
      (between filename line before (quote :: rest)).readString := by
  rw [turn, between_current?, List.head?_cons]
  rfl

/-- **A turn at a word that ends with its run** passes the word, and looks at what is behind it. -/
theorem turn_word (w : Word) (hafter : ∀ c ∈ after.head?, w.continues c = false) :
    (between filename line before (w.text ++ after)).turn =
      (between filename line (before ++ w.text) after).finishWord w.what w.kind w.value
        (.behind line before) (between filename line before (w.text ++ after)).lineText := by
  cases w with
  | integer digits ne h =>
      obtain ⟨d, ds, rfl⟩ := List.exists_cons_of_ne_nil ne
      have hd : isDigit d = true := h d List.mem_cons_self
      have hs : isSpace d = false := isSpace_of_isLetterOrDigit (by simp [isLetterOrDigit, hd])
      have hrun := readRun_between filename line before (by decide) h hafter .integer
        "integer literal"
      rw [turn, between_current?, Word.text, List.cons_append, List.head?_cons]
      simp only [hs, hd, Bool.false_eq_true, if_false, if_true]
      exact hrun
  | identifier first others hf ho =>
      have hl : isLetter first = true := isLetter_eq_true_iff.mpr hf
      have hs : isSpace first = false := isSpace_of_isLetterOrDigit (by simp [isLetterOrDigit, hl])
      have hd : isDigit first = false := isDigit_of_isLetter hl
      have hall : ∀ c ∈ first :: others, isLetterOrDigit c = true := by
        rw [List.forall_mem_cons]
        exact ⟨by simp [isLetterOrDigit, hl], fun c hc => isLetterOrDigit_iff.mpr (ho c hc)⟩
      have hrun := readRun_between filename line before (by decide) hall hafter .identifier
        "identifier"
      rw [turn, between_current?, Word.text, List.cons_append, List.head?_cons]
      simp only [hs, hd, hl, Bool.false_eq_true, if_false, if_true]
      exact hrun
  | literal pieces =>
      have htext : (Word.literal pieces).text ++ after =
          quote :: (Literal.sources pieces ++ quote :: after) := by
        simp [Word.text]
      have hbefore : before ++ (Word.literal pieces).text =
          before ++ [quote] ++ Literal.sources pieces ++ [quote] := by
        simp [Word.text]
      rw [htext, hbefore, turn_quote, readString_sources]
      rfl

/-- A word is read where what is behind it may follow a word. -/
theorem finishWord_of_follows (h : Follows after) (what : String) (kind : Kind) (value : String)
    (start : Position) (lineText : String) :
    (between filename line before after).finishWord what kind value start lineText =
      (between filename line before after).finish kind value start lineText := by
  have hnone : (between filename line before after).intruder? = none := by
    rw [intruder?, between_current?, Option.filter_eq_none_iff]
    intro c hc
    simpa [IsFollower, or_iff_not_imp_left] using h c hc
  rw [finishWord, hnone]

/-- A word is rejected where what is behind it may not follow a word. -/
theorem finishWord_of_intruder {c : Char} (h : ¬ IsFollower c) (what : String) (kind : Kind)
    (value : String) (start : Position) (lineText : String) :
    (between filename line before (c :: after)).finishWord what kind value start lineText =
      (between filename line before (c :: after)).reject what c := by
  have hsome : (between filename line before (c :: after)).intruder? = some c := by
    rw [intruder?, between_current?, List.head?_cons]
    simpa [Option.filter, IsFollower] using h
  rw [finishWord, hsome]

/-! ### Lexemes and stops -/

/-- **A turn at a lexeme** reads it. -/
theorem turn_lexeme {x : Lexeme} (hx : x.IsWord → Follows after) :
    (between filename line before (x.text ++ after)).turn =
      ⟨(x.token? filename line before after).elim .nothing .token,
        between filename line (before ++ x.text) after⟩ := by
  match x with
  | .filler (.blank c h) =>
      have hs : isSpace c = true := isSpace_iff.mpr h
      rw [turn, between_current?]
      simp only [Lexeme.text, Filler.char, List.singleton_append, List.head?_cons, hs, if_true,
        step_between]
      rfl
  | .filler (.mark m) =>
      have hclasses : isSpace m.char = false ∧ isDigit m.char = false ∧ isLetter m.char = false ∧
          m.char ≠ '\n' := by
        cases m <;> decide
      obtain ⟨hs, hd, hl, hne⟩ := hclasses
      rw [turn, between_current?]
      simp only [Lexeme.text, Filler.char, List.singleton_append, List.head?_cons, hs, hd, hl,
        Bool.false_eq_true, if_false, Mark.ofPunctuation?_char, advance_between hne]
      rfl
  | .word w =>
      have hfollows : Follows after := hx trivial
      have hcont : ∀ c ∈ after.head?, w.continues c = false := fun c hc =>
        w.continues_of_isFollower (hfollows c hc)
      exact (turn_word w hcont).trans (finishWord_of_follows hfollows _ _ _ _ _)

/-- **A turn at a stop** comes upon its fault. -/
theorem turn_stops {text : List Char} {n : Nat} {kind : FaultKind} {detail : String}
    (h : Stops text n kind detail) (filename : String) (line : Int) (before : List Char) :
    (between filename line before text).turn.reading =
      .fault ((between filename line (before ++ text.take n) (text.drop n)).fault kind detail) := by
  cases h with
  | @misplaced w c rest hc hs =>
      rw [turn_word w (by simpa using hc.1), finishWord_of_intruder hc.2, reject, if_pos hs,
        List.take_left, List.drop_left]
      rfl
  | @foreign w c rest hc hs =>
      rw [turn_word w (by simpa using hc.1), finishWord_of_intruder hc.2, reject,
        if_neg (by simp [hs]), List.take_left, List.drop_left]
      rfl
  | @unclosed rest h =>
      rw [turn_quote, readString_of_not_closes h, List.take_zero, List.append_nil, List.drop_zero]
      rfl
  | @illegal c rest h =>
      obtain ⟨hs, hld, hm, hq⟩ := illegal_iff.mp h
      obtain ⟨hl, hd⟩ := Bool.or_eq_false_iff.mp hld
      rw [turn, between_current?, List.take_zero, List.append_nil, List.drop_zero]
      simp only [List.head?_cons, hs, hd, hl, hm, hq, Bool.false_eq_true, if_false]
      rfl

end Cursor

end Lexis

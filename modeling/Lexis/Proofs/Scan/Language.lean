import Lexis.Proofs.Scan.Run

/-!
# Scan — the language

A source tokenizes exactly when it is the text of a layout: fillers and words, with a filler
between each two words.  Its tokens are then those of the layout's marks and words, in order, and
an end-of-file token (`tokenizes_iff_layout`).
-/

namespace Lexis

/-- What a token says, apart from where it stands. -/
def Token.pair (t : Token) : Kind × String :=
  (t.kind, t.value)

/-- The tokens of lexemes say what the lexemes do. -/
theorem Lexeme.map_pair_tokens (filename : String) (line : Int) (before : List Char)
    (xs : List Lexeme) (after : List Char) :
    (tokens filename line before xs after).map Token.pair = pairs xs := by
  induction xs generalizing before with
  | nil => rfl
  | cons x xs ih =>
      rw [tokens, List.map_append, ih, pairs, pairs, List.filterMap_cons, token?]
      cases x.pair? with
      | none => rfl
      | some pair => rfl

/-- The text of a layout is read to its end. -/
theorem Layout.reads {l : Layout} {source : String} (h : l.source = source) :
    Reads source.toList l.lexemes [] := by
  rw [reads_nil_iff, ← h, Layout.source, String.toList_ofList]
  exact ⟨rfl, l.sparse_lexemes⟩

/-- **The accepted language and its meaning.**  A source tokenizes exactly when it is the text of a
layout; and by every such layout the tokens in front of the end-of-file token are those of the
layout's marks and words. -/
theorem tokenizes_iff_layout (source filename : String) (line : Int) :
    (Tokenizes source filename line ↔ ∃ l : Layout, l.source = source) ∧
      ∀ l : Layout, l.source = source → ∃ tokens eof,
        tokenize source filename line = .ok (tokens ++ [eof]) ∧ eof.kind = .eof ∧
          tokens.map Token.pair = l.pairs := by
  refine ⟨?_, fun l hl => ?_⟩
  · rw [tokenizes_iff]
    constructor
    · rintro ⟨xs, hreads⟩
      obtain ⟨htext, hsparse⟩ := reads_nil_iff.mp hreads
      obtain ⟨l, rfl⟩ := Layout.exists_layout hsparse
      exact ⟨l, by rw [Layout.source, ← htext, String.ofList_toList]⟩
    · rintro ⟨l, hl⟩
      exact ⟨_, Layout.reads hl⟩
  · exact ⟨_, _, tokenize_of_reads (Layout.reads hl) filename line, closingMark_kind _ _ _ _,
      Lexeme.map_pair_tokens _ _ _ _ _⟩

/-- A call with a number and a literal in which an escaped `n` leaves a quote escaped. -/
theorem tokenizes_iff_layout_call :
    ∃ tokens eof, tokenize "f(12, \"a\\n\"b\")" "input" 0 = .ok (tokens ++ [eof]) ∧
      eof.kind = .eof ∧ tokens.map Token.pair =
        [(.identifier, "f"), (.lparen, "("), (.integer, "12"), (.comma, ","),
          (.string, "a\n\"b"), (.rparen, ")")] :=
  (tokenizes_iff_layout "f(12, \"a\\n\"b\")" "input" 0).2
    ⟨[], [(.identifier 'f' [] (by decide) (by simp), [.mark .lparen]),
      (.integer ['1', '2'] (by simp) (by simp), [.mark .comma, .blank ' ' (by simp)]),
      (.literal [.plain 'a' (by decide), .escaped 1 '"' (by decide), .plain 'b' (by decide)],
        [.mark .rparen])], by simp⟩
    (by decide)

end Lexis

import Lexis.Proofs.Dump.Rows
import Lexis.Proofs.Scan.Closing
import Mathlib.Data.List.Forall2

/-!
# Dump — a dump tells its tokens

Tokens are dumped alike when they have the same rows.  They are then of the same kinds and at the
same lines and columns, and they have the same values where end-of-file tokens have none
(`Token.Alike`).  In the tokens of a source an index is always the column, so that they are then the
same but for the name of the file and the texts of the lines (`Token.Agrees`).

**A dump as text is unambiguous** (`Format.write?_text_unambiguous`).
-/

namespace Lexis

/-! ### Tokens that are dumped alike -/

/-- Items of two lists that are related one by one are related in another way that follows. -/
theorem forall₂_of_mem {α β : Type} {R S : α → β → Prop} {l : List α} {l' : List β}
    (h : List.Forall₂ R l l') (himp : ∀ a ∈ l, ∀ b ∈ l', R a b → S a b) : List.Forall₂ S l l' := by
  refine List.forall₂_iff_zip.mpr ⟨h.length_eq, fun {a b} hmem => ?_⟩
  have hmems := List.of_mem_zip hmem
  exact himp a hmems.1 b hmems.2 ((List.forall₂_iff_zip.mp h).2 hmem)

/-- Two tokens have the same kind, value, and start and stop, as to lines and columns. -/
structure Token.Alike (t t' : Token) : Prop where
  kind        : t.kind = t'.kind
  value       : t.value = t'.value
  startLine   : t.start.line = t'.start.line
  startColumn : t.start.column = t'.start.column
  stopLine    : t.stop.line = t'.stop.line
  stopColumn  : t.stop.column = t'.stop.column

/-- An end-of-file token has no value. -/
def Token.Plain (t : Token) : Prop :=
  t.kind = .eof → t.value = ""

theorem Token.alike_of_row_eq {t t' : Token} (ht : t.Plain) (ht' : t'.Plain)
    (h : t.row = t'.row) : t.Alike t' := by
  simp only [row, Row.mk.injEq, Int.add_left_inj] at h
  obtain ⟨hstartLine, hstartColumn, hstopLine, hstopColumn, hkind, hvalue⟩ := h
  refine ⟨hkind, ?_, hstartLine, hstartColumn, hstopLine, hstopColumn⟩
  by_cases heof : t'.kind = .eof
  · rw [ht (hkind.trans heof), ht' heof]
  · rwa [if_neg heof, hkind, if_neg heof, Option.some.injEq] at hvalue

/-- Two tokens differ at most in the name of the file and in the text of the line. -/
def Token.Agrees (t t' : Token) : Prop :=
  { t with filename := t'.filename, lineText := t'.lineText } = t'

theorem Position.eq_of_index_eq_column {p p' : Position} (hp : p.index = p.column)
    (hp' : p'.index = p'.column) (hline : p.line = p'.line) (hcolumn : p.column = p'.column) :
    p = p' := by
  rw [Position.mk.injEq]
  exact ⟨by rw [hp, hcolumn, hp'], hline, hcolumn⟩

/-- Tokens that are placed in texts agree where they are dumped alike. -/
theorem Token.Alike.agrees {t t' : Token} {text text' : List Char} {line line' : Int}
    (h : t.Alike t') (ht : t.IsPlaced text line) (ht' : t'.IsPlaced text' line') : t.Agrees t' := by
  have hstart : t.start = t'.start :=
    Position.eq_of_index_eq_column ht.1.2.1 ht'.1.2.1 h.startLine h.startColumn
  have hstop : t.stop = t'.stop :=
    Position.eq_of_index_eq_column ht.2.2.1 ht'.2.2.1 h.stopLine h.stopColumn
  rw [Agrees, Token.mk.injEq]
  exact ⟨h.kind, h.value, rfl, rfl, hstart, hstop⟩

/-- The tokens of a source are placed in it, and their end-of-file token has no value. -/
theorem tokenize_placed {source filename : String} {line : Int} {tokens : List Token}
    (h : tokenize source filename line = .ok tokens) :
    (∀ t ∈ tokens, t.IsPlaced source.toList line) ∧ ∀ t ∈ tokens, t.Plain := by
  have hscan : (scan source filename line).tokens = tokens :=
    congrArg Scan.tokens (tokenize_eq_ok_iff.mp h)
  obtain ⟨front, last, hfront, hkind, -, hvalue, -⟩ := scan_closes source filename line
  refine ⟨hscan ▸ isPlaced_of_mem_scan source filename line, ?_⟩
  rw [← hscan, hfront, List.forall_mem_append, List.forall_mem_singleton]
  exact ⟨fun t ht heof => absurd heof (hkind t ht), fun _ => hvalue⟩

/-! ### Unambiguous dumps -/

/-- **A dump as text is unambiguous.**  There is one exactly where every line and every column,
counted from one, has few enough digits to be written.  It has one row for each token, with a line
feed behind each row and no other line terminator.  Where end-of-file tokens have no value, tokens
that are dumped alike are as many, and they have the same kinds, values, lines and columns; the
tokens of two sources then differ at most in the name of the file and in the texts of the lines. -/
theorem Format.write?_text_unambiguous (tokens : List Token) :
    ((∃ dump, Format.text.write? tokens = some dump) ↔
      ∀ t ∈ tokens, ∀ p ∈ [t.start, t.stop],
        Text.isWritable (p.line + 1) = true ∧ Text.isWritable (p.column + 1) = true) ∧
    ∀ dump, Format.text.write? tokens = some dump →
      (∃ rows : List (List Char), rows.length = tokens.length ∧
        dump.toList = rows.flatMap (· ++ ['\n']) ∧
        ∀ row ∈ rows, ∀ c ∈ Text.terminators, c ∉ row) ∧
      ∀ tokens', Format.text.write? tokens' = some dump →
        ((∀ t ∈ tokens ++ tokens', t.kind = .eof → t.value = "") →
          tokens.length = tokens'.length ∧ List.Forall₂ Token.Alike tokens tokens') ∧
        ∀ source filename line source' filename' line',
          tokenize source filename line = .ok tokens →
          tokenize source' filename' line' = .ok tokens' →
          List.Forall₂ Token.Agrees tokens tokens' := by
  constructor
  · rw [exists_write?_iff]
    simp only [numbers, List.forall_mem_cons, List.not_mem_nil, IsEmpty.forall_iff, implies_true,
      and_true]
  · intro dump hdump
    obtain ⟨-, rfl⟩ := write?_eq_some_iff.mp hdump
    refine ⟨⟨_, ?_, toList_dumpText tokens, ?_⟩, fun tokens' hdump' => ?_⟩
    · rw [List.length_map, List.length_map]
    · rintro text hmem c hc
      obtain ⟨row, -, rfl⟩ := List.mem_map.mp hmem
      exact row.not_mem_text_of_mem_terminators hc
    · obtain ⟨-, hdump'⟩ := write?_eq_some_iff.mp hdump'
      have hrows := dumpText_injective hdump'.symm
      -- equal lists of rows are lists of tokens that have equal rows one by one
      rw [← List.forall₂_eq_eq_eq, List.forall₂_map_left_iff, List.forall₂_map_right_iff] at hrows
      constructor
      · intro heof
        rw [List.forall_mem_append] at heof
        have halike := forall₂_of_mem hrows fun t ht t' ht' =>
          Token.alike_of_row_eq (heof.1 t ht) (heof.2 t' ht')
        exact ⟨halike.length_eq, halike⟩
      · intro source filename line source' filename' line' htokens htokens'
        obtain ⟨hplaced, hplain⟩ := tokenize_placed htokens
        obtain ⟨hplaced', hplain'⟩ := tokenize_placed htokens'
        exact forall₂_of_mem hrows fun t ht t' ht' hrow =>
          (Token.alike_of_row_eq (hplain t ht) (hplain' t' ht') hrow).agrees (hplaced t ht)
            (hplaced' t' ht')

/-- The name of the file and a blank behind the last token are not in a dump. -/
theorem Format.write?_text_unambiguous_blank :
    ∃ tokens tokens' dump, tokenize "f(1)" "a" 0 = .ok tokens ∧
      tokenize "f(1)\t" "b" 0 = .ok tokens' ∧ tokens ≠ tokens' ∧
      Format.text.write? tokens = some dump ∧ Format.text.write? tokens' = some dump ∧
      tokens.length = tokens'.length ∧ List.Forall₂ Token.Agrees tokens tokens' := by
  let tokens (filename lineText : String) : List Token :=
    [⟨.identifier, "f", filename, lineText, ⟨0, 0, 0⟩, ⟨1, 0, 1⟩⟩,
      ⟨.lparen, "(", filename, lineText, ⟨1, 0, 1⟩, ⟨2, 0, 2⟩⟩,
      ⟨.integer, "1", filename, lineText, ⟨2, 0, 2⟩, ⟨3, 0, 3⟩⟩,
      ⟨.rparen, ")", filename, lineText, ⟨3, 0, 3⟩, ⟨4, 0, 4⟩⟩,
      .mark filename lineText ⟨4, 0, 4⟩]
  have htokens : tokenize "f(1)" "a" 0 = .ok (tokens "a" "f(1)") := by decide +kernel
  have htokens' : tokenize "f(1)\t" "b" 0 = .ok (tokens "b" "f(1)\t") := by decide +kernel
  have hexists (tokens : List Token) (hsmall : ∀ t ∈ tokens, ∀ p ∈ [t.start, t.stop],
      (p.line + 1).natAbs < 10 ∧ (p.column + 1).natAbs < 10) :
      ∃ dump, Format.text.write? tokens = some dump :=
    (write?_text_unambiguous tokens).1.mpr fun t ht p hp =>
      ⟨Text.isWritable_of_digit (hsmall t ht p hp).1, Text.isWritable_of_digit (hsmall t ht p hp).2⟩
  obtain ⟨dump, hdump⟩ := hexists (tokens "a" "f(1)") (by decide)
  obtain ⟨dump', hdump'⟩ := hexists (tokens "b" "f(1)\t") (by decide)
  obtain rfl : dump = dump' := by
    rw [← (write?_eq_some_iff.mp hdump).2, ← (write?_eq_some_iff.mp hdump').2]
    decide +kernel
  obtain ⟨halike, hagrees⟩ := ((write?_text_unambiguous _).2 dump hdump).2 _ hdump'
  exact ⟨_, _, dump, htokens, htokens', by decide +kernel, hdump, hdump',
    (halike (by decide)).1, hagrees _ _ _ _ _ _ htokens htokens'⟩

/-- There is no dump of a token on a line whose number has one digit more than the limit. -/
theorem Format.not_write?_text_long_line :
    ¬ ∃ dump, Format.text.write? [.mark "input" "" ⟨0, 10 ^ Text.digitLimit - 1, 0⟩] =
      some dump := by
  rw [exists_write?_iff]
  intro h
  have hline : Text.isWritable (10 ^ Text.digitLimit - 1 + 1) = true :=
    h _ List.mem_cons_self _ List.mem_cons_self _ List.mem_cons_self
  rw [Int.sub_add_cancel] at hline
  exact Text.not_isWritable_pow hline

end Lexis

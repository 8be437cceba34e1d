import Lexis.Proofs.Text.Fields
import Lexis.Proofs.Text.Numeral
import Lexis.Proofs.Text.Place
import Lexis.Proofs.Text.Quoted

/-!
# Text — one line

A text without line feeds is one line (`lines_eq_singleton`), and texts put together with a line
feed have the lines of both (`lines_append_feed_cons`).  Numbers and quoted texts are
such texts, whatever is quoted (`feed_not_mem_quoted`).
-/

namespace Lexis

namespace Text

/-! ### Lines put together -/

/-- At a line feed the lines of a text are those above it and those below. -/
theorem lines_append_feed_cons (above below : List Char) :
    lines (above ++ '\n' :: below) = lines above ++ lines below :=
  fields_append_cons above below

theorem lines_eq_singleton {text : List Char} (h : '\n' ∉ text) : lines text = [text] :=
  fields_eq_singleton h

/-- Two texts that are equal have the same text above their first line feeds. -/
theorem append_feed_cons_inj {above above' below below' : List Char} (h : '\n' ∉ above)
    (h' : '\n' ∉ above') (heq : above ++ '\n' :: below = above' ++ '\n' :: below') :
    above = above' := by
  have hlines := congrArg lines heq
  rw [lines_append_feed_cons, lines_append_feed_cons, lines_eq_singleton h,
    lines_eq_singleton h'] at hlines
  exact (List.cons.inj hlines).1

theorem feed_not_mem_lastLine (text : List Char) : '\n' ∉ lastLine text := by
  intro h
  simpa using List.mem_takeWhile_imp (List.mem_reverse.mp h)

theorem lastLine_eq_self {text : List Char} (h : '\n' ∉ text) : lastLine text = text := by
  have hall : ∀ c ∈ text.reverse, decide (c ≠ '\n') = true := by
    intro c hc
    simpa using fun hfeed : c = '\n' => h (hfeed ▸ List.mem_reverse.mp hc)
  rw [lastLine, List.takeWhile_eq_self_iff.mpr hall, List.reverse_reverse]

/-- In front of a line feed a character is on no last line. -/
theorem lastLine_cons_of_mem {text : List Char} (h : '\n' ∈ text) (c : Char) :
    lastLine (c :: text) = lastLine text := by
  obtain ⟨above, below, rfl⟩ := List.append_of_mem h
  rw [← List.cons_append, lastLine_append_feed_cons, lastLine_append_feed_cons]

theorem length_lastLine_le (text : List Char) : (lastLine text).length ≤ text.length := by
  have := lineOffset_add_length text []
  omega

/-! ### Texts of one line -/

theorem feed_not_mem_integer (n : Int) : '\n' ∉ (integer n).toList := by
  rw [integer, String.toList_ofList]
  intro hfeed
  rcases eq_minus_or_isDigit_of_mem_decimalInt hfeed with h | h
  · exact absurd h (by decide)
  · exact absurd h (by decide)

theorem feed_not_mem_quoted (text : String) : '\n' ∉ (quoted text).toList := by
  rw [quoted, String.toList_ofList]
  intro hfeed
  exact absurd (Quoted.isPrintable_of_mem_encode hfeed) (by decide)

end Text

end Lexis

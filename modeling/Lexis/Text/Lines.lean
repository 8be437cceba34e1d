import Lexis.Text.Fields

/-!
# Text — lines

A text falls into lines at its line feeds.  `unifyNewlines` is the reading of a text file, where
a carriage return ends a line too: it leaves no carriage return (`carriage_not_mem_unify`).
-/

namespace Lexis.Text

/-- The lines of a text, without their line feeds. -/
def lines (text : List Char) : List (List Char) :=
  fields '\n' text

/-- Every carriage return, with the line feed behind it if there is one, made a line feed. -/
def unifyNewlines : List Char → List Char
  | '\r' :: '\n' :: rest => '\n' :: unifyNewlines rest
  | '\r' :: rest         => '\n' :: unifyNewlines rest
  | c :: rest            => c :: unifyNewlines rest
  | []                   => []

/-- Every carriage return in front of a line feed left out. -/
def shortenNewlines : List Char → List Char
  | '\r' :: '\n' :: rest => '\n' :: shortenNewlines rest
  | c :: rest            => c :: shortenNewlines rest
  | []                   => []

theorem length_lines (text : List Char) : (lines text).length = text.count '\n' + 1 :=
  length_fields '\n' text

/-- A text file that has been read holds no carriage return. -/
theorem carriage_not_mem_unify (text : List Char) : '\r' ∉ unifyNewlines text := by
  fun_induction unifyNewlines text with
  | case1 rest ih => simp [ih]
  | case2 rest _ ih => simp [ih]
  | case3 c rest _ h ih =>
    have hc : c ≠ '\r' := fun hc => h hc
    simp [ih, Ne.symm hc]
  | case4 => simp

end Lexis.Text

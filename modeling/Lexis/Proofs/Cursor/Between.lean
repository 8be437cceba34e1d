import Lexis.Cursor
import Lexis.Proofs.Text.Place

/-!
# Cursor — in step with a source

`Cursor.between filename line before after` is the cursor that stands in the source text
`before ++ after` between its two parts: all of what a cursor keeps, the text ahead, the offset,
the position and the lines, is determined by them.  A scan begins at such a cursor
(`ofSource_eq`), and motions that mind line feeds lead from one to another: `step` over any
character (`stepBy_between`), `advance` over any but a line feed (`advanceBy_between`).
-/

namespace Lexis.Cursor

/-- The cursor between two parts of a source text whose first line has a given number. -/
def between (filename : String) (line : Int) (before after : List Char) : Cursor where
  filename  := filename
  rest      := after
  offset    := before.length
  position  := .behind line before
  lineIndex := before.count '\n'
  lines     := ((Text.lastLine before ++ Text.firstLine after) :: (Text.lines after).tail).map
    String.ofList

variable {filename : String} {line : Int} {before after : List Char}

/-- A scan begins in front of its source. -/
theorem ofSource_eq (source filename : String) (line : Int) :
    ofSource source filename line = between filename line [] source.toList := by
  rw [ofSource, between, Text.lines_eq_cons source.toList]
  simp

@[simp] theorem between_filename : (between filename line before after).filename = filename := rfl

@[simp] theorem between_rest : (between filename line before after).rest = after := rfl

@[simp] theorem between_offset :
    (between filename line before after).offset = before.length :=
  rfl

@[simp] theorem between_lineIndex :
    (between filename line before after).lineIndex = before.count '\n' :=
  rfl

theorem between_lines :
    (between filename line before after).lines =
      ((Text.lastLine before ++ Text.firstLine after) :: (Text.lines after).tail).map
        String.ofList :=
  rfl

@[simp] theorem between_current? :
    (between filename line before after).current? = after.head? :=
  rfl

@[simp] theorem between_position :
    (between filename line before after).position = .behind line before :=
  rfl

/-- The line of a cursor, before and after it. -/
@[simp] theorem between_lineText :
    (between filename line before after).lineText =
      String.ofList (Text.lastLine before ++ Text.firstLine after) :=
  rfl

/-! ### Motions -/

theorem advance_between {c : Char} (hc : c ≠ '\n') :
    (between filename line before (c :: after)).advance =
      between filename line (before ++ [c]) after := by
  simp [between, advance, pass, shift, Position.behind_append_singleton hc, hc,
    Text.lastLine_append_singleton hc, Text.firstLine, Text.lines_cons hc]

theorem step_between (c : Char) :
    (between filename line before (c :: after)).step =
      between filename line (before ++ [c]) after := by
  by_cases hc : c = '\n'
  · subst hc
    rw [step, between_current?, List.head?_cons, if_pos rfl]
    simp [between, nextLine, pass, Text.lines_feed_cons, ← Text.lines_eq_cons]
  · rw [step, between_current?, List.head?_cons, if_neg (by simpa using hc), advance_between hc]

theorem stepBy_between (filename : String) (line : Int) (before text after : List Char) :
    (between filename line before (text ++ after)).stepBy text.length =
      between filename line (before ++ text) after := by
  induction text generalizing before with
  | nil => rw [List.nil_append, List.append_nil]; rfl
  | cons c text ih =>
      rw [List.cons_append, List.length_cons, stepBy, step_between, ih, List.append_assoc,
        List.singleton_append]

theorem advanceBy_between {text : List Char} (h : ∀ c ∈ text, c ≠ '\n') :
    (between filename line before (text ++ after)).advanceBy text.length =
      between filename line (before ++ text) after := by
  induction text generalizing before with
  | nil => rw [List.nil_append, List.append_nil]; exact advanceBy_zero _
  | cons c text ih =>
      rw [List.cons_append, List.length_cons, advanceBy_succ,
        advance_between (h c List.mem_cons_self), ih fun d hd => h d (List.mem_cons_of_mem _ hd),
        List.append_assoc, List.singleton_append]

end Lexis.Cursor

import Lexis.Proofs.Diagnostic.Rendering
import Lexis.Proofs.Scan.Run
import Lexis.SourceFile

/-!
# Dump — rows

A dump as text is a row for each token and a line feed behind each row.  A `Row` is what is written
there: a span, with lines and columns counted from one, a kind and, but for the end of the file, a
value.  All that a row is written with is printable (`Row.isPrintable_of_mem_text`), so the line
feeds behind the rows are the only line terminators in a dump, of any sort.

**The text of a row tells the row** (`Row.text_injective`): each of the four numbers is followed by
what no numeral goes on with, although a minus sign may stand behind the `-` of the span; the kind
goes up to the space behind it; and what is left is quoted.  Hence a dump tells the rows of its
tokens (`dumpText_injective`).
-/

namespace Lexis

open Text (decimalInt)

/-! ### Printable characters -/

namespace Text

/-- The characters that end a line, by one convention or another. -/
def terminators : List Char :=
  ['\n', '\x0b', '\x0c', '\r', '\x1c', '\x1d', '\x1e', '\u0085', '\u2028', '\u2029']

theorem isPrintable_of_mem_terminators {c : Char} (h : c ∈ terminators) :
    isPrintable c = false := by
  have hall : terminators.all (fun d => !isPrintable d) = true := by decide +kernel
  simpa using List.all_eq_true.mp hall c h

theorem isPrintable_of_mem_decimalInt {n : Int} {c : Char} (h : c ∈ decimalInt n) :
    isPrintable c = true :=
  forall_mem_decimalInt (P := fun c => isPrintable c = true) (by decide) (by decide) h

end Text

/-! ### Rows -/

/-- What a dump as text says of a token. -/
structure Row where
  startLine   : Int
  startColumn : Int
  stopLine    : Int
  stopColumn  : Int
  kind        : Kind
  /-- The value, where it is written. -/
  value?      : Option String
  deriving DecidableEq

namespace Row

/-- The value behind the kind, where it is written. -/
def valueText (row : Row) : List Char :=
  match row.value? with
  | none       => []
  | some value => ' ' :: (Text.quoted value).toList

/-- A row as it is written. -/
def text (row : Row) : List Char :=
  decimalInt row.startLine ++ ':' :: (decimalInt row.startColumn ++ '-' ::
    (decimalInt row.stopLine ++ ':' :: (decimalInt row.stopColumn ++ ' ' :: ' ' ::
      (row.kind.name.toList ++ row.valueText))))

theorem isPrintable_of_mem_name {kind : Kind} {c : Char} (h : c ∈ kind.name.toList) :
    Text.isPrintable c = true := by
  have hname : ∀ kind ∈ Kind.all, kind.name.toList.all Text.isPrintable = true := by decide
  exact List.all_eq_true.mp (hname _ kind.mem_all) c h

theorem isPrintable_of_mem_valueText {row : Row} {c : Char} (h : c ∈ row.valueText) :
    Text.isPrintable c = true := by
  rw [valueText] at h
  split at h
  · exact absurd h List.not_mem_nil
  · rcases List.mem_cons.mp h with rfl | h
    · decide
    · rw [Text.quoted, String.toList_ofList] at h
      exact Text.Quoted.isPrintable_of_mem_encode h

/-- **A row is written with printable characters alone.** -/
theorem isPrintable_of_mem_text {row : Row} {c : Char} (h : c ∈ row.text) :
    Text.isPrintable c = true := by
  simp only [text, List.mem_append, List.mem_cons] at h
  rcases h with h | rfl | h | rfl | h | rfl | h | rfl | rfl | h | h
  · exact Text.isPrintable_of_mem_decimalInt h
  · decide
  · exact Text.isPrintable_of_mem_decimalInt h
  · decide
  · exact Text.isPrintable_of_mem_decimalInt h
  · decide
  · exact Text.isPrintable_of_mem_decimalInt h
  · decide
  · decide
  · exact isPrintable_of_mem_name h
  · exact isPrintable_of_mem_valueText h

/-- There is no line terminator in a row. -/
theorem not_mem_text_of_mem_terminators {c : Char} (h : c ∈ Text.terminators) (row : Row) :
    c ∉ row.text := by
  intro hmem
  have hprintable := isPrintable_of_mem_text hmem
  rw [Text.isPrintable_of_mem_terminators h] at hprintable
  exact absurd hprintable (by decide)

/-! ### Rows are told apart -/

theorem space_not_mem_name (kind : Kind) : ∀ c ∈ kind.name.toList, (c != ' ') = true :=
  List.all_eq_true.mp (by cases kind <;> decide)

/-- The kind goes up to the first space behind it. -/
theorem takeWhile_name (row : Row) :
    (row.kind.name.toList ++ row.valueText).takeWhile (· != ' ') = row.kind.name.toList := by
  refine Text.takeWhile_run (space_not_mem_name row.kind) fun c hc => ?_
  rw [valueText] at hc
  split at hc
  · exact nomatch hc
  · obtain rfl : ' ' = c := Option.some.inj hc
    rfl

theorem value?_eq_of_valueText {row row' : Row} (h : row.valueText = row'.valueText) :
    row.value? = row'.value? := by
  rw [valueText, valueText] at h
  cases hvalue : row.value? with
  | none =>
      cases hvalue' : row'.value? with
      | none => rfl
      | some value' => simp [hvalue, hvalue'] at h
  | some value =>
      cases hvalue' : row'.value? with
      | none => simp [hvalue, hvalue'] at h
      | some value' =>
          simp only [hvalue, hvalue', List.cons.injEq, true_and] at h
          rw [Text.quoted_injective (String.toList_injective h)]

/-- **The text of a row tells the row.** -/
theorem text_injective : Function.Injective text := by
  intro row row' h
  -- no numeral goes on with a colon, a minus sign or a space
  have hmark {mark : Char} (hdigit : mark.isDigit = false) (rest : List Char) :
      ∀ c ∈ (mark :: rest).head?, c.isDigit = false := by
    rintro c ⟨⟩
    exact hdigit
  obtain ⟨hstartLine, h⟩ :=
    Text.decimalInt_append_inj (hmark (by decide) _) (hmark (by decide) _) h
  obtain ⟨hstartColumn, h⟩ :=
    Text.decimalInt_append_inj (hmark (by decide) _) (hmark (by decide) _) (List.cons.inj h).2
  obtain ⟨hstopLine, h⟩ :=
    Text.decimalInt_append_inj (hmark (by decide) _) (hmark (by decide) _) (List.cons.inj h).2
  obtain ⟨hstopColumn, h⟩ :=
    Text.decimalInt_append_inj (hmark (by decide) _) (hmark (by decide) _) (List.cons.inj h).2
  have hlabel := (List.cons.inj (List.cons.inj h).2).2
  have hkind : row.kind = row'.kind := by
    refine Kind.name_injective (String.toList_injective ?_)
    rw [← takeWhile_name, hlabel, takeWhile_name]
  rw [hkind, List.append_cancel_left_eq] at hlabel
  have hvalue := value?_eq_of_valueText hlabel
  obtain ⟨_, _, _, _, _, _⟩ := row
  obtain ⟨_, _, _, _, _, _⟩ := row'
  rw [Row.mk.injEq]
  exact ⟨hstartLine, hstartColumn, hstopLine, hstopColumn, hkind, hvalue⟩

end Row

/-! ### The rows of a dump -/

/-- The row of a token. -/
def Token.row (token : Token) : Row :=
  ⟨token.start.line + 1, token.start.column + 1, token.stop.line + 1, token.stop.column + 1,
    token.kind, if token.kind = .eof then none else some token.value⟩

theorem Token.valueText_row (token : Token) :
    token.row.valueText =
      (if token.kind = .eof then "" else " " ++ Text.quoted token.value).toList := by
  rw [Row.valueText, row]
  by_cases heof : token.kind = .eof
  · simp only [if_pos heof]
    rfl
  · simp only [if_neg heof, String.toList_append]
    rfl

/-- What is shown of a token is its row, and a line feed. -/
theorem Token.toList_shown (token : Token) : token.shown.toList = token.row.text ++ ['\n'] := by
  have hcolon : ":".toList = [':'] := rfl
  have hminus : "-".toList = ['-'] := rfl
  have hspaces : "  ".toList = [' ', ' '] := rfl
  have hfeed : "\n".toList = ['\n'] := rfl
  simp only [shown, Position.shown, Text.integer, String.toList_append, String.toList_ofList,
    hcolon, hminus, hspaces, hfeed, Row.text, valueText_row, List.append_assoc, List.cons_append,
    List.nil_append]
  rfl

/-- A dump as text is the rows of its tokens, with a line feed behind each. -/
theorem toList_dumpText (tokens : List Token) :
    (dumpText tokens).toList =
      ((tokens.map Token.row).map Row.text).flatMap (· ++ ['\n']) := by
  rw [dumpText, String.toList_join, List.map_map, List.flatMap_map, List.flatMap_map,
    List.flatMap_def]
  exact congrArg List.flatten (List.map_congr_left fun token _ => token.toList_shown)

/-- Texts with a line feed behind each are the lines of all. -/
theorem Text.lines_flatMap_feed {rows : List (List Char)} (h : ∀ row ∈ rows, '\n' ∉ row) :
    lines (rows.flatMap (· ++ ['\n'])) = rows ++ [[]] := by
  induction rows with
  | nil => rfl
  | cons row rows ih =>
      rw [List.forall_mem_cons] at h
      rw [List.flatMap_cons, List.append_assoc, List.singleton_append, lines_append_feed_cons,
        lines_eq_singleton h.1, ih h.2]
      rfl

theorem lines_dumpText (tokens : List Token) :
    Text.lines (dumpText tokens).toList = (tokens.map Token.row).map Row.text ++ [[]] := by
  rw [toList_dumpText, Text.lines_flatMap_feed]
  rintro text hmem
  obtain ⟨row, -, rfl⟩ := List.mem_map.mp hmem
  exact Row.not_mem_text_of_mem_terminators List.mem_cons_self row

/-- **A dump as text tells the rows of its tokens.** -/
theorem dumpText_injective {tokens tokens' : List Token} (h : dumpText tokens = dumpText tokens') :
    tokens.map Token.row = tokens'.map Token.row := by
  have hlines := congrArg (fun dump : String => Text.lines dump.toList) h
  simp only [lines_dumpText, List.append_cancel_right_eq] at hlines
  exact List.map_injective_iff.mpr Row.text_injective hlines

/-! ### Dumps that are written -/

namespace Format

variable {format : Format} {tokens : List Token}

theorem write?_eq_some_iff {dump : String} :
    format.write? tokens = some dump ↔
      format.canWrite tokens = true ∧ format.write tokens = dump := by
  rw [write?]
  split
  · rename_i h
    simp [h]
  · rename_i h
    simp [h]

theorem canWrite_iff :
    format.canWrite tokens = true ↔
      ∀ t ∈ tokens, ∀ p ∈ [t.start, t.stop], ∀ n ∈ format.numbers p, Text.isWritable n = true := by
  simp only [canWrite, List.all_eq_true, List.mem_append, List.forall_mem_cons, List.not_mem_nil,
    or_imp, forall_and, IsEmpty.forall_iff, implies_true, and_true]

/-- A dump is written exactly where all of its numbers can be. -/
theorem exists_write?_iff :
    (∃ dump, format.write? tokens = some dump) ↔
      ∀ t ∈ tokens, ∀ p ∈ [t.start, t.stop], ∀ n ∈ format.numbers p, Text.isWritable n = true := by
  rw [← canWrite_iff]
  simp only [write?_eq_some_iff, exists_and_left, exists_eq', and_true]

end Format

/-- Whether the four numbers of a row have few enough digits to be reported. -/
def Row.isWritable (row : Row) : Bool :=
  [row.startLine, row.startColumn, row.stopLine, row.stopColumn].all Text.isWritable

/-- Rows with a line feed behind each, where all of their numbers can be reported. -/
def Row.write? (rows : List Row) : Option String :=
  if rows.all Row.isWritable then some (String.ofList (rows.flatMap fun row => row.text ++ ['\n']))
  else none

/-- A dump as text is the rows of its tokens in writing. -/
theorem Format.write?_text_eq (tokens : List Token) :
    Format.text.write? tokens = Row.write? (tokens.map Token.row) := by
  have hcan : Format.text.canWrite tokens = (tokens.map Token.row).all Row.isWritable := by
    simp only [canWrite, numbers, List.cons_append, List.nil_append, List.all_map,
      Function.comp_def, Row.isWritable, Token.row]
  have hwrite : dumpText tokens =
      String.ofList ((tokens.map Token.row).flatMap fun row => row.text ++ ['\n']) := by
    refine String.toList_injective ?_
    rw [toList_dumpText, String.toList_ofList, List.flatMap_map]
  rw [write?, Row.write?, hcan, write, hwrite]

/-- The dump of a source file is what is written for its tokens. -/
theorem dumpSource_eq_ok_iff {entry : Entry} {source filename : String} {startLine : Int}
    {format : Format} {dump : String} (hsource : sourceText entry = .ok source) :
    dumpSource entry filename startLine format = .ok dump ↔
      ∃ tokens, tokenize source filename (startLine - 1) = .ok tokens ∧
        format.write? tokens = some dump := by
  simp only [Format.write?_eq_some_iff, dumpSource, hsource]
  cases tokenize source filename (startLine - 1) with
  | error fault => simp
  | ok tokens =>
      simp only [Except.ok.injEq, exists_eq_left']
      split
      · rename_i h
        simp [h]
      · rename_i h
        simp [h]

end Lexis

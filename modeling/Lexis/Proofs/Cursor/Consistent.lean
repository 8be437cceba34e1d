import Lexis.Proofs.Cursor.Between
import Lexis.Turn
import Mathlib.Data.List.TakeWhile

/-!
# Cursor — consistency with a source

What a cursor keeps is redundant: the offset, the text ahead, the number of the line, the lines
below and the position all say where in the source it stands.  A cursor is `Consistent` with a
source when they agree.  It is then the cursor between two parts of the source, parted at its
offset (`Consistent.eq_between`), and the character at it is the one of its own line at its column
(`Consistent.keepsToLine`).

A cursor `Reaches` another when some steps lead there, none of them behind the end of the text.
Steps keep a cursor consistent (`Consistent.stepBy`), and **every way to read reaches the cursor
behind it** (`reaches_turn`): a motion that does not mind line feeds is made only over characters
that are none.
-/

namespace Lexis.Cursor

/-! ### Consistency -/

/-- All that a cursor keeps agrees with a source whose first line has a given number. -/
structure Consistent (source : List Char) (line : Int) (c : Cursor) : Prop where
  offset_le    : c.offset ≤ source.length
  rest         : c.rest = source.drop c.offset
  current?     : c.current? = source[c.offset]?
  lineIndex    : c.lineIndex = (source.take c.offset).count '\n'
  lineIndex_lt : c.lineIndex < (Text.lines source).length
  lines        : c.lines = ((Text.lines source).drop c.lineIndex).map String.ofList
  lineText     : (Text.lines source)[c.lineIndex]? = some c.lineText.toList
  line         : c.position.line = line + c.lineIndex
  index        : c.position.index = c.position.column
  column       : c.position.column = c.offset - Text.lineOffset source c.lineIndex

/-- The character at the cursor is the one of its line at its column.  Where the line has no more,
there is a line feed and a line below, or the text ends, and with it the last line. -/
def KeepsToLine (source : List Char) (c : Cursor) : Prop :=
  match c.current? with
  | none    =>
    c.position.column = c.lineText.toList.length ∧ c.lineIndex + 1 = (Text.lines source).length
  | some ch =>
    if ch = '\n' then
      c.position.column = c.lineText.toList.length ∧ c.lineIndex + 1 < (Text.lines source).length
    else 0 ≤ c.position.column ∧ c.lineText.toList[c.position.column.toNat]? = some ch

variable {source : List Char} {filename : String} {line : Int} {c : Cursor}

/-- The cursor between two parts of a source is consistent with it. -/
theorem consistent_between (filename : String) (line : Int) (before after : List Char) :
    (between filename line before after).Consistent (before ++ after) line := by
  obtain ⟨above, habove, -, hlines⟩ := Text.exists_lines before
  have hindex := Text.getElem?_lines before after
  have hcolumn := Text.lineOffset_add_length before after
  constructor
  · simp
  · simp
  · simp [List.head?_eq_getElem?, List.getElem?_append_right]
  · simp
  · exact (List.getElem?_eq_some_iff.mp hindex).1
  · rw [between_lines, between_lineIndex, hlines, ← habove, List.drop_left]
  · rw [between_lineText, String.toList_ofList]
    exact hindex
  · rfl
  · rfl
  · rw [between_position, Position.behind_column, between_offset, between_lineIndex]
    omega

attribute [ext] Cursor Position

/-- The file, the source and the offset determine a consistent cursor. -/
theorem Consistent.unique {d : Cursor} (hc : c.Consistent source line)
    (hd : d.Consistent source line) (hfilename : c.filename = d.filename)
    (hoffset : c.offset = d.offset) : c = d := by
  have hindex : c.lineIndex = d.lineIndex := by rw [hc.lineIndex, hd.lineIndex, hoffset]
  have hcolumn : c.position.column = d.position.column := by
    rw [hc.column, hd.column, hoffset, hindex]
  have hposition : c.position = d.position := by
    refine Position.ext ?_ ?_ hcolumn
    · rw [hc.index, hd.index, hcolumn]
    · rw [hc.line, hd.line, hindex]
  have hrest : c.rest = d.rest := by rw [hc.rest, hd.rest, hoffset]
  have hlines : c.lines = d.lines := by rw [hc.lines, hd.lines, hindex]
  exact Cursor.ext hfilename hrest hoffset hposition hindex hlines

/-- **A consistent cursor stands between two parts of its source.** -/
theorem Consistent.eq_between (h : c.Consistent source line) :
    c = between c.filename line (source.take c.offset) (source.drop c.offset) := by
  have hbetween := consistent_between c.filename line (source.take c.offset)
    (source.drop c.offset)
  rw [List.take_append_drop] at hbetween
  refine h.unique hbetween rfl ?_
  rw [between_offset, List.length_take, Nat.min_eq_left h.offset_le]

theorem Consistent.exists_between (h : c.Consistent source line) :
    ∃ filename before after, source = before ++ after ∧ c = between filename line before after :=
  ⟨c.filename, _, _, (List.take_append_drop c.offset source).symm, h.eq_between⟩

/-- A scan begins at a consistent cursor. -/
theorem consistent_ofSource (source filename : String) (line : Int) :
    (ofSource source filename line).Consistent source.toList line := by
  rw [ofSource_eq]
  exact consistent_between filename line [] source.toList

/-- **A consistent cursor keeps to its line.** -/
theorem Consistent.keepsToLine (h : c.Consistent source line) : c.KeepsToLine source := by
  obtain ⟨filename, before, after, rfl, rfl⟩ := h.exists_between
  have hcount := Text.length_lines (before ++ after)
  rw [List.count_append] at hcount
  cases after with
  | nil =>
      rw [KeepsToLine, between_current?, List.head?_nil]
      simpa using hcount.symm
  | cons ch after =>
      rw [KeepsToLine, between_current?, List.head?_cons]
      dsimp only
      split
      · rename_i hfeed
        subst hfeed
        rw [List.count_cons_self] at hcount
        refine ⟨by simp [Text.firstLine, Text.lines_feed_cons], ?_⟩
        rw [hcount, between_lineIndex]
        omega
      · rename_i hfeed
        simp [Text.firstLine, Text.lines_cons hfeed]

/-! ### Steps -/

/-- A cursor is reached in steps, none of them behind the end of the text. -/
def Reaches (c d : Cursor) : Prop :=
  ∃ n ≤ c.rest.length, d = c.stepBy n

theorem stepBy_add (c : Cursor) (m n : Nat) : c.stepBy (m + n) = (c.stepBy m).stepBy n := by
  induction m generalizing c with
  | zero => rw [Nat.zero_add, stepBy]
  | succ m ih => rw [Nat.succ_add, stepBy, stepBy, ih]

/-- **Steps keep a cursor consistent.** -/
theorem Consistent.stepBy (h : c.Consistent source line) {n : Nat} (hn : n ≤ c.rest.length) :
    (c.stepBy n).Consistent source line := by
  obtain ⟨filename, before, after, rfl, rfl⟩ := h.exists_between
  rw [between_rest] at hn
  have hstep := stepBy_between filename line before (after.take n) (after.drop n)
  rw [List.take_append_drop, List.length_take, Nat.min_eq_left hn] at hstep
  have hbetween := consistent_between filename line (before ++ after.take n) (after.drop n)
  rwa [List.append_assoc, List.take_append_drop, ← hstep] at hbetween

namespace Reaches

theorem refl (c : Cursor) : c.Reaches c :=
  ⟨0, Nat.zero_le _, rfl⟩

theorem trans {c d e : Cursor} (h : c.Reaches d) (h' : d.Reaches e) : c.Reaches e := by
  obtain ⟨m, hm, rfl⟩ := h
  obtain ⟨n, hn, rfl⟩ := h'
  rw [rest_stepBy, List.length_drop] at hn
  exact ⟨m + n, by omega, (stepBy_add c m n).symm⟩

end Reaches

theorem reaches_step (h : c.rest ≠ []) : c.Reaches c.step :=
  ⟨1, List.length_pos_iff.mpr h, rfl⟩

/-- An advance over a character that is no line feed is a step. -/
theorem advance_eq_step (h : c.current? ≠ some '\n') : c.advance = c.step := by
  rw [step, if_neg h]

theorem reaches_advance {ch : Char} (h : c.current? = some ch) (hne : ch ≠ '\n') :
    c.Reaches c.advance := by
  rw [advance_eq_step (by simp [h, hne])]
  refine reaches_step ?_
  rintro hnil
  simp [Cursor.current?, hnil] at h

/-- So is each of several. -/
theorem advanceBy_eq_stepBy {n : Nat} (h : ∀ ch ∈ c.rest.take n, ch ≠ '\n') :
    c.advanceBy n = c.stepBy n := by
  induction n generalizing c with
  | zero => exact advanceBy_zero c
  | succ n ih =>
      have hne : c.current? ≠ some '\n' := by
        cases hrest : c.rest with
        | nil => simp [Cursor.current?, hrest]
        | cons d rest =>
            have hd := h d (by simp [hrest])
            simpa [Cursor.current?, hrest] using hd
      -- the text ahead of the next cursor is the tail, and its characters are among the first ones
      rw [advanceBy_succ, advance_eq_step hne, Cursor.stepBy]
      refine ih fun ch hch => h ch ?_
      rw [rest_step] at hch
      cases hrest : c.rest with
      | nil => simp [hrest] at hch
      | cons d rest =>
          rw [hrest, List.tail_cons] at hch
          exact List.mem_cons_of_mem _ hch

/-- A run of a class without line feeds is passed in steps. -/
theorem reaches_advanceBy_takeWhile {among : Char → Bool} (h : among '\n' = false) :
    c.Reaches (c.advanceBy (c.rest.takeWhile among).length) := by
  have hprefix := List.takeWhile_prefix (l := c.rest) among
  refine ⟨_, hprefix.length_le, advanceBy_eq_stepBy fun ch hch => ?_⟩
  rw [← List.prefix_iff_eq_take.mp hprefix] at hch
  rintro rfl
  simp [List.mem_takeWhile_imp hch] at h

/-- The rest of a line is skipped in steps. -/
theorem reaches_skipLine (c : Cursor) : c.Reaches c.skipLine := by
  have hahead : c.Reaches (c.advanceBy (c.rest.takeWhile (· ≠ '\n')).length) :=
    reaches_advanceBy_takeWhile (by simp)
  rw [skipLine]
  split
  · exact hahead
  · rename_i hrest
    exact hahead.trans (reaches_step (by simpa using hrest))

/-! ### Ways to read -/

theorem reaches_failAt (c : Cursor) (kind : FaultKind) (detail : String) (start : Position)
    (lineText : String) : c.Reaches (c.failAt kind detail start lineText).cursor :=
  reaches_skipLine c

theorem reaches_reject (c : Cursor) (what : String) (intruder : Char) :
    c.Reaches (c.reject what intruder).cursor := by
  unfold reject
  split <;> exact reaches_skipLine c

theorem reaches_checkWordEnd (c : Cursor) (what : String) :
    c.Reaches (c.checkWordEnd what).cursor := by
  unfold checkWordEnd
  split
  · exact .refl c
  · exact reaches_reject c what _

theorem reaches_finishWord (c : Cursor) (what : String) (kind : Kind) (value : String)
    (start : Position) (lineText : String) :
    c.Reaches (c.finishWord what kind value start lineText).cursor := by
  unfold finishWord
  split
  · exact .refl c
  · exact reaches_reject c what _

theorem reaches_readRun {among : Char → Bool} (h : among '\n' = false) (kind : Kind)
    (what : String) : c.Reaches (c.readRun among kind what).cursor :=
  (reaches_advanceBy_takeWhile h).trans (reaches_finishWord _ _ _ _ _ _)

theorem reaches_readString (h : c.current? = some quote) : c.Reaches c.readString.cursor := by
  obtain ⟨rest, hrest⟩ : ∃ rest, c.rest = quote :: rest := by
    cases hrest : c.rest with
    | nil => simp [Cursor.current?, hrest] at h
    | cons d rest =>
        obtain rfl : d = quote := by simpa [Cursor.current?, hrest] using h
        exact ⟨rest, rfl⟩
  have hq : quote ≠ '\n' := by decide
  have hopen : c.Reaches c.advance := reaches_advance h hq
  unfold readString
  split
  · -- behind the closing quote the literal must end like any word
    rename_i source decoded hbody
    obtain ⟨after, hafter⟩ := Literal.eq_append_of_body hbody
    have hsource : c.advance.Reaches (c.advance.stepBy source.length) :=
      ⟨source.length, by simp [hafter], rfl⟩
    have hclose : (c.advance.stepBy source.length).current? = some quote := by
      simp [Cursor.current?, hafter]
    exact ((hopen.trans hsource).trans (reaches_advance hclose hq)).trans
      (reaches_finishWord _ _ _ _ _ _)
  · have hall : c.advance.Reaches (c.advance.stepBy c.rest.tail.length) := ⟨_, Nat.le_refl _, rfl⟩
    exact (hopen.trans hall).trans (reaches_failAt _ _ _ _ _)

/-- **A turn reaches the cursor behind it.** -/
theorem reaches_turn (c : Cursor) : c.Reaches c.turn.cursor := by
  unfold turn
  split
  · exact reaches_skipLine c
  · rename_i ch hch
    have hrest : c.rest ≠ [] := by
      intro hnil
      simp [Cursor.current?, hnil] at hch
    split
    · exact reaches_step hrest
    split
    · exact reaches_readRun (by decide) _ _
    split
    · exact reaches_readRun (by decide) _ _
    split
    · rename_i hm
      refine reaches_advance hch ?_
      rintro rfl
      simp [Kind.ofPunctuation?] at hm
    split
    · rename_i hq
      exact reaches_readString (hq ▸ hch)
    · exact reaches_skipLine c

end Lexis.Cursor

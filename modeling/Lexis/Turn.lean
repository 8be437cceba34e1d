import Lexis.Cursor
import Lexis.Literal

/-!
# Turns

A turn reads what stands at a cursor: it passes a blank, reads one token, or comes upon a fault.
A word (a number, an identifier or a string literal) counts as read only if the character behind
it may follow a word: a blank, punctuation or the end of the text.  At a fault the rest of the
line is skipped, so that reading can go on below.

A turn at a cursor with text ahead leaves less ahead of it (`length_rest_turn_lt`).
-/

namespace Lexis

/-- What a turn has read. -/
inductive Reading where
  | nothing
  | token (token : Token)
  | fault (fault : Fault)
  deriving DecidableEq, Repr

/-- A reading, and the cursor behind it. -/
structure Turn where
  reading : Reading
  cursor  : Cursor
  deriving DecidableEq, Repr

namespace Cursor

/-! ### Ways for a turn to end -/

/-- A turn that comes upon a fault: the rest of the line is skipped. -/
def failAt (c : Cursor) (kind : FaultKind) (detail : String) (start : Position)
    (lineText : String) : Turn :=
  ⟨.fault (c.faultAt kind detail start lineText), c.skipLine⟩

/-- A turn that comes upon a fault at the cursor itself. -/
def fail (c : Cursor) (kind : FaultKind) (detail : String) : Turn :=
  c.failAt kind detail c.position c.lineText

/-- A turn that reads a token and nothing behind it. -/
def finish (c : Cursor) (kind : Kind) (value : String) (start : Position) (lineText : String) :
    Turn :=
  ⟨.token (c.token kind value start lineText), c⟩

/-- The character at the cursor, where it may not follow a word. -/
def intruder? (c : Cursor) : Option Char :=
  c.current?.filter fun follower => !(isSpace follower || isPunctuation follower)

/-- What an intruder makes of a turn: the start of a token is misplaced there, and any other
character is illegal everywhere. -/
def reject (c : Cursor) (what : String) (intruder : Char) : Turn :=
  if startsToken intruder then
    c.fail .invalidSyntax
      ("unexpected " ++ Text.quoted (String.singleton intruder) ++ " after " ++ what)
  else c.fail .illegalCharacter ""

/-- A check that the word behind the cursor ends there. -/
def checkWordEnd (c : Cursor) (what : String) : Turn :=
  match c.intruder? with
  | none          => ⟨.nothing, c⟩
  | some intruder => c.reject what intruder

/-- A turn that reads a word, if it ends there. -/
def finishWord (c : Cursor) (what : String) (kind : Kind) (value : String) (start : Position)
    (lineText : String) : Turn :=
  match c.intruder? with
  | none          => c.finish kind value start lineText
  | some intruder => c.reject what intruder

/-! ### Reading -/

/-- A turn that reads the longest run of characters of a class as one word. -/
def readRun (c : Cursor) (among : Char → Bool) (kind : Kind) (what : String) : Turn :=
  let run := c.rest.takeWhile among
  (c.advanceBy run.length).finishWord what kind (String.ofList run) c.position c.lineText

/-- A turn that reads a string literal, whose opening quote is at the cursor. -/
def readString (c : Cursor) : Turn :=
  match Literal.body false c.rest.tail with
  | some (source, decoded) =>
    (c.advance.stepBy source.length).advance.finishWord "string literal" .string
      (String.ofList decoded) c.position c.lineText
  | none =>
    (c.advance.stepBy c.rest.tail.length).failAt .invalidSyntax "unterminated string literal"
      c.position c.lineText

/-- One turn at the cursor. -/
def turn (c : Cursor) : Turn :=
  match c.current? with
  | none => c.fail .illegalCharacter ""
  | some ch =>
    if isSpace ch then ⟨.nothing, c.step⟩
    else if isDigit ch then c.readRun isDigit .integer "integer literal"
    else if isLetter ch then c.readRun isLetterOrDigit .identifier "identifier"
    else match Kind.ofPunctuation? ch with
      | some kind => c.advance.finish kind (String.singleton ch) c.position c.lineText
      | none      => if ch = quote then c.readString else c.fail .illegalCharacter ""

/-! ### Progress -/

theorem length_rest_reject_le (c : Cursor) (what : String) (intruder : Char) :
    (c.reject what intruder).cursor.rest.length ≤ c.rest.length := by
  unfold reject
  split <;> exact c.length_rest_skipLine_le

theorem length_rest_finishWord_le (c : Cursor) (what : String) (kind : Kind) (value : String)
    (start : Position) (lineText : String) :
    (c.finishWord what kind value start lineText).cursor.rest.length ≤ c.rest.length := by
  unfold finishWord
  split
  · exact Nat.le_refl _
  · exact c.length_rest_reject_le what _

/-- A run that is not empty leaves less. -/
theorem length_rest_readRun_lt {c : Cursor} {among : Char → Bool} {ch : Char}
    (hc : c.current? = some ch) (h : among ch = true) (kind : Kind) (what : String) :
    (c.readRun among kind what).cursor.rest.length < c.rest.length := by
  refine Nat.lt_of_le_of_lt (length_rest_finishWord_le _ _ _ _ _ _) ?_
  obtain ⟨rest, hrest⟩ : ∃ rest, c.rest = ch :: rest := by
    cases hr : c.rest with
    | nil => simp [current?, hr] at hc
    | cons d rest => exact ⟨rest, by simp_all [current?]⟩
  rw [rest_advanceBy, drop_length_takeWhile, hrest, List.dropWhile_cons_of_pos h]
  have := (List.dropWhile_suffix (l := rest) among).length_le
  simp only [List.length_cons]
  omega

/-- A string literal, closed or not, leaves less. -/
theorem length_rest_readString_lt {c : Cursor} (h : c.rest ≠ []) :
    c.readString.cursor.rest.length < c.rest.length := by
  have pos := List.length_pos_iff.2 h
  unfold readString
  split
  · refine Nat.lt_of_le_of_lt (length_rest_finishWord_le _ _ _ _ _ _) ?_
    simp only [rest_advance, rest_stepBy, List.length_tail, List.length_drop]
    omega
  · refine Nat.lt_of_le_of_lt (length_rest_skipLine_le _) ?_
    simp only [rest_advance, rest_stepBy, List.length_tail, List.length_drop]
    omega

/-- A turn with text ahead leaves less. -/
theorem length_rest_turn_lt {c : Cursor} (h : c.rest ≠ []) :
    c.turn.cursor.rest.length < c.rest.length := by
  have pos := List.length_pos_iff.2 h
  have hskip := length_rest_skipLine_lt h
  unfold turn
  split
  · exact hskip
  · rename_i ch hch
    split
    · simp only [rest_step, List.length_tail]
      omega
    · split
      · rename_i hd
        exact length_rest_readRun_lt hch hd _ _
      · split
        · rename_i hl
          exact length_rest_readRun_lt hch (by simp [isLetterOrDigit, hl]) _ _
        · split
          · simp only [finish, rest_advance, List.length_tail]
            omega
          · split
            · exact length_rest_readString_lt h
            · exact hskip

end Cursor

end Lexis

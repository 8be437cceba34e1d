import Lexis.Proofs.Cursor.Consistent
import Lexis.Session

/-!
# Scan — sessions

A call is `Permitted` at a cursor when it minds the end of the text and the line feeds: a step is
made while a character is left, an advance over a character that is no line feed, a run is read of
a class without line feeds, a literal at its opening quote.  All other calls are permitted
everywhere, but for the bare motions that move a cursor by halves.

A permitted call reaches the cursor it leaves (`Scanner.reaches_perform`), and that cursor is the
same where the call comes upon a fault that cannot be reported (`Scanner.cursor_respond`).  **So a
session of permitted calls keeps the cursor consistent with the source** (`session_consistent`),
faults or not, and every line feed that it passes has a line below.
-/

namespace Lexis

/-- A call that minds the end of the text and its line feeds. -/
def Call.Permitted (c : Cursor) : Call → Prop
  | .step              => c.rest ≠ []
  | .advance           => c.current? ≠ none ∧ c.current? ≠ some '\n'
  | .readRun among _ _ => among '\n' = false
  | .readString        => c.current? = some quote
  | .pass | .shift | .nextLine => False
  | _                  => True

instance (c : Cursor) : (call : Call) → Decidable (call.Permitted c)
  | .step              => inferInstanceAs (Decidable (c.rest ≠ []))
  | .advance           => inferInstanceAs (Decidable (c.current? ≠ none ∧ c.current? ≠ some '\n'))
  | .readRun among _ _ => inferInstanceAs (Decidable (among '\n' = false))
  | .readString        => inferInstanceAs (Decidable (c.current? = some quote))
  | .pass | .shift | .nextLine => .isFalse id
  | .tokens | .tokenize | .scan | .turn | .checkWordEnd _ | .emit .. | .close | .fail .. =>
    .isTrue trivial

namespace Scanner

/-- Each call of a session is permitted where it is made. -/
def Permits : Scanner → List Call → Prop
  | _, []            => True
  | s, call :: calls => call.Permitted s.cursor ∧ (s.respond call).2.Permits calls

instance : (s : Scanner) → (calls : List Call) → Decidable (s.Permits calls)
  | _, []            => .isTrue trivial
  | s, call :: calls =>
    have := instDecidablePermits (s.respond call).2 calls
    inferInstanceAs (Decidable (call.Permitted s.cursor ∧ (s.respond call).2.Permits calls))

/-- Turns up to the end of the text or a fault reach the cursor behind them. -/
theorem reaches_run (s : Scanner) : s.cursor.Reaches s.run.cursor := by
  fun_induction run s with
  | case1 s h => exact .refl _
  | case2 s h ih =>
      rw [next, cursor_take] at ih
      exact s.cursor.reaches_turn.trans ih

theorem reaches_complete (s : Scanner) : s.cursor.Reaches s.complete.cursor := by
  unfold complete
  split
  · exact .refl _
  · unfold finish
    split
    · exact reaches_run s
    · exact reaches_run s

theorem cursor_answerTurn (s : Scanner) (turn : Turn) :
    (s.answerTurn turn).2.cursor = turn.cursor := by
  unfold answerTurn
  split <;> exact cursor_take s turn

/-- **A permitted call reaches the cursor it leaves.** -/
theorem reaches_perform {s : Scanner} {call : Call} (h : call.Permitted s.cursor) :
    s.cursor.Reaches (s.perform call).2.cursor := by
  cases call with
  | tokens => exact .refl _
  | tokenize =>
      rw [perform]
      split <;> exact reaches_complete s
  | scan => exact reaches_complete s
  | turn =>
      rw [perform, cursor_answerTurn]
      exact Cursor.reaches_turn _
  | readString =>
      rw [perform, cursor_answerTurn]
      exact Cursor.reaches_readString h
  | readRun among kind what =>
      rw [perform, cursor_answerTurn]
      exact Cursor.reaches_readRun h kind what
  | checkWordEnd what =>
      rw [perform, cursor_answerTurn]
      exact Cursor.reaches_checkWordEnd _ what
  | emit kind value start lineText => exact .refl _
  | close => exact .refl _
  | fail kind detail start lineText =>
      rw [perform, cursor_take]
      exact Cursor.reaches_failAt _ _ _ _ _
  | step => exact Cursor.reaches_step h
  | advance =>
      obtain ⟨ch, hch⟩ := Option.ne_none_iff_exists'.mp h.1
      exact Cursor.reaches_advance hch fun hne => h.2 (hne ▸ hch)
  | pass => exact h.elim
  | shift => exact h.elim
  | nextLine => exact h.elim

theorem reaches_respond {s : Scanner} {call : Call} (h : call.Permitted s.cursor) :
    s.cursor.Reaches (s.respond call).2.cursor := by
  rw [cursor_respond]
  exact reaches_perform h

/-! ### Sessions -/

variable {source : List Char} {line : Int} {s : Scanner}

/-- **A permitted session keeps the cursor consistent.** -/
theorem Permits.consistent_after {calls : List Call} (h : s.Permits calls)
    (hs : s.cursor.Consistent source line) : (s.after calls).cursor.Consistent source line := by
  induction calls generalizing s with
  | nil => exact hs
  | cons call calls ih =>
      obtain ⟨hcall, hcalls⟩ := h
      obtain ⟨count, hcount, hcursor⟩ := reaches_respond hcall
      exact ih hcalls (hcursor ▸ hs.stepBy hcount)

/-- The first calls of a permitted session are a permitted session, and the next call is permitted
behind them. -/
theorem Permits.take {calls : List Call} (h : s.Permits calls) (n : Nat) :
    s.Permits (calls.take n) ∧
      ∀ call, calls[n]? = some call → call.Permitted (s.after (calls.take n)).cursor := by
  induction n generalizing s calls with
  | zero =>
      refine ⟨trivial, fun call hcall => ?_⟩
      cases calls with
      | nil => simp at hcall
      | cons first calls =>
          obtain rfl : first = call := by simpa using hcall
          exact h.1
  | succ n ih =>
      cases calls with
      | nil => simp [Permits]
      | cons first calls =>
          obtain ⟨htake, hnext⟩ := ih h.2
          exact ⟨⟨h.1, htake⟩, fun call hcall => hnext call (by simpa using hcall)⟩

end Scanner

/-- **Sessions keep the cursor consistent with the source.**  Before and after each call of a
permitted session on a new scanner, whether the call comes upon a fault or not, and whether the
fault can be reported or not, the cursor is consistent with the source and keeps to its line.  The
call leads it there in steps, and so do all the cursors on its way: no step over a line feed lacks a
line below. -/
theorem session_consistent (source filename : String) (line : Int) (calls : List Call)
    (h : (Scanner.ofSource source filename line).Permits calls) (n : Nat) :
    let s := (Scanner.ofSource source filename line).after (calls.take n)
    s.cursor.Consistent source.toList line ∧ s.cursor.KeepsToLine source.toList ∧
      ∀ call, calls[n]? = some call →
        ∃ count ≤ s.cursor.rest.length, (s.respond call).2.cursor = s.cursor.stepBy count ∧
          ∀ k ≤ count, (s.cursor.stepBy k).Consistent source.toList line ∧
            (s.cursor.stepBy k).KeepsToLine source.toList := by
  intro s
  obtain ⟨htake, hnext⟩ := h.take n
  have hs : s.cursor.Consistent source.toList line :=
    htake.consistent_after (Cursor.consistent_ofSource source filename line)
  refine ⟨hs, hs.keepsToLine, fun call hcall => ?_⟩
  obtain ⟨count, hcount, hcursor⟩ := Scanner.reaches_respond (hnext call hcall)
  refine ⟨count, hcount, hcursor, fun k hk => ?_⟩
  have hk := hs.stepBy (Nat.le_trans hk hcount)
  exact ⟨hk, hk.keepsToLine⟩

/-- A session that goes on behind a fault, over a literal of two lines. -/
theorem session_consistent_fault :
    let s := (Scanner.ofSource "1x\n\"a\nb\" (" "input" 3).after [.turn, .readString, .step]
    s.fault?.isSome = true ∧ s.cursor.position = ⟨3, 5, 3⟩ ∧
      s.cursor.Consistent "1x\n\"a\nb\" (".toList 3 :=
  ⟨by decide +kernel, by decide +kernel,
    (session_consistent _ _ _ [.turn, .readString, .step] (by decide +kernel) 3).1⟩

end Lexis

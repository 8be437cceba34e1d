import Lexis.Proofs.Cursor.Below
import Lexis.Proofs.Cursor.Consistent
import Lexis.Session

/-!
# Scan — going on behind a fault

A fault leaves the cursor in front of the line below its own, or at the end of the source
(`skipLine_between`, `skipLine_between_of_not_mem`).  A scanner that goes on from there does as a
new scanner of the text below: it stands `onto` the scanner of the fault, with the tokens put behind
the earlier ones and the counts of the cursor added, and turns keep it there (`after_turns_onto`).

`respond_fail` says what a call to record a fault changes, whether the fault can be reported or not,
and what it leaves to the turns that follow.  A fault that cannot be reported is not recorded, and
the call has no answer; all the rest is the same.
-/

namespace Lexis

namespace Cursor

variable {filename : String} {line : Int} {before : List Char}

/-- A skip stops behind the first line feed. -/
theorem skipLine_between {skipped : List Char} (h : '\n' ∉ skipped) (below : List Char) :
    (between filename line before (skipped ++ '\n' :: below)).skipLine =
      between filename line (before ++ (skipped ++ ['\n'])) below := by
  have hne : ∀ c ∈ skipped, c ≠ '\n' := fun c hc hfeed => h (hfeed ▸ hc)
  have htake : (skipped ++ '\n' :: below).takeWhile (· ≠ '\n') = skipped := by
    rw [List.takeWhile_append_of_pos (by simpa using hne), List.takeWhile_cons_of_neg (by simp),
      List.append_nil]
  rw [skipLine, between_rest, htake, advanceBy_between hne, between_rest]
  dsimp only [List.isEmpty_cons, Bool.false_eq_true]
  rw [if_neg Bool.false_ne_true, step_between, List.append_assoc]

/-- A skip without a line feed ahead stops at the end. -/
theorem skipLine_between_of_not_mem {after : List Char} (h : '\n' ∉ after) :
    (between filename line before after).skipLine =
      between filename line (before ++ after) [] := by
  have hne : ∀ c ∈ after, c ≠ '\n' := fun c hc hfeed => h (hfeed ▸ hc)
  have htake : after.takeWhile (· ≠ '\n') = after :=
    List.takeWhile_eq_self_iff.mpr (by simpa using hne)
  have hadvance : (between filename line before (after ++ [])).advanceBy after.length =
      between filename line (before ++ after) [] := advanceBy_between hne
  rw [List.append_nil] at hadvance
  rw [skipLine, between_rest, htake, hadvance, between_rest]
  rfl

theorem filename_skipLine (c : Cursor) : c.skipLine.filename = c.filename := by
  have hstep : ∀ d : Cursor, d.step.filename = d.filename := fun d => by
    unfold step
    split <;> rfl
  unfold skipLine
  dsimp only
  split
  · rfl
  · exact hstep _

end Cursor

namespace Scanner

/-! ### One scanner on top of another -/

/-- The scanner that has gone on from `s` as `fresh` has from the start of its source. -/
def onto (fresh s : Scanner) : Scanner where
  cursor   := fresh.cursor.below s.cursor.offset s.cursor.lineIndex
  tokens   := s.tokens ++ fresh.tokens
  fault?   := fresh.fault?.or s.fault?
  finished := s.finished

/-- Below a line feed a scanner goes on as a new one. -/
theorem ofSource_onto {filename : String} {line : Int} {above below : List Char} {s : Scanner}
    (hs : s.cursor = .between filename line (above ++ ['\n']) below) :
    (ofSource (String.ofList below) filename s.cursor.position.line).onto s = s := by
  have hcursor : (Cursor.ofSource (String.ofList below) filename s.cursor.position.line).below
      s.cursor.offset s.cursor.lineIndex = s.cursor := by
    have hline : s.cursor.position.line = line + above.count '\n' + 1 := by
      rw [hs, Cursor.between_position, Position.behind_line, List.count_append,
        List.count_singleton_self, Int.natCast_add, ← Int.add_assoc]
      rfl
    have hbetween := Cursor.between_append_feed filename line above [] below
    rw [hline, Cursor.ofSource_eq, String.toList_ofList, hs, hbetween]
    rfl
  rw [onto, ofSource, hcursor, Array.append_empty, Option.none_or]

theorem take_onto (fresh s : Scanner) (turn : Turn) :
    (fresh.onto s).take (turn.below s.cursor.offset s.cursor.lineIndex) =
      (fresh.take turn).onto s := by
  obtain ⟨reading, cursor⟩ := turn
  cases reading with
  | nothing => rfl
  | token token => simp only [take, onto, Turn.below, Array.push_append]
  | fault fault => simp only [take, onto, Turn.below, Array.push_append, Option.some_or]

theorem perform_turn_onto (fresh s : Scanner) :
    (fresh.onto s).perform .turn =
      ((fresh.perform .turn).1, (fresh.perform .turn).2.onto s) := by
  have hturn : (fresh.onto s).cursor.turn =
      fresh.cursor.turn.below s.cursor.offset s.cursor.lineIndex :=
    Cursor.turn_below _ _ _
  have htake := take_onto fresh s fresh.cursor.turn
  rw [perform, perform, hturn]
  unfold answerTurn
  rw [htake]
  dsimp only [Turn.below]
  cases fresh.cursor.turn.reading <;> rfl

/-- **A turn** is that of the new scanner. -/
theorem respond_turn_onto (fresh s : Scanner) :
    (fresh.onto s).respond .turn =
      ((fresh.respond .turn).1, (fresh.respond .turn).2.onto s) := by
  unfold respond
  rw [perform_turn_onto]
  dsimp only
  -- a fault that cannot be reported leaves the one that was recorded last, here and there
  split <;> rfl

/-- **Turns** are those of the new scanner. -/
theorem after_turns_onto (fresh s : Scanner) (n : Nat) :
    (fresh.onto s).after (List.replicate n .turn) =
      (fresh.after (List.replicate n .turn)).onto s := by
  induction n generalizing fresh with
  | zero => rfl
  | succ n ih =>
      rw [List.replicate_succ, after, after, List.foldl_cons, List.foldl_cons, respond_turn_onto]
      exact ih (fresh.respond .turn).2

/-- **Below a line feed** turns do what they do on a new scanner. -/
theorem after_turns_of_feed {filename : String} {line : Int} {above below : List Char} {s : Scanner}
    (hs : s.cursor = .between filename line (above ++ ['\n']) below) (n : Nat) :
    let resumed := s.after (List.replicate n .turn)
    let fresh := (ofSource (String.ofList below) filename s.cursor.position.line).after
      (List.replicate n .turn)
    resumed.tokens = s.tokens ++ fresh.tokens ∧
    (resumed.respond .turn).1 = (fresh.respond .turn).1 ∧
    resumed.fault? = fresh.fault?.or s.fault? ∧
    resumed.cursor.offset = s.cursor.offset + fresh.cursor.offset ∧
    resumed.cursor.position = fresh.cursor.position ∧
    resumed.cursor.lineText = fresh.cursor.lineText ∧
    resumed.cursor.current? = fresh.cursor.current? := by
  intro resumed fresh
  have honto : resumed = fresh.onto s := by
    have hturns := after_turns_onto (ofSource (String.ofList below) filename s.cursor.position.line)
      s n
    rwa [ofSource_onto hs] at hturns
  rw [honto, respond_turn_onto]
  exact ⟨rfl, rfl, rfl, rfl, rfl, rfl, rfl⟩

/-! ### Faults that are recorded -/

/-- A call to record a fault adds its anchor, and the rest of the line is skipped; the fault is
recorded if it can be reported. -/
theorem respond_fail_eq (s : Scanner) (kind : FaultKind) (detail : String)
    (start : Option Position) (lineText : Option String) :
    let place := start.getD s.cursor.position
    let anchor : Token :=
      ⟨.eof, "", s.cursor.filename, lineText.getD s.cursor.lineText, place, place⟩
    let fault := anchor.fault kind detail
    s.respond (.fail kind detail start lineText) =
      (if fault.canReport then some (.recorded fault) else none, { s with
        cursor := s.cursor.skipLine
        tokens := s.tokens.push anchor
        fault? := if fault.canReport then some fault else s.fault? }) := by
  intro place anchor fault
  have hfault : s.cursor.faultAt kind detail place (lineText.getD s.cursor.lineText) = fault := rfl
  have hperform : s.perform (.fail kind detail start lineText) = (.recorded fault, { s with
      cursor := s.cursor.skipLine
      tokens := s.tokens.push anchor
      fault? := some fault }) := by
    simp only [perform, take, Cursor.failAt, hfault, fault, Token.fault_anchor, place]
  exact respond_of_fault hperform rfl rfl

end Scanner

/-- **Recording a fault.**  Let the cursor of a scanner be consistent with the source.  A call to
record a fault adds its anchor, an end-of-file token of no width at the place and with the line that
the call gives, or else those of the cursor.  If the fault can be reported, the call answers with it
and records it; if not, the call has no answer, and what was recorded before stays.  Nothing else
changes but the cursor, which stays consistent.  Where there is a line feed ahead, the cursor goes
behind the first one, and any number of turns from there on add the tokens, give the answers, and
leave the position, the line and the character of as many turns of a new scanner on the text below,
whose lines are counted from the present one, with the offsets counted from the present offset.
Where there is none, the cursor goes to the end of the source. -/
theorem Scanner.respond_fail {source : List Char} {line : Int} {s : Scanner}
    (hs : s.cursor.Consistent source line) (kind : FaultKind) (detail : String)
    (start : Option Position) (lineText : Option String) :
    let place := start.getD s.cursor.position
    let anchor : Token :=
      ⟨.eof, "", s.cursor.filename, lineText.getD s.cursor.lineText, place, place⟩
    ∃ (fault : Fault) (cursor : Cursor),
      fault.kind = kind ∧ fault.anchor = anchor ∧ (kind = .invalidSyntax → fault.detail = detail) ∧
      s.respond (.fail kind detail start lineText) =
        (if fault.canReport then some (.recorded fault) else none, { s with
          cursor := cursor
          tokens := s.tokens.push anchor
          fault? := if fault.canReport then some fault else s.fault? }) ∧
      cursor.filename = s.cursor.filename ∧ cursor.Consistent source line ∧
      ('\n' ∉ source.drop s.cursor.offset → cursor.offset = source.length) ∧
      ('\n' ∈ source.drop s.cursor.offset → ∃ skipped below, '\n' ∉ skipped ∧
        source.drop s.cursor.offset = skipped ++ '\n' :: below ∧
        cursor.offset = s.cursor.offset + skipped.length + 1 ∧
        ∀ n,
          let failed := (s.respond (.fail kind detail start lineText)).2
          let resumed := failed.after (List.replicate n .turn)
          let fresh := (ofSource (String.ofList (source.drop cursor.offset)) cursor.filename
            cursor.position.line).after (List.replicate n .turn)
          resumed.tokens = failed.tokens ++ fresh.tokens ∧
          (resumed.respond .turn).1 = (fresh.respond .turn).1 ∧
          resumed.fault? = fresh.fault?.or failed.fault? ∧
          resumed.cursor.offset = cursor.offset + fresh.cursor.offset ∧
          resumed.cursor.position = fresh.cursor.position ∧
          resumed.cursor.lineText = fresh.cursor.lineText ∧
          resumed.cursor.current? = fresh.cursor.current?) := by
  intro place anchor
  obtain ⟨filename, before, after, rfl, hcursor⟩ := hs.exists_between
  have hoffset : s.cursor.offset = before.length := by
    rw [hcursor, Cursor.between_offset]
  have hafter : (before ++ after).drop s.cursor.offset = after := by
    rw [hoffset, List.drop_left]
  have hrespond := s.respond_fail_eq kind detail start lineText
  have hconsistent : s.cursor.skipLine.Consistent (before ++ after) line := by
    obtain ⟨count, hcount, hskip⟩ := Cursor.reaches_skipLine s.cursor
    rw [hskip]
    exact hs.stepBy hcount
  rw [hafter]
  refine ⟨anchor.fault kind detail, s.cursor.skipLine, Token.fault_kind _ _ _,
    Token.fault_anchor _ _ _, fun hkind => by rw [hkind]; rfl, hrespond, ?_, hconsistent,
    fun hfeed => ?_, fun hfeed => ?_⟩
  · exact Cursor.filename_skipLine s.cursor
  · rw [hcursor, Cursor.skipLine_between_of_not_mem hfeed]
    rfl
  · obtain ⟨skipped, below, rfl, hskipped⟩ := List.eq_append_cons_of_mem hfeed
    have hskip : s.cursor.skipLine =
        .between filename line (before ++ skipped ++ ['\n']) below := by
      rw [hcursor, Cursor.skipLine_between hskipped, List.append_assoc]
    have hbelow : (before ++ (skipped ++ '\n' :: below)).drop s.cursor.skipLine.offset = below := by
      have hparts : before ++ (skipped ++ '\n' :: below) =
          (before ++ skipped ++ ['\n']) ++ below := by simp
      rw [hskip, Cursor.between_offset, hparts, List.drop_left]
    refine ⟨skipped, below, hskipped, rfl, ?_, fun n => ?_⟩
    · simp only [hskip, Cursor.between_offset, hoffset, List.length_append, List.length_singleton]
    · have hcursor' : (s.respond (.fail kind detail start lineText)).2.cursor = s.cursor.skipLine :=
        congrArg (fun answered => answered.2.cursor) hrespond
      have hname : s.cursor.skipLine.filename = filename := by
        rw [hskip]
        rfl
      have hturns := after_turns_of_feed (hcursor'.trans hskip) n
      rw [hcursor'] at hturns
      rw [hbelow, hname]
      exact hturns

/-- A fault that is recorded in front of a line with another one: the second turn below answers with
the fault of the text below, read by itself. -/
theorem Scanner.respond_fail_above_fault :
    let s := Scanner.ofSource "a b\n 1x\n(" "input" 2
    let failed := (s.respond (.fail .invalidSyntax "no statement" none (some "a"))).2
    failed.tokens = #[⟨.eof, "", "input", "a", ⟨0, 2, 0⟩, ⟨0, 2, 0⟩⟩] ∧
      failed.fault?.isSome = true ∧
      ((failed.after [.turn]).respond .turn).1 =
        (((Scanner.ofSource " 1x\n(" "input" 3).after [.turn]).respond .turn).1 := by
  intro s failed
  obtain ⟨fault, cursor, -, -, -, hrespond, hname, -, -, hresume⟩ :=
    respond_fail (Cursor.consistent_ofSource "a b\n 1x\n(" "input" 2) (s := s) .invalidSyntax
      "no statement" none (some "a")
  obtain ⟨skipped, below, -, -, -, hturns⟩ := hresume (by decide)
  have hcursor : failed.cursor = cursor :=
    congrArg (fun answered => answered.2.cursor) hrespond
  have hoffset : cursor.offset = 4 := by
    rw [← hcursor]
    decide +kernel
  have hline : cursor.position.line = 3 := by
    rw [← hcursor]
    decide +kernel
  refine ⟨congrArg (fun answered => answered.2.tokens) hrespond, by decide +kernel, ?_⟩
  have hanswer := (hturns 1).2.1
  rw [hoffset, hline, hname] at hanswer
  exact hanswer

/-- A caret too far to the right for a report leaves the call without an answer. -/
example : ((Scanner.ofSource "a\nb" "input" 0).respond
    (.fail .invalidSyntax "" (some ⟨0, 0, 10 ^ 20⟩) none)).1 = none := by
  decide +kernel

end Lexis

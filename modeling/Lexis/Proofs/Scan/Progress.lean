import Lexis.Proofs.Scan.Calls

/-!
# Scan — progress

A turn with text ahead gets on: the offset grows, up to the end of the source at most, and the turn
adds one token or none (`offset_respond_turn`, `tokens_respond_turn`).  This holds whatever the turn
answers.

Two loops are made of turns.  A whole scan takes turns until the text ends or one comes upon a fault
(`Loops`).  A driver that does not mind faults takes turns until the text ends (`Drives`).  Both are
counted, and **neither takes more turns than the source has characters** (`turns_progress`).
-/

namespace Lexis

namespace Scanner

variable {source : List Char} {line : Int} {s t : Scanner}

/-! ### One turn -/

theorem cursor_respond_turn (s : Scanner) : (s.respond .turn).2.cursor = s.cursor.turn.cursor := by
  rw [cursor_respond, perform, cursor_answerTurn]

/-- A turn adds one token or none. -/
theorem tokens_respond_turn (s : Scanner) :
    (s.respond .turn).2.tokens = s.tokens ∨
      ∃ token, (s.respond .turn).2.tokens = s.tokens.push token := by
  rw [tokens_respond, perform]
  unfold answerTurn take
  cases s.cursor.turn.reading with
  | nothing => exact .inl rfl
  | token token => exact .inr ⟨token, rfl⟩
  | fault fault => exact .inr ⟨fault.anchor, rfl⟩

theorem size_tokens_respond_turn_le (s : Scanner) :
    (s.respond .turn).2.tokens.size ≤ s.tokens.size + 1 := by
  obtain h | ⟨token, h⟩ := tokens_respond_turn s
  · rw [h]
    exact Nat.le_succ _
  · rw [h, Array.size_push]

/-- A turn with text ahead leaves less. -/
theorem length_rest_respond_turn_lt (h : s.cursor.rest ≠ []) :
    (s.respond .turn).2.cursor.rest.length < s.cursor.rest.length := by
  rw [cursor_respond_turn]
  exact Cursor.length_rest_turn_lt h

/-- **A turn gets on** in the source, and does not leave it. -/
theorem offset_respond_turn (hs : s.cursor.Consistent source line) (h : s.cursor.rest ≠ []) :
    s.cursor.offset < (s.respond .turn).2.cursor.offset ∧
      (s.respond .turn).2.cursor.offset ≤ source.length := by
  obtain ⟨n, hn, hcursor⟩ := s.cursor.reaches_turn
  have hlt := length_rest_respond_turn_lt h
  rw [cursor_respond_turn, hcursor] at hlt ⊢
  rw [Cursor.rest_stepBy, List.length_drop] at hlt
  rw [Cursor.offset_stepBy]
  refine ⟨by omega, ?_⟩
  rw [hs.rest, List.length_drop] at hn
  have hle := hs.offset_le
  omega

/-! ### Loops of turns -/

/-- A whole scan as a loop: the number of its turns, and its answer with the scanner it leaves.  It
ends where no text is left, and closes the stream of tokens there; or behind a turn that comes upon
a fault, as that turn does. -/
inductive Loops : Scanner → Nat → Option Answer × Scanner → Prop where
  | close {s : Scanner} (hrest : s.cursor.rest = []) :
      Loops s 0 (some (.tokens s.close.tokens.toList), { s.close with finished := true })
  | stop {s : Scanner} (hrest : s.cursor.rest ≠ [])
      (hturn : (s.respond .turn).1 ≠ some .nothing) : Loops s 1 (s.respond .turn)
  | more {s : Scanner} {n : Nat} {outcome : Option Answer × Scanner} (hrest : s.cursor.rest ≠ [])
      (hturn : (s.respond .turn).1 = some .nothing) (h : Loops (s.respond .turn).2 n outcome) :
      Loops s (n + 1) outcome

/-- A driver that goes on behind every fault: the number of its turns, and the scanner it leaves
where no text is left. -/
inductive Drives : Scanner → Nat → Scanner → Prop where
  | stop {s : Scanner} (hrest : s.cursor.rest = []) : Drives s 0 s
  | more {s t : Scanner} {n : Nat} (hrest : s.cursor.rest ≠ [])
      (h : Drives (s.respond .turn).2 n t) : Drives s (n + 1) t

/-- What a call for a whole scan answers and leaves hangs on where the scan ends, and on the fault
recorded before. -/
theorem respond_congr {call : Call} (hcall : call.IsWhole) (hcomplete : s.complete = t.complete)
    (hfault : s.fault? = t.fault?) : s.respond call = t.respond call := by
  rw [respond, respond, perform_congr hcall hcomplete, hfault]

/-- Where no text is left, a whole scan closes the stream. -/
theorem respond_tokenize_of_rest_eq_nil (hover : s.isOver = false) (hrest : s.cursor.rest = []) :
    s.respond .tokenize =
      (some (.tokens s.close.tokens.toList), { s.close with finished := true }) := by
  obtain ⟨hfault, -⟩ := isOver_eq_false_iff.mp hover
  have hcomplete : s.complete = { s.close with finished := true } := by
    rw [complete_of_not_isOver hover, finish, run_of_rest_eq_nil hrest, hfault]
    rfl
  have hperform : s.perform .tokenize =
      (.tokens s.close.tokens.toList, { s.close with finished := true }) := by
    have hnone : s.close.fault? = none := hfault
    simp only [perform, tokenize, hcomplete, hnone]
  exact respond_of_perform hperform rfl

/-- A turn that comes upon a fault ends the whole scan as it ends itself. -/
theorem respond_tokenize_of_fault {fault : Fault} (hover : s.isOver = false)
    (hrest : s.cursor.rest ≠ []) (hturn : s.perform .turn = (.fault fault, s.next))
    (hsome : s.next.fault? = some fault) : s.respond .tokenize = s.respond .turn := by
  have hcomplete : s.complete = s.next := complete_of_fault hrest hover hsome
  have hperform : s.perform .tokenize = s.perform .turn := by
    rw [hturn]
    simp only [perform, tokenize, hcomplete, hsome]
  rw [respond, respond, hperform]

/-- **A whole scan is a loop** of at most as many turns as there are characters left. -/
theorem exists_loops (hover : s.isOver = false) :
    ∃ n ≤ s.cursor.rest.length, s.Loops n (s.respond .tokenize) := by
  induction s using run.induct with
  | case1 s h =>
      obtain ⟨hfault, -⟩ := isOver_eq_false_iff.mp hover
      have hrest : s.cursor.rest = [] := h.resolve_right (by simp [hfault])
      rw [respond_tokenize_of_rest_eq_nil hover hrest]
      exact ⟨0, Nat.zero_le _, .close hrest⟩
  | case2 s h ih =>
      have hrest : s.cursor.rest ≠ [] := fun hnil => h (.inl hnil)
      obtain ⟨fault, hturn, hsome⟩ | ⟨hturn, hnone⟩ := perform_turn s
      · rw [respond_tokenize_of_fault hover hrest hturn hsome]
        refine ⟨1, List.length_pos_iff.mpr hrest, .stop hrest ?_⟩
        unfold respond
        rw [hturn]
        dsimp only
        split <;> simp
      · have hrespond : s.respond .turn = (some .nothing, s.next) := respond_of_perform hturn rfl
        have hnext : s.next.isOver = false := by
          rw [isOver, hnone, finished_next]
          exact hover
        obtain ⟨n, hn, hloops⟩ := ih hnext
        have hlt := length_rest_respond_turn_lt hrest
        rw [hrespond] at hlt
        rw [respond_congr .tokenize (complete_next hrest hover).symm hnone.symm]
        refine ⟨n + 1, Nat.lt_of_le_of_lt hn hlt, .more hrest ?_ ?_⟩
        · rw [hrespond]
        · rwa [hrespond]

/-- **A driver comes to the end** in at most as many turns as there are characters left. -/
theorem exists_drives (s : Scanner) : ∃ n ≤ s.cursor.rest.length, ∃ t, s.Drives n t := by
  induction hlength : s.cursor.rest.length using Nat.strong_induction_on generalizing s with
  | h length ih =>
      subst hlength
      by_cases hrest : s.cursor.rest = []
      · exact ⟨0, Nat.zero_le _, s, .stop hrest⟩
      · have hlt := length_rest_respond_turn_lt hrest
        obtain ⟨n, hn, t, hdrives⟩ := ih _ hlt _ rfl
        exact ⟨n + 1, by omega, t, .more hrest hdrives⟩

namespace Drives

variable {n : Nat}

theorem rest_eq_nil (h : s.Drives n t) : t.cursor.rest = [] := by
  induction h with
  | stop hrest => exact hrest
  | more _ _ ih => exact ih

/-- Each turn of a driver adds one token at most. -/
theorem size_tokens_le (h : s.Drives n t) : t.tokens.size ≤ s.tokens.size + n := by
  induction h with
  | stop _ => exact Nat.le_refl _
  | @more s t n _ _ ih =>
      have hturn := size_tokens_respond_turn_le s
      omega

end Drives

end Scanner

/-- **Turns get on.**  A turn at a cursor that is consistent with the source and has text ahead
grows the offset, up to the length of the source at most, and adds one token or none, whether it
comes upon a fault or not.  So a whole scan is a loop of at most as many turns as the source has
characters; and a driver that goes on behind every fault comes to the end of the text in at most as
many, with at most as many tokens and anchors added. -/
theorem turns_progress (source filename : String) (line : Int) :
    let fresh := Scanner.ofSource source filename line
    (∀ s : Scanner, s.cursor.Consistent source.toList line → s.cursor.rest ≠ [] →
      let behind := (s.respond .turn).2
      s.cursor.offset < behind.cursor.offset ∧ behind.cursor.offset ≤ source.length ∧
        (behind.tokens = s.tokens ∨ ∃ token, behind.tokens = s.tokens.push token)) ∧
      (∃ n ≤ source.length, fresh.Loops n (fresh.respond .tokenize)) ∧
      ∃ n ≤ source.length, ∃ s, fresh.Drives n s ∧
        s.cursor.rest = [] ∧ s.tokens.size ≤ source.length := by
  intro fresh
  rw [← String.length_toList]
  refine ⟨fun s hs hrest => ?_, Scanner.exists_loops (s := fresh) rfl, ?_⟩
  · obtain ⟨hlt, hle⟩ := Scanner.offset_respond_turn hs hrest
    exact ⟨hlt, hle, Scanner.tokens_respond_turn s⟩
  · obtain ⟨n, hn, s, hdrives⟩ := Scanner.exists_drives fresh
    have hsize : s.tokens.size ≤ 0 + n := hdrives.size_tokens_le
    rw [Nat.zero_add] at hsize
    exact ⟨n, hn, s, hdrives, hdrives.rest_eq_nil, Nat.le_trans hsize hn⟩

end Lexis

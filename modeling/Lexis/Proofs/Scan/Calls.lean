import Lexis.Proofs.Diagnostic.Rendering
import Lexis.Proofs.Scan.Run
import Lexis.Proofs.Scan.Session

/-!
# Scan — calls in any order

A scan may be taken on by parts: by whole scans, by single turns while text is left and no fault is
recorded, and with looks at the tokens in between (`Call.ScansOn`).  A turn that a whole scan would
take does not change where the whole scan ends (`complete_next`), so every scanner that such calls
lead to heads for the same end (`HeadsFor`), and stays there once its scan is over.

That the end is kept rests on the fault being recorded.  A fault that cannot be reported is not, and
a second whole scan goes on behind it.  **So whole scans are answered alike, in any order with
turns, exactly when the fault of the source, if it has one, can be reported** (`calls_agree_iff`).
-/

namespace Lexis

/-! ### Calls that take a scan on -/

/-- A call that takes a scan on: a look at the tokens, a whole scan, or one turn while text is left
and no fault is recorded. -/
inductive Call.ScansOn (s : Scanner) : Call → Prop where
  | tokens : ScansOn s .tokens
  | tokenize : ScansOn s .tokenize
  | scan : ScansOn s .scan
  | turn (hrest : s.cursor.rest ≠ []) (hfault : s.fault? = none) : ScansOn s .turn

/-- A call for a whole scan. -/
inductive Call.IsWhole : Call → Prop where
  | tokenize : IsWhole .tokenize
  | scan : IsWhole .scan

theorem Call.IsWhole.scansOn {call : Call} (h : call.IsWhole) (s : Scanner) : call.ScansOn s := by
  cases h with
  | tokenize => exact .tokenize
  | scan => exact .scan

namespace Scanner

/-- Calls that take a scan on lead from one scanner to another. -/
inductive Leads : Scanner → Scanner → Prop where
  | refl (s : Scanner) : Leads s s
  | more {s t : Scanner} {call : Call} (hcall : call.ScansOn s) (h : Leads (s.respond call).2 t) :
      Leads s t

variable {s t final : Scanner}

/-! ### Turns and whole scans -/

theorem isOver_eq_false_iff : s.isOver = false ↔ s.fault? = none ∧ s.finished = false := by
  simp [isOver]

theorem isOver_of_fault? {fault : Fault} (h : s.fault? = some fault) : s.isOver = true := by
  rw [isOver, h, Option.isSome_some, Bool.true_or]

/-- A turn answers with the fault that it records, or comes upon none. -/
theorem perform_turn (s : Scanner) :
    (∃ fault, s.perform .turn = (.fault fault, s.next) ∧ s.next.fault? = some fault) ∨
      (s.perform .turn = (.nothing, s.next) ∧ s.next.fault? = s.fault?) := by
  unfold perform answerTurn next take
  cases s.cursor.turn.reading with
  | nothing => exact .inr ⟨rfl, rfl⟩
  | token token => exact .inr ⟨rfl, rfl⟩
  | fault fault => exact .inl ⟨fault, rfl, rfl⟩

theorem finished_next (s : Scanner) : s.next.finished = s.finished := by
  unfold next take
  split <;> rfl

theorem finished_run (s : Scanner) : s.run.finished = s.finished := by
  fun_induction run s with
  | case1 s h => rfl
  | case2 s h ih => rw [ih, finished_next]

/-- Turns stop at the end of the text or at a fault. -/
theorem rest_run_eq_nil_or (s : Scanner) : s.run.cursor.rest = [] ∨ s.run.fault?.isSome = true := by
  fun_induction run s with
  | case1 s h => exact h
  | case2 s h ih => exact ih

theorem complete_of_not_isOver (h : s.isOver = false) : s.complete = s.finish := by
  rw [complete, ← isOver, h, if_neg Bool.false_ne_true]

/-- **A turn that the whole scan would take** does not change where it ends. -/
theorem complete_next (hrest : s.cursor.rest ≠ []) (hover : s.isOver = false) :
    s.next.complete = s.complete := by
  obtain ⟨hfault, hfinished⟩ := isOver_eq_false_iff.mp hover
  have hrun : s.run = s.next.run := run_eq_run_next hrest hfault
  rw [complete_of_not_isOver hover, finish, hrun]
  cases hnext : s.next.isOver with
  | true =>
      -- the turn came upon a fault, where the whole scan stops too
      have hsome : s.next.fault?.isSome = true := by
        rwa [isOver, finished_next, hfinished, Bool.or_false] at hnext
      rw [complete_of_isOver hnext, run_of_isSome hsome, if_pos hsome]
  | false => rw [complete_of_not_isOver hnext, finish]

/-- A whole scan stops at the first fault on its way. -/
theorem complete_of_fault {fault : Fault} (hrest : s.cursor.rest ≠ []) (hover : s.isOver = false)
    (h : s.next.fault? = some fault) : s.complete = s.next := by
  rw [← complete_next hrest hover, complete_of_isOver (isOver_of_fault? h)]

/-- **A whole scan ends** at a fault, or it has read all of the text and closes the stream. -/
theorem complete_cases (hover : s.isOver = false) :
    (s.run.fault?.isSome = true ∧ s.complete = s.run) ∨
      (s.run.fault? = none ∧ s.run.cursor.rest = [] ∧
        s.complete = { s.run.close with finished := true }) := by
  rw [complete_of_not_isOver hover, finish]
  cases hfault : s.run.fault? with
  | some fault => exact .inl ⟨rfl, if_pos rfl⟩
  | none =>
      refine .inr ⟨rfl, (rest_run_eq_nil_or s).resolve_right ?_, if_neg Bool.false_ne_true⟩
      rw [hfault]
      exact Bool.false_ne_true

/-- A whole scan that finishes has read all of the text. -/
theorem rest_complete (hrest : s.finished = true → s.cursor.rest = [])
    (h : s.complete.finished = true) : s.complete.cursor.rest = [] := by
  cases hover : s.isOver with
  | true =>
      rw [complete_of_isOver hover] at h ⊢
      exact hrest h
  | false =>
      obtain ⟨-, hfinished⟩ := isOver_eq_false_iff.mp hover
      obtain ⟨-, hrun⟩ | ⟨-, hnil, hclosed⟩ := complete_cases hover
      · rw [hrun, finished_run, hfinished] at h
        exact absurd h Bool.false_ne_true
      · rw [hclosed]
        exact hnil

/-- A whole scan that comes upon a fault ends where the turns do. -/
theorem complete_eq_run (hover : s.isOver = false) (h : s.complete.fault?.isSome = true) :
    s.complete = s.run := by
  obtain ⟨-, hrun⟩ | ⟨hnone, -, hclosed⟩ := complete_cases hover
  · exact hrun
  · have hfault : s.complete.fault? = none := by
      rw [hclosed]
      exact hnone
    rw [hfault] at h
    exact absurd h Bool.false_ne_true

/-- It has got on in the text then. -/
theorem length_rest_complete_lt (hover : s.isOver = false)
    (h : s.complete.fault?.isSome = true) :
    s.complete.cursor.rest.length < s.cursor.rest.length := by
  obtain ⟨hfault, -⟩ := isOver_eq_false_iff.mp hover
  have hrest : s.cursor.rest ≠ [] := by
    intro hnil
    have hrun := complete_eq_run hover h
    rw [hrun, run_of_rest_eq_nil hnil, hfault] at h
    exact absurd h Bool.false_ne_true
  rw [← complete_next hrest hover]
  obtain ⟨n, -, hcursor⟩ := reaches_complete s.next
  have hturn := Cursor.length_rest_turn_lt hrest
  rw [hcursor, Cursor.rest_stepBy, List.length_drop, next, cursor_take]
  omega

/-! ### One end -/

/-- A scanner heads for the one that a whole scan leaves; it finishes only at the end of the
text. -/
structure HeadsFor (s final : Scanner) : Prop where
  complete : s.complete = final
  rest : s.finished = true → s.cursor.rest = []

/-- A new scanner heads for the end of its whole scan. -/
theorem headsFor_complete (source filename : String) (line : Int) :
    (ofSource source filename line).HeadsFor (ofSource source filename line).complete :=
  ⟨rfl, fun h => absurd h Bool.false_ne_true⟩

theorem HeadsFor.eq_of_isOver (h : s.HeadsFor final) (hover : s.isOver = true) : s = final := by
  rw [← h.complete, complete_of_isOver hover]

/-- What a whole scan answers and leaves hangs on its end. -/
theorem perform_congr {call : Call} (hcall : call.IsWhole) (h : s.complete = t.complete) :
    s.perform call = t.perform call := by
  cases hcall with
  | tokenize => simp only [perform, tokenize, h]
  | scan => simp only [perform, scan, h]

theorem perform_tokenize_snd (s : Scanner) : (s.perform .tokenize).2 = s.complete := by
  unfold perform
  dsimp only
  split <;> rfl

theorem fault?_perform_tokenize (s : Scanner) :
    (s.perform .tokenize).1.fault? = s.complete.fault? := by
  unfold perform tokenize
  cases s.complete.fault? <;> rfl

/-- A call that takes a scan on keeps its end. -/
theorem HeadsFor.perform {call : Call} (h : s.HeadsFor final) (hcall : call.ScansOn s) :
    (s.perform call).2.HeadsFor final := by
  have hcomplete : s.complete.HeadsFor final :=
    ⟨(complete_complete s).trans h.complete, rest_complete h.rest⟩
  cases hcall with
  | tokens => exact h
  | tokenize => rwa [perform_tokenize_snd]
  | scan => exact hcomplete
  | turn hrest hfault =>
      have hfinished : s.finished = false := Bool.eq_false_iff.mpr fun hf => hrest (h.rest hf)
      have hnext : s.next.HeadsFor final := by
        refine ⟨?_, fun hf => ?_⟩
        · rw [complete_next hrest (isOver_eq_false_iff.mpr ⟨hfault, hfinished⟩), h.complete]
        · rw [finished_next, hfinished] at hf
          exact absurd hf Bool.false_ne_true
      obtain ⟨fault, hturn, -⟩ | ⟨hturn, -⟩ := perform_turn s
      · rwa [hturn]
      · rwa [hturn]

/-- The only fault on the way is the one at the end. -/
theorem HeadsFor.canReport {call : Call} (h : s.HeadsFor final)
    (hfinal : final.fault?.all Fault.canReport = true) (hcall : call.ScansOn s) :
    (s.perform call).1.fault?.all Fault.canReport = true := by
  have hheads := h.perform hcall
  cases hcall with
  | tokens => rfl
  | tokenize => rwa [fault?_perform_tokenize, h.complete]
  | scan =>
      rw [← h.complete] at hfinal
      exact hfinal
  | turn hrest hfault =>
      obtain ⟨fault, hturn, hsome⟩ | ⟨hturn, -⟩ := perform_turn s
      · rw [hturn] at hheads ⊢
        rw [← hheads.eq_of_isOver (isOver_of_fault? hsome), hsome] at hfinal
        exact hfinal
      · rw [hturn]
        rfl

/-- **Calls keep the end**, where its fault can be reported. -/
theorem HeadsFor.leads (h : s.HeadsFor final) (hfinal : final.fault?.all Fault.canReport = true)
    (hleads : s.Leads t) : t.HeadsFor final := by
  induction hleads with
  | refl s => exact h
  | more hcall _ ih =>
      refine ih ?_
      rw [respond_of_canReport (h.canReport hfinal hcall)]
      exact h.perform hcall

/-! ### Scans that are over -/

/-- A call on a scan that is over leaves it as it is. -/
theorem respond_of_isOver {call : Call} (hrest : s.finished = true → s.cursor.rest = [])
    (hover : s.isOver = true) (hcall : call.ScansOn s) : (s.respond call).2 = s := by
  have hperform : (s.perform call).2 = s := by
    cases hcall with
    | tokens => rfl
    | tokenize => rw [perform_tokenize_snd, complete_of_isOver hover]
    | scan => exact complete_of_isOver hover
    | turn hne hfault =>
        rw [isOver, hfault, Option.isSome_none, Bool.false_or] at hover
        exact absurd (hrest hover) hne
  unfold respond
  dsimp only
  rw [hperform]
  split <;> rfl

/-- **A scan that is over stays as it is.** -/
theorem Leads.eq_of_isOver (h : s.Leads t) (hrest : s.finished = true → s.cursor.rest = [])
    (hover : s.isOver = true) : t = s := by
  induction h with
  | refl s => rfl
  | more hcall _ ih =>
      have hsame := respond_of_isOver hrest hover hcall
      rw [hsame] at ih
      exact ih hrest hover

/-! ### Faults that are not recorded -/

/-- A whole scan that comes upon a fault too long to report has no answer, and another whole scan is
not answered alike: it goes on where the first one was left. -/
theorem respond_tokenize_ne (hover : s.isOver = false)
    (h : s.complete.fault?.all Fault.canReport = false) :
    (s.respond .tokenize).1 = none ∧
      (s.respond .tokenize).2.respond .tokenize ≠ s.respond .tokenize := by
  obtain ⟨hfault, hfinished⟩ := isOver_eq_false_iff.mp hover
  have hsome : s.complete.fault?.isSome = true := by
    cases hc : s.complete.fault? with
    | none => simp [hc] at h
    | some fault => rfl
  have hreport : (s.perform .tokenize).1.fault?.all Fault.canReport = false := by
    rw [fault?_perform_tokenize]
    exact h
  have hrespond : s.respond .tokenize = (none, { s.complete with fault? := none }) := by
    rw [respond_of_not_canReport hreport, perform_tokenize_snd, hfault]
  have hover' : isOver { s.complete with fault? := none } = false := by
    rw [isOver, complete_eq_run hover hsome, finished_run, hfinished]
    rfl
  refine ⟨congrArg Prod.fst hrespond, fun hsame => ?_⟩
  rw [hrespond] at hsame
  generalize { s.complete with fault? := none } = t at hover' hsame
  -- it would come upon a fault again, and yet not get on
  have hcursor : t.complete.cursor = t.cursor := by
    rw [← perform_tokenize_snd, ← cursor_respond, hsame]
  have hfault' : t.complete.fault?.isSome = true := by
    by_contra hnone
    have hreport' : (t.perform .tokenize).1.fault?.all Fault.canReport = true := by
      rw [fault?_perform_tokenize, Option.not_isSome_iff_eq_none.mp hnone, Option.all_none]
    rw [respond_of_canReport hreport'] at hsame
    exact Option.some_ne_none _ (congrArg Prod.fst hsame)
  have hlt := length_rest_complete_lt hover' hfault'
  rw [hcursor] at hlt
  exact Nat.lt_irrefl _ hlt

end Scanner

/-- **Calls in any order agree with one scan**, exactly when the fault of the source, if it has one,
can be reported.  Then every scanner that whole scans, turns and looks at the tokens lead to, from a
new one, answers a whole scan as the new one does and is left as that leaves it, and once its scan
is over no call changes it.  Exactly then, too, the first whole scan has an answer. -/
theorem calls_agree_iff (source filename : String) (line : Int) :
    let fresh := Scanner.ofSource source filename line
    let reports := (scan source filename line).fault?.all Fault.canReport = true
    ((∀ s, fresh.Leads s →
        (∀ call, Call.IsWhole call → s.respond call = fresh.respond call) ∧
          (s.isOver = true → ∀ t, s.Leads t → t = s)) ↔ reports) ∧
      (reports ↔ ∀ call, Call.IsWhole call → (fresh.respond call).1.isSome = true) := by
  intro fresh reports
  have hheads : fresh.HeadsFor fresh.complete := Scanner.headsFor_complete source filename line
  have hanswers : reports → ∀ call, call.IsWhole →
      fresh.respond call = (some (fresh.perform call).1, (fresh.perform call).2) :=
    fun hreports call hcall =>
      Scanner.respond_of_canReport (hheads.canReport hreports (hcall.scansOn fresh))
  have hnot (h : ¬ reports) :=
    Scanner.respond_tokenize_ne (s := fresh) rfl (Bool.eq_false_iff.mpr h)
  refine ⟨⟨fun hagree => ?_, fun hreports s hs => ?_⟩, fun hreports call hcall => ?_,
    fun hsome => ?_⟩
  · -- the second of two whole scans would be answered like the first
    by_contra h
    exact (hnot h).2 ((hagree _ (.more .tokenize (.refl _))).1 _ .tokenize)
  · have hend : s.HeadsFor fresh.complete := hheads.leads hreports hs
    refine ⟨fun call hcall => ?_, fun hover t ht => ht.eq_of_isOver hend.rest hover⟩
    rw [Scanner.respond_of_canReport (hend.canReport hreports (hcall.scansOn s)),
      Scanner.perform_congr hcall hend.complete, hanswers hreports call hcall]
  · rw [hanswers hreports call hcall, Option.isSome_some]
  · by_contra h
    have hanswer := hsome _ .tokenize
    rw [(hnot h).1] at hanswer
    exact Bool.false_ne_true hanswer

/-- Two whole scans of a source with a fault on a line whose number has one digit more than the
limit.  The first has no answer; the second closes the stream behind the anchor. -/
theorem Scanner.respond_tokenize_long_line :
    let s := ofSource "@" "input" (10 ^ Text.digitLimit - 1)
    let anchor := Token.mark "input" "@" (.lineStart (10 ^ Text.digitLimit - 1))
    (s.respond .tokenize).1 = none ∧
      ((s.respond .tokenize).2.respond .tokenize).1 = some (.tokens [anchor, anchor]) := by
  have hlong := Text.isWritable_pow_sub_one
  generalize (10 ^ Text.digitLimit - 1 : Int) = n at hlong ⊢
  intro s anchor
  have hfault : s.next.fault? = some anchor.illegalCharacter := rfl
  have hcomplete : s.complete = s.next := complete_of_fault (List.cons_ne_nil _ _) rfl hfault
  have hreport : (s.perform .tokenize).1.fault?.all Fault.canReport = false := by
    rw [fault?_perform_tokenize, hcomplete, hfault, Option.all_some]
    exact Fault.canReport_eq_false hlong
  have hrespond : s.respond .tokenize = (none, { s.next with fault? := none }) := by
    rw [respond_of_not_canReport hreport, perform_tokenize_snd, hcomplete]
    rfl
  rw [hrespond]
  refine ⟨rfl, ?_⟩
  -- nothing is left ahead, so that the second scan only closes the stream
  have hclosed : complete { s.next with fault? := none } =
      { close { s.next with fault? := none } with finished := true } := by
    rw [complete_of_not_isOver rfl, finish, run_of_rest_eq_nil rfl]
    rfl
  have hperform : (perform { s.next with fault? := none } .tokenize).1 =
      .tokens [anchor, anchor] := by
    simp only [perform, tokenize, hclosed]
    rfl
  rw [respond_of_canReport (by rw [hperform]; rfl), hperform]

end Lexis

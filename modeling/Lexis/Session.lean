import Lexis.Scanner

/-!
# Session — calls on a scanner

A scanner may be driven by hand: by whole scans, by single turns, by the parts of a turn, or by
single motions of its cursor, in any order.  `perform` is what a call comes to where every fault can
be reported.  But a fault is reported before it is recorded, and there may be too much for a report:
`respond` gives the answer to a call with that in view, and the scanner that the call leaves.

A session is a sequence of calls (`after`).  A fault does not end a session, reported or not.
-/

namespace Lexis

/-- A call on a scanner. -/
inductive Call where
  /-- The tokens so far. -/
  | tokens
  /-- A whole scan, which a fault makes fail. -/
  | tokenize
  /-- A whole scan, whose answer holds its fault. -/
  | scan
  /-- One turn. -/
  | turn
  /-- A turn that reads a string literal; what is at the cursor counts as its opening quote. -/
  | readString
  /-- A turn that reads a run of characters of a class as a word. -/
  | readRun (among : Char → Bool) (kind : Kind) (what : String)
  /-- A check that the word behind the cursor ends there. -/
  | checkWordEnd (what : String)
  /-- A token that ends at the cursor is added. -/
  | emit (kind : Kind) (value : String) (start : Position) (lineText : String)
  /-- The stream of tokens is closed. -/
  | close
  /-- A fault is recorded, at a place and with a line of its own or those of the cursor. -/
  | fail (kind : FaultKind) (detail : String) (start : Option Position) (lineText : Option String)
  | step
  | advance
  | pass
  | shift
  | nextLine

/-- The answer to a call. -/
inductive Answer where
  | nothing
  /-- The character that is now at the cursor, if any. -/
  | character (c : Option Char)
  | token (token : Token)
  | tokens (tokens : List Token)
  | scan (scan : Scan)
  /-- A fault, asked for and recorded. -/
  | recorded (fault : Fault)
  /-- A fault that the call came upon. -/
  | fault (fault : Fault)
  deriving DecidableEq, Repr

/-- The fault that an answer tells of. -/
def Answer.fault? : Answer → Option Fault
  | .scan outcome                                  => outcome.fault?
  | .recorded found | .fault found                 => some found
  | .nothing | .character _ | .token _ | .tokens _ => none

namespace Scanner

/-- The answer to a turn, and the scanner after it. -/
def answerTurn (s : Scanner) (turn : Turn) : Answer × Scanner :=
  match turn.reading with
  | .fault found => (.fault found, s.take turn)
  | _            => (.nothing, s.take turn)

/-- The answer to a motion of the cursor, and the scanner after it. -/
def answerMotion (s : Scanner) (c : Cursor) : Answer × Scanner :=
  (.character c.current?, { s with cursor := c })

/-- The answer to a call, and the scanner after it, where every fault can be reported. -/
def perform (s : Scanner) : Call → Answer × Scanner
  | .tokens => (.tokens s.tokens.toList, s)
  | .tokenize =>
    match s.tokenize with
    | .ok tokens   => (.tokens tokens, s.complete)
    | .error fault => (.fault fault, s.complete)
  | .scan => (.scan s.scan, s.complete)
  | .turn => s.answerTurn s.cursor.turn
  | .readString => s.answerTurn s.cursor.readString
  | .readRun among kind what => s.answerTurn (s.cursor.readRun among kind what)
  | .checkWordEnd what => s.answerTurn (s.cursor.checkWordEnd what)
  | .emit kind value start lineText =>
    let token := s.cursor.token kind value start lineText
    (.token token, { s with tokens := s.tokens.push token })
  | .close => (.token s.closing, s.close)
  | .fail kind detail start lineText =>
    let start    := start.getD s.cursor.position
    let lineText := lineText.getD s.cursor.lineText
    (.recorded (s.cursor.faultAt kind detail start lineText),
      s.take (s.cursor.failAt kind detail start lineText))
  | .step     => s.answerMotion s.cursor.step
  | .advance  => s.answerMotion s.cursor.advance
  | .pass     => s.answerMotion s.cursor.pass
  | .shift    => (.nothing, { s with cursor := s.cursor.shift })
  | .nextLine => (.nothing, { s with cursor := s.cursor.nextLine })

/-! ### Faults that cannot be reported -/

/-- The answer to a call whose faults are reported, and the scanner after it.  A fault that cannot
be reported leaves the call without an answer; its anchor stays with the tokens, and it is not
recorded. -/
def respond (s : Scanner) (call : Call) : Option Answer × Scanner :=
  let answered := s.perform call
  if answered.1.fault?.all Fault.canReport then (some answered.1, answered.2)
  else (none, { answered.2 with fault? := s.fault? })

/-- The scanner after a session. -/
def after (s : Scanner) (calls : List Call) : Scanner :=
  calls.foldl (fun s call => (s.respond call).2) s

theorem respond_of_canReport {s : Scanner} {call : Call}
    (h : (s.perform call).1.fault?.all Fault.canReport = true) :
    s.respond call = (some (s.perform call).1, (s.perform call).2) :=
  if_pos h

theorem respond_of_not_canReport {s : Scanner} {call : Call}
    (h : (s.perform call).1.fault?.all Fault.canReport = false) :
    s.respond call = (none, { (s.perform call).2 with fault? := s.fault? }) :=
  if_neg (by simp [h])

/-- A call that comes upon no fault is answered. -/
theorem respond_of_perform {s t : Scanner} {call : Call} {answer : Answer}
    (h : s.perform call = (answer, t)) (hnone : answer.fault? = none) :
    s.respond call = (some answer, t) := by
  rw [respond_of_canReport (by rw [h, hnone, Option.all_none]), h]

/-- A call that comes upon a fault is answered, and the fault recorded, if it can be reported. -/
theorem respond_of_fault {s t : Scanner} {call : Call} {answer : Answer} {fault : Fault}
    (h : s.perform call = (answer, t)) (hsome : answer.fault? = some fault)
    (hrecorded : t.fault? = some fault) :
    s.respond call = (if fault.canReport then some answer else none,
      { t with fault? := if fault.canReport then some fault else s.fault? }) := by
  have hall : (s.perform call).1.fault?.all Fault.canReport = fault.canReport := by
    rw [h, hsome, Option.all_some]
  cases hreport : fault.canReport with
  | true => rw [respond_of_canReport (hall.trans hreport), h, if_pos rfl, if_pos rfl, ← hrecorded]
  | false => rw [respond_of_not_canReport (hall.trans hreport), h]; rfl

theorem cursor_respond (s : Scanner) (call : Call) :
    (s.respond call).2.cursor = (s.perform call).2.cursor := by
  unfold respond
  dsimp only
  split <;> rfl

theorem tokens_respond (s : Scanner) (call : Call) :
    (s.respond call).2.tokens = (s.perform call).2.tokens := by
  unfold respond
  dsimp only
  split <;> rfl

/-! ### Scans that are over -/

/-- Whether a scan is over: the stream of tokens is closed, or a fault is recorded. -/
def isOver (s : Scanner) : Bool :=
  s.fault?.isSome || s.finished

/-- A scan that is over changes nothing. -/
theorem complete_of_isOver {s : Scanner} (h : s.isOver = true) : s.complete = s := by
  rw [complete, ← isOver, if_pos h]

/-- A whole scan is over at its end. -/
theorem isOver_complete (s : Scanner) : s.complete.isOver = true := by
  unfold complete
  split
  · assumption
  · unfold finish
    split
    · rename_i h
      rw [isOver, h, Bool.true_or]
    · rw [isOver, Bool.or_true]

/-- Scanning again changes nothing. -/
theorem complete_complete (s : Scanner) : s.complete.complete = s.complete :=
  complete_of_isOver s.isOver_complete

/-- Scanning again has the same outcome. -/
theorem scan_complete (s : Scanner) : s.complete.scan = s.scan := by
  rw [scan, scan, complete_complete]

end Scanner

end Lexis

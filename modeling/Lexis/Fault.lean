import Lexis.Diagnostic
import Lexis.Text.Quoted
import Lexis.Text.Slice

/-!
# Faults

A fault is what stops a scan: a character that belongs to no token, or text that is not formed as
the language asks.  It is anchored at a token, and its report is the report on that token.
-/

namespace Lexis

/-- The two sorts of fault. -/
inductive FaultKind where
  | illegalCharacter
  | invalidSyntax
  deriving DecidableEq, Repr

namespace FaultKind

/-- Both sorts. -/
def all : List FaultKind := [.illegalCharacter, .invalidSyntax]

/-- The word that a message begins with. -/
def label : FaultKind → String
  | .illegalCharacter => "IllegalCharacter"
  | .invalidSyntax    => "InvalidSyntax"

end FaultKind

/-- What stops a scan, anchored at the start of a token. -/
structure Fault where
  kind   : FaultKind
  anchor : Token
  detail : String
  deriving DecidableEq, Repr

namespace Fault

/-- Where the fault is. -/
def position (fault : Fault) : Position :=
  fault.anchor.start

/-- The label of the fault, with its detail if it has one. -/
def message (fault : Fault) : String :=
  if fault.detail = "" then fault.kind.label else fault.kind.label ++ ": " ++ fault.detail

/-- Whether nothing is too much for a report on the fault. -/
def canReport (fault : Fault) : Bool :=
  fault.anchor.excess?.isNone

theorem canReport_iff {fault : Fault} : fault.canReport = true ↔ fault.anchor.excess? = none :=
  Option.isNone_iff_eq_none

/-- A fault whose line number has too many digits cannot be reported. -/
theorem canReport_eq_false {fault : Fault}
    (h : Text.isWritable (fault.position.line + 1) = false) : fault.canReport = false := by
  refine Bool.eq_false_iff.mpr fun hcan => ?_
  obtain ⟨-, hwritable⟩ := Token.excess?_eq_none_iff.mp (canReport_iff.mp hcan)
  exact Bool.false_ne_true (h.symm.trans hwritable)

/-- The four-line report on the fault. -/
def report (fault : Fault) : String :=
  fault.anchor.report fault.message

end Fault

namespace Token

/-- The character of the token's line at its start, quoted; quoted emptiness where there is
none. -/
def shownCharacter (token : Token) : String :=
  Text.quoted (String.ofList (Text.sliceAt token.lineText.toList token.start.column))

/-- The fault of an illegal character at the start of a token. -/
def illegalCharacter (token : Token) : Fault :=
  ⟨.illegalCharacter, token, token.shownCharacter⟩

/-- The fault of invalid syntax at the start of a token. -/
def invalidSyntax (token : Token) (detail : String) : Fault :=
  ⟨.invalidSyntax, token, detail⟩

/-- The fault of a given sort at the start of a token; the detail of an illegal character is
always that character. -/
def fault (token : Token) (kind : FaultKind) (detail : String) : Fault :=
  match kind with
  | .illegalCharacter => token.illegalCharacter
  | .invalidSyntax    => token.invalidSyntax detail

@[simp] theorem fault_anchor (token : Token) (kind : FaultKind) (detail : String) :
    (token.fault kind detail).anchor = token := by
  cases kind <;> rfl

@[simp] theorem fault_kind (token : Token) (kind : FaultKind) (detail : String) :
    (token.fault kind detail).kind = kind := by
  cases kind <;> rfl

end Token

end Lexis

/-!
# TOML — flaws

Why a text is read as no document: it breaks a rule of the format, or it goes beyond what the
reader takes, with an integer of too many digits or with values nested too deep.  The flaw that
comes first in the text is the one that is reported.
-/

namespace Lexis.Toml

/-- Why a text is read as no document. -/
inductive Flaw where
  /-- It is not TOML. -/
  | malformed
  /-- A decimal integer has so many digits, which are too many. -/
  | tooManyDigits (count : Nat)
  /-- A value stands within too many others. -/
  | tooDeep
  deriving DecidableEq, Repr

/-- What is read, if anything is; the text is malformed if nothing is. -/
def demand {α : Type} : Option α → Except Flaw α
  | some read => .ok read
  | none      => .error .malformed

end Lexis.Toml

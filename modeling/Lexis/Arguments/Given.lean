/-!
# Arguments — what a flag is given

A flag that takes a value may be given nothing instead: two dashes attached to it stand for no
value.  That is different from an empty value, and from a flag that is not there.
-/

namespace Lexis

/-- What a flag that takes a value is given. -/
inductive Given (α : Type) where
  | value (a : α)
  | nothing
  deriving DecidableEq, Repr

namespace Given

variable {α β : Type}

/-- What the text attached to a flag or behind it gives. -/
def ofText (text : String) : Given String :=
  if text = "--" then .nothing else .value text

/-- What is given, with its value read; nothing where the value cannot be read. -/
def read? (read : α → Option β) : Given α → Option (Given β)
  | .value a => (read a).map .value
  | .nothing => some .nothing

/-- The value that is given, or another in the place of nothing. -/
def getD : Given α → α → α
  | .value a, _  => a
  | .nothing, a₀ => a₀

/-- A given text in writing; brackets with nothing in them for nothing. -/
def shown (text : Given String) : String :=
  text.getD "[]"

end Given

end Lexis

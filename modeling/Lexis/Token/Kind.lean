/-!
# Token — kinds

The ten kinds of token.  `INTEGER`, `IDENTIFIER` and `STRING` carry a text; the six kinds of
punctuation stand for one character each; `EOF` marks where a stream of tokens stops.
-/

namespace Lexis

/-- A kind of token. -/
inductive Kind where
  | eof
  | integer
  | identifier
  | string
  | semicolon
  | lparen
  | rparen
  | comma
  | lbrace
  | rbrace
  deriving DecidableEq, Repr, Inhabited

namespace Kind

/-- Every kind, in the order of their numbers. -/
def all : List Kind :=
  [.eof, .integer, .identifier, .string, .semicolon, .lparen, .rparen, .comma, .lbrace, .rbrace]

/-- The name that dumps give a kind. -/
def name : Kind → String
  | .eof        => "EOF"
  | .integer    => "INTEGER"
  | .identifier => "IDENTIFIER"
  | .string     => "STRING"
  | .semicolon  => "SEMICOLON"
  | .lparen     => "LPAREN"
  | .rparen     => "RPAREN"
  | .comma      => "COMMA"
  | .lbrace     => "LBRACE"
  | .rbrace     => "RBRACE"

/-- The number of a kind, from one on. -/
def number (kind : Kind) : Nat :=
  all.idxOf kind + 1

/-- The kind with a given name. -/
def ofName? (name : String) : Option Kind :=
  all.find? fun kind => kind.name = name

theorem mem_all (kind : Kind) : kind ∈ all := by
  cases kind <;> decide

/-- A kind is found by its name. -/
theorem ofName?_name (kind : Kind) : ofName? kind.name = some kind := by
  cases kind <;> decide

/-- Kinds have different names. -/
theorem name_injective {a b : Kind} (h : a.name = b.name) : a = b := by
  have hab := congrArg ofName? h
  rwa [ofName?_name, ofName?_name, Option.some.injEq] at hab

end Kind

end Lexis

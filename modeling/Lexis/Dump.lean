import Lexis.Json.Printer
import Lexis.Text.Quoted
import Lexis.Token.Basic

/-!
# Dump — token streams in writing

A stream of tokens is written in one of two formats: as text, with one line a token, or as JSON,
with one object a token.  The text counts lines and columns from one, the JSON counts from zero.
-/

namespace Lexis

/-- A way to write a stream of tokens. -/
inductive Format where
  | text
  | json
  deriving DecidableEq, Repr, Inhabited

namespace Format

/-- Both formats, in the order that messages list them. -/
def all : List Format := [.text, .json]

/-- The name of a format. -/
def name : Format → String
  | .text => "text"
  | .json => "json"

/-- The format with a given name. -/
def ofName? (name : String) : Option Format :=
  all.find? fun format => format.name = name

end Format

/-! ### Text -/

/-- A line and a column, counted from one. -/
def Position.shown (p : Position) : String :=
  Text.integer (p.line + 1) ++ ":" ++ Text.integer (p.column + 1)

/-- The line for a token: its span, its kind and, for all but the end of the file, its value. -/
def Token.shown (token : Token) : String :=
  token.start.shown ++ "-" ++ token.stop.shown ++ "  " ++ token.kind.name ++
    (if token.kind = .eof then "" else " " ++ Text.quoted token.value) ++ "\n"

/-- A stream of tokens as text. -/
def dumpText (tokens : List Token) : String :=
  String.join (tokens.map Token.shown)

/-! ### JSON -/

/-- A position as an object. -/
def Position.toJson (p : Position) : Json :=
  .object [("index", .number p.index), ("lineno", .number p.line), ("column", .number p.column)]

/-- A token as an object. -/
def Token.toJson (token : Token) : Json :=
  .object [("kind", .string token.kind.name), ("value", .string token.value),
    ("start", token.start.toJson), ("end", token.stop.toJson)]

/-- A stream of tokens as an array. -/
def dumpJson (tokens : List Token) : Json :=
  .array (tokens.map Token.toJson)

/-- The numbers that a dump has for a position. -/
def Format.numbers : Format → Position → List Int
  | .text, p => [p.line + 1, p.column + 1]
  | .json, p => [p.index, p.line, p.column]

/-- Whether every number in a dump has few enough digits to be reported. -/
def Format.canWrite (format : Format) (tokens : List Token) : Bool :=
  tokens.all fun token =>
    (format.numbers token.start ++ format.numbers token.stop).all Text.isWritable

/-- A stream of tokens in a given format. -/
def Format.write : Format → List Token → String
  | .text, tokens => dumpText tokens
  | .json, tokens => (dumpJson tokens).print ++ "\n"

/-- A stream of tokens in a given format, where every number in it has few enough digits to be
reported. -/
def Format.write? (format : Format) (tokens : List Token) : Option String :=
  if format.canWrite tokens then some (format.write tokens) else none

end Lexis

import Lexis.Json.Basic
import Lexis.Text.Decimal
import Lexis.Text.Quoted

/-!
# JSON — printer

JSON text in ASCII alone, with one item or field a line and two spaces of indentation for each
level.  In a text, the quote, the backslash and the characters outside the printable ASCII are
escaped; a character above `U+FFFF` is escaped as its two surrogates.
-/

namespace Lexis.Json

open Lexis.Text (decimalInt)

/-! ### Texts -/

/-- One sixteen-bit unit, escaped. -/
def escapeUnit (unit : Nat) : List Char :=
  '\\' :: 'u' :: Text.Quoted.hex 4 unit

/-- A code point by its number: one unit, or the two surrogates of a number above sixteen
bits. -/
def escapePoint (n : Nat) : List Char :=
  if n < 0x10000 then escapeUnit n
  else escapeUnit (0xD800 + (n - 0x10000) / 0x400) ++ escapeUnit (0xDC00 + (n - 0x10000) % 0x400)

/-- A character inside a text. -/
def escapeChar (c : Char) : List Char :=
  if c = '"' ∨ c = '\\' then ['\\', c]
  else if c = '\n' then ['\\', 'n']
  else if c = '\r' then ['\\', 'r']
  else if c = '\t' then ['\\', 't']
  else if c = '\x08' then ['\\', 'b']
  else if c = '\x0c' then ['\\', 'f']
  else if ' '.toNat ≤ c.toNat ∧ c.toNat ≤ '~'.toNat then [c]
  else escapePoint c.toNat

/-- A text between quotes. -/
def printText (text : List Char) : List Char :=
  '"' :: (text.flatMap escapeChar ++ ['"'])

/-! ### Layout -/

/-- A line feed and the indentation of a level. -/
def newline (level : Nat) : List Char :=
  '\n' :: List.replicate (2 * level) ' '

mutual

/-- A value whose lines lie at a level. -/
def printAt (level : Nat) : Json → List Char
  | .number n             => decimalInt n
  | .string text          => printText text.toList
  | .array []             => ['[', ']']
  | .array (item :: rest) =>
    '[' :: (newline (level + 1) ++ printAt (level + 1) item ++ printItems level rest)
  | .object []            => ['\x7b', '\x7d']
  | .object ((name, value) :: rest) =>
    '\x7b' :: (newline (level + 1) ++ printText name.toList ++ ':' :: ' ' ::
      (printAt (level + 1) value ++ printFields level rest))

/-- The items behind the first, and the end of the array. -/
def printItems (level : Nat) : List Json → List Char
  | []           => newline level ++ [']']
  | item :: rest =>
    ',' :: (newline (level + 1) ++ printAt (level + 1) item ++ printItems level rest)

/-- The fields behind the first, and the end of the object. -/
def printFields (level : Nat) : List (String × Json) → List Char
  | []                    => newline level ++ ['\x7d']
  | (name, value) :: rest =>
    ',' :: (newline (level + 1) ++ printText name.toList ++ ':' :: ' ' ::
      (printAt (level + 1) value ++ printFields level rest))

end

/-- A value as a JSON text. -/
def print (json : Json) : String :=
  String.ofList (json.printAt 0)

end Lexis.Json

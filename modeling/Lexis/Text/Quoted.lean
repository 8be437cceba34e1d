import Lexis.Text.Printable

/-!
# Text — quoted text

The one-line form in which messages and dumps show a text: between two marks, with the mark, the
backslash and every unprintable character escaped.  The mark is the apostrophe, or the double
quote where that saves escaping apostrophes.
-/

namespace Lexis.Text.Quoted

/-- The enclosing mark: the double quote for a text with apostrophes and no double quote. -/
def mark (text : List Char) : Char :=
  if text.contains '\'' && !text.contains '"' then '"' else '\''

/-- The lower-case hexadecimal digit of a number below sixteen. -/
def hexDigit (n : Nat) : Char :=
  if n < 10 then Char.ofNat (48 + n) else Char.ofNat (87 + n)

/-- The last `width` hexadecimal digits of `n`. -/
def hex : (width : Nat) → (n : Nat) → List Char
  | 0,         _ => []
  | width + 1, n => hex width (n / 16) ++ [hexDigit (n % 16)]

/-- A character by its code point, in the shortest of the three forms that hold it. -/
def codePoint (n : Nat) : List Char :=
  if n < 0x100 then '\\' :: 'x' :: hex 2 n
  else if n < 0x10000 then '\\' :: 'u' :: hex 4 n
  else '\\' :: 'U' :: hex 8 n

/-- One character between the marks `q`. -/
def escape (q c : Char) : List Char :=
  if c = q ∨ c = '\\' then ['\\', c]
  else if c = '\n' then ['\\', 'n']
  else if c = '\r' then ['\\', 'r']
  else if c = '\t' then ['\\', 't']
  else if isPrintable c then [c]
  else codePoint c.toNat

/-- A text between its marks. -/
def encode (text : List Char) : List Char :=
  mark text :: (text.flatMap (escape (mark text)) ++ [mark text])

end Lexis.Text.Quoted

namespace Lexis.Text

/-- A text as messages and dumps show it. -/
def quoted (text : String) : String :=
  String.ofList (Quoted.encode text.toList)

end Lexis.Text

import Lexis.Token.Kind

/-!
# Token — character classes

The characters that the scanner tells apart, as predicates (`isDigit`, `isLetter`, …) and as
tables in code point order (`digits`, `letters`, …).  A character is in a table exactly when the
predicate holds of it (`Charset.mem_table_iff`).

Of the punctuation only the six characters of `Kind.ofPunctuation?` make tokens.  The others may
follow a word and are rejected where a token starts.
-/

namespace Lexis

/-- The mark that encloses a string literal. -/
def quote : Char := '"'

/-- The character that escapes the next one in a string literal. -/
def escape : Char := '\\'

/-- The characters from `low` to `high`. -/
def charRange (low high : Char) : List Char :=
  (List.range' low.toNat (high.toNat + 1 - low.toNat)).map Char.ofNat

/-- A class of characters. -/
inductive Charset where
  | digits
  | letters
  | lettersDigits
  | punctuations
  | spaces
  deriving DecidableEq, Repr

/-- An ASCII digit. -/
def isDigit (c : Char) : Bool := c.isDigit

/-- An ASCII letter or the underscore. -/
def isLetter (c : Char) : Bool := c.isAlpha || c = '_'

/-- A character that continues an identifier. -/
def isLetterOrDigit (c : Char) : Bool := isLetter c || isDigit c

/-- The punctuation, in code point order. -/
def punctuations : List Char :=
  ['!', '#', '%', '&', '(', ')', '*', '+', ',', '-', '.', '/', ':', ';', '<', '=', '>', '?', '[',
   ']', '^', '\x7b', '|', '\x7d', '~']

/-- The characters skipped between tokens, in code point order. -/
def spaces : List Char := ['\t', '\n', '\r', ' ']

/-- A punctuation character. -/
def isPunctuation (c : Char) : Bool := punctuations.contains c

/-- A character skipped between tokens. -/
def isSpace (c : Char) : Bool := spaces.contains c

/-- The kind of the token that a punctuation character makes. -/
def Kind.ofPunctuation? (c : Char) : Option Kind :=
  if c = ';' then some .semicolon
  else if c = '(' then some .lparen
  else if c = ')' then some .rparen
  else if c = ',' then some .comma
  else if c = '\x7b' then some .lbrace
  else if c = '\x7d' then some .rbrace
  else none

/-- Whether a character may begin a token: a letter, a digit, punctuation or the quote. -/
def startsToken (c : Char) : Bool :=
  isLetterOrDigit c || isPunctuation c || c = quote

namespace Charset

/-- Whether a character is in a class. -/
def contains : Charset → Char → Bool
  | .digits        => isDigit
  | .letters       => isLetter
  | .lettersDigits => isLetterOrDigit
  | .punctuations  => isPunctuation
  | .spaces        => isSpace

/-- The characters of a class, in code point order. -/
def table : Charset → List Char
  | .digits        => charRange '0' '9'
  | .letters       => charRange 'A' 'Z' ++ '_' :: charRange 'a' 'z'
  | .lettersDigits => charRange '0' '9' ++ (charRange 'A' 'Z' ++ '_' :: charRange 'a' 'z')
  | .punctuations  => Lexis.punctuations
  | .spaces        => Lexis.spaces

end Charset

theorem mem_charRange_iff {low high c : Char} (h : high.toNat < 0xD800) :
    c ∈ charRange low high ↔ low.toNat ≤ c.toNat ∧ c.toNat ≤ high.toNat := by
  simp only [charRange, List.mem_map, List.mem_range'_1]
  constructor
  · rintro ⟨n, ⟨hlow, hhigh⟩, rfl⟩
    have hn : n.isValidChar := .inl (by omega)
    have : (Char.ofNat n).toNat = n := by
      rw [Char.ofNat, dif_pos hn]
      rfl
    omega
  · rintro ⟨hlow, hhigh⟩
    exact ⟨c.toNat, by omega, Char.ofNat_toNat c⟩

theorem isDigit_iff (c : Char) : isDigit c = true ↔ 48 ≤ c.toNat ∧ c.toNat ≤ 57 := by
  simp [isDigit, Char.isDigit, UInt32.le_iff_toNat_le]

theorem isLetter_iff (c : Char) : isLetter c = true ↔
    (65 ≤ c.toNat ∧ c.toNat ≤ 90) ∨ (97 ≤ c.toNat ∧ c.toNat ≤ 122) ∨ c = '_' := by
  have halpha : c.isAlpha = (c.isUpper || c.isLower) := rfl
  have hupper : c.isUpper = decide (c.val ≥ 'A'.val ∧ c.val ≤ 'Z'.val) := rfl
  have hlower : c.isLower = (decide (c.val ≥ 'a'.val) && decide (c.val ≤ 'z'.val)) := rfl
  simp [isLetter, halpha, hupper, hlower, UInt32.le_iff_toNat_le, or_assoc]

/-- The tables list the classes. -/
theorem Charset.mem_table_iff (charset : Charset) (c : Char) :
    c ∈ charset.table ↔ charset.contains c = true := by
  cases charset with
  | digits => simp [table, contains, mem_charRange_iff, isDigit_iff]
  | letters =>
    simp [table, contains, mem_charRange_iff, isLetter_iff]
    grind
  | lettersDigits =>
    simp [table, contains, isLetterOrDigit, mem_charRange_iff, isLetter_iff, isDigit_iff]
    grind
  | punctuations => simp [table, contains, isPunctuation]
  | spaces => simp [table, contains, isSpace]

end Lexis

/-!
# Text — blanks

The characters that trimming removes from the two ends of a line: those with the `White_Space`
property, and the four information separators.  `trim` is the two one-sided trims in turn, and
what it leaves neither begins nor ends with a blank (`trimLeft_head`, `trimRight_getLast`).
-/

namespace Lexis.Text

/-- The ranges of blanks, in ascending order. -/
def blankRanges : List (Nat × Nat) :=
  [(0x09, 0x0D), (0x1C, 0x20), (0x85, 0x85), (0xA0, 0xA0), (0x1680, 0x1680), (0x2000, 0x200A),
   (0x2028, 0x2029), (0x202F, 0x202F), (0x205F, 0x205F), (0x3000, 0x3000)]

/-- Whether trimming removes the character. -/
def isBlank (c : Char) : Bool :=
  blankRanges.any fun range => range.1 ≤ c.toNat && c.toNat ≤ range.2

/-- The text without its leading blanks. -/
def trimLeft (text : List Char) : List Char :=
  text.dropWhile isBlank

/-- The text without its trailing blanks. -/
def trimRight (text : List Char) : List Char :=
  (text.reverse.dropWhile isBlank).reverse

/-- The text without its outer blanks. -/
def trim (text : List Char) : List Char :=
  trimRight (trimLeft text)

/-- The text without its last character, where that is `c`. -/
def dropTrailing (c : Char) (text : List Char) : List Char :=
  if text.getLast? = some c then text.dropLast else text

/-- A left-trimmed text begins with no blank. -/
theorem trimLeft_head {text : List Char} {c : Char} (h : (trimLeft text).head? = some c) :
    isBlank c = false := by
  induction text with
  | nil => simp [trimLeft] at h
  | cons d rest ih =>
    by_cases hd : isBlank d = true
    · rw [trimLeft, List.dropWhile_cons_of_pos hd] at h
      exact ih h
    · rw [trimLeft, List.dropWhile_cons_of_neg hd] at h
      simp only [List.head?_cons, Option.some.injEq] at h
      subst h
      simpa using hd

/-- A right-trimmed text ends with no blank. -/
theorem trimRight_getLast {text : List Char} {c : Char} (h : (trimRight text).getLast? = some c) :
    isBlank c = false := by
  rw [trimRight, List.getLast?_reverse] at h
  exact trimLeft_head h

end Lexis.Text

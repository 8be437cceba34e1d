/-!
# Text — decimal numbers

Whole numbers in positional notation: `value` reads a list of digits in any base, `decimal` writes
a natural number in base ten and `decimalInt` an integer, with a minus sign below zero.  What is
written reads back (`value_decimalDigits`).

These are defined for every number.  Texts from outside and reports to the outside keep to numbers
of at most `digitLimit` digits, which are those below a power of ten (`isWritable_iff`).
-/

namespace Lexis.Text

/-- The number that digits stand for in a base, the first digit weighing most. -/
def value (base : Nat) (digits : List Nat) : Nat :=
  digits.foldl (fun sum digit => base * sum + digit) 0

/-- The decimal digits of a number; a single zero for zero. -/
def decimalDigits (n : Nat) : List Nat :=
  if n < 10 then [n] else decimalDigits (n / 10) ++ [n % 10]

/-- The character of a decimal digit. -/
def digitChar (digit : Nat) : Char :=
  Char.ofNat ('0'.toNat + digit)

/-- A natural number in decimal. -/
def decimal (n : Nat) : List Char :=
  (decimalDigits n).map digitChar

/-- An integer in decimal. -/
def decimalInt : Int → List Char
  | .ofNat n   => decimal n
  | .negSucc n => '-' :: decimal (n + 1)

/-- An integer in decimal, as a text. -/
def integer (n : Int) : String :=
  String.ofList (decimalInt n)

/-- The greatest number of digits that a number is read from or reported with. -/
def digitLimit : Nat := 4300

/-- Whether an integer has few enough digits to be reported. -/
def isWritable (n : Int) : Bool :=
  n.natAbs < Nat.pow 10 digitLimit

/-- A value as a decimal digit, for the digits zero to nine. -/
def digitValue? (c : Char) : Option Nat :=
  if c.isDigit then some (c.toNat - '0'.toNat) else none

theorem value_append (base : Nat) (digits : List Nat) (last : Nat) :
    value base (digits ++ [last]) = base * value base digits + last := by
  simp [value]

/-- The digits of a number stand for it. -/
theorem value_decimalDigits (n : Nat) : value 10 (decimalDigits n) = n := by
  fun_induction decimalDigits n with
  | case1 n h => simp [value]
  | case2 n h ih => rw [value_append, ih]; omega

theorem decimalDigits_lt {n digit : Nat} (h : digit ∈ decimalDigits n) : digit < 10 := by
  fun_induction decimalDigits n with
  | case1 n hn => simp only [List.mem_singleton] at h; omega
  | case2 n hn ih =>
    rcases List.mem_append.1 h with h | h
    · exact ih h
    · simp only [List.mem_singleton] at h; omega

theorem length_decimalDigits_pos (n : Nat) : 0 < (decimalDigits n).length := by
  rw [decimalDigits]
  split <;> simp

/-- The numbers of at most so many digits are those below a power of ten. -/
theorem length_decimalDigits_le_iff (n : Nat) {k : Nat} (hk : 0 < k) :
    (decimalDigits n).length ≤ k ↔ n < Nat.pow 10 k := by
  rw [Nat.pow_eq]
  fun_induction decimalDigits n generalizing k with
  | case1 n h =>
    obtain ⟨k, rfl⟩ := Nat.exists_eq_succ_of_ne_zero (Nat.ne_of_gt hk)
    have := Nat.one_le_pow k 10 (by omega)
    simp only [List.length_singleton, Nat.pow_succ]
    omega
  | case2 n h ih =>
    obtain ⟨k, rfl⟩ := Nat.exists_eq_succ_of_ne_zero (Nat.ne_of_gt hk)
    rw [List.length_append, List.length_singleton, Nat.succ_eq_add_one, Nat.add_le_add_iff_right]
    rcases Nat.eq_zero_or_pos k with rfl | hk
    · have := length_decimalDigits_pos (n / 10)
      simp only [Nat.zero_add, Nat.pow_one]
      omega
    · rw [ih hk, Nat.div_lt_iff_lt_mul (by omega), Nat.pow_succ]

/-- The integers that are reported are those with no more digits than the limit. -/
theorem isWritable_iff (n : Int) :
    isWritable n ↔ (decimalDigits n.natAbs).length ≤ digitLimit := by
  rw [isWritable, decide_eq_true_iff, length_decimalDigits_le_iff _ (by decide)]

/-- A digit's character has its value. -/
theorem digitValue?_digitChar {digit : Nat} (h : digit < 10) :
    digitValue? (digitChar digit) = some digit := by
  rcases digit with _ | _ | _ | _ | _ | _ | _ | _ | _ | _ | digit
  all_goals first | rfl | omega

end Lexis.Text

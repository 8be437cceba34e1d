import Lexis.Text.Decimal
import Mathlib.Data.List.TakeWhile

/-!
# Text — numerals

A numeral is a run of digits, with a minus sign in front or without.  In front of a character that
is no digit it can be told from what is behind it, so two texts that begin with numerals are equal
only where the numbers are (`decimalInt_append_inj`).
-/

namespace Lexis.Text

/-! ### Runs -/

section

variable {α : Type} {p : α → Bool} {run rest : List α}

/-- A run ends in front of an item that is not of its class. -/
theorem takeWhile_run (hrun : ∀ a ∈ run, p a = true) (hrest : ∀ a ∈ rest.head?, p a = false) :
    (run ++ rest).takeWhile p = run := by
  rw [List.takeWhile_append_of_pos hrun]
  cases rest with
  | nil => exact List.append_nil run
  | cons a rest =>
      rw [List.takeWhile_cons_of_neg (by simp [hrest a rfl]), List.append_nil]

theorem dropWhile_run (hrun : ∀ a ∈ run, p a = true) (hrest : ∀ a ∈ rest.head?, p a = false) :
    (run ++ rest).dropWhile p = rest := by
  rw [List.dropWhile_append_of_pos hrun]
  cases rest with
  | nil => rfl
  | cons a rest => exact List.dropWhile_cons_of_neg (by simp [hrest a rfl])

end

/-! ### Digits -/

/-- What holds of the ten digits holds of every character of a number. -/
theorem forall_mem_decimal {P : Char → Prop} (hdigit : ∀ digit < 10, P (digitChar digit)) {n : Nat}
    {c : Char} (h : c ∈ decimal n) : P c := by
  obtain ⟨digit, hmem, rfl⟩ := List.mem_map.mp h
  exact hdigit digit (decimalDigits_lt hmem)

theorem forall_mem_decimalInt {P : Char → Prop} (hminus : P '-')
    (hdigit : ∀ digit < 10, P (digitChar digit)) {n : Int} {c : Char} (h : c ∈ decimalInt n) :
    P c := by
  cases n with
  | ofNat n => exact forall_mem_decimal hdigit h
  | negSucc n =>
      rcases List.mem_cons.mp h with rfl | h
      · exact hminus
      · exact forall_mem_decimal hdigit h

theorem isDigit_of_mem_decimal {n : Nat} {c : Char} (h : c ∈ decimal n) : c.isDigit = true :=
  forall_mem_decimal (P := fun c => c.isDigit = true) (by decide) h

theorem eq_minus_or_isDigit_of_mem_decimalInt {n : Int} {c : Char} (h : c ∈ decimalInt n) :
    c = '-' ∨ c.isDigit = true :=
  forall_mem_decimalInt (P := fun c => c = '-' ∨ c.isDigit = true) (by decide) (by decide) h

theorem decimal_ne_nil (n : Nat) : decimal n ≠ [] := by
  have hpos := length_decimalDigits_pos n
  exact List.ne_nil_of_length_pos (by rwa [decimal, List.length_map])

/-- The digits of a number are read back. -/
theorem mapM_digitValue?_decimal (n : Nat) :
    (decimal n).mapM digitValue? = some (decimalDigits n) := by
  rw [decimal, List.mapM_map]
  have hall : ∀ digit ∈ decimalDigits n, (digitValue? ∘ digitChar) digit = some digit :=
    fun digit hmem => digitValue?_digitChar (decimalDigits_lt hmem)
  generalize decimalDigits n = digits at hall ⊢
  induction digits with
  | nil => rfl
  | cons digit digits ih =>
      rw [List.forall_mem_cons] at hall
      rw [List.mapM_cons, hall.1, ih hall.2]
      rfl

theorem decimal_injective {m n : Nat} (h : decimal m = decimal n) : m = n := by
  have hdigits := mapM_digitValue?_decimal m
  rw [h, mapM_digitValue?_decimal, Option.some.injEq] at hdigits
  rw [← value_decimalDigits m, ← hdigits, value_decimalDigits]

/-! ### Numerals in front of a text -/

variable {rest rest' : List Char}

theorem takeWhile_isDigit_decimal (n : Nat) (h : ∀ c ∈ rest.head?, c.isDigit = false) :
    (decimal n ++ rest).takeWhile Char.isDigit = decimal n :=
  takeWhile_run (fun _ => isDigit_of_mem_decimal) h

theorem dropWhile_isDigit_decimal (n : Nat) (h : ∀ c ∈ rest.head?, c.isDigit = false) :
    (decimal n ++ rest).dropWhile Char.isDigit = rest :=
  dropWhile_run (fun _ => isDigit_of_mem_decimal) h

theorem decimal_append_inj {m n : Nat} (h : ∀ c ∈ rest.head?, c.isDigit = false)
    (h' : ∀ c ∈ rest'.head?, c.isDigit = false) (heq : decimal m ++ rest = decimal n ++ rest') :
    m = n ∧ rest = rest' := by
  have hdigits : decimal m = decimal n := by
    rw [← takeWhile_isDigit_decimal m h, heq, takeWhile_isDigit_decimal n h']
  rw [hdigits, List.append_cancel_left_eq] at heq
  exact ⟨decimal_injective hdigits, heq⟩

/-- A number without a sign does not begin with one. -/
theorem decimal_append_ne_minus_cons (n : Nat) (rest rest' : List Char) :
    decimal n ++ rest ≠ '-' :: rest' := by
  intro heq
  cases hn : decimal n with
  | nil => exact decimal_ne_nil n hn
  | cons c digits =>
      rw [hn, List.cons_append, List.cons.injEq] at heq
      have hdigit : c.isDigit = true := isDigit_of_mem_decimal (n := n) (by simp [hn])
      rw [heq.1] at hdigit
      exact absurd hdigit (by decide)

/-- **A numeral determines its number and what is behind it**, where that is no digit. -/
theorem decimalInt_append_inj {m n : Int} (h : ∀ c ∈ rest.head?, c.isDigit = false)
    (h' : ∀ c ∈ rest'.head?, c.isDigit = false)
    (heq : decimalInt m ++ rest = decimalInt n ++ rest') : m = n ∧ rest = rest' := by
  -- numbers of different signs already differ in the first character
  match m, n with
  | .ofNat m, .ofNat n =>
      obtain ⟨rfl, hrest⟩ := decimal_append_inj h h' heq
      exact ⟨rfl, hrest⟩
  | .ofNat m, .negSucc n => exact absurd heq (decimal_append_ne_minus_cons m rest _)
  | .negSucc m, .ofNat n => exact absurd heq.symm (decimal_append_ne_minus_cons n rest' _)
  | .negSucc m, .negSucc n =>
      obtain ⟨hsucc, hrest⟩ := decimal_append_inj h h' (List.cons.inj heq).2
      obtain rfl := Nat.succ.inj hsucc
      exact ⟨rfl, hrest⟩

end Lexis.Text

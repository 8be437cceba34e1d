import Lexis.Json.Printer
import Lexis.Proofs.Text.Numeral
import Lexis.Proofs.Text.Quoted

/-!
# JSON — reader

A reader of JSON text.  It knows the values there are: whole numbers, texts, arrays and objects.
Gaps may stand before and behind each part of a text.  A number has no zero in front.  Of a text,
`readUnits?` reads the units, which are code points and escaped units of sixteen bits, and
`joinUnits?` joins the surrogates among them two by two; a text in which one is left alone, and one
with a bare control character, cannot be read.

The numbers and the texts of the printer read back (`readNumber?_decimalInt`,
`readText?_printText`): a numeral up to the first character that is no digit, a text up to its
closing quote.
-/

namespace Lexis.Json

open Text (decimal decimalInt hexNumber?)

/-! ### Gaps -/

def isGap (c : Char) : Bool :=
  [' ', '\t', '\n', '\r'].contains c

def skipGap (text : List Char) : List Char :=
  text.dropWhile isGap

/-! ### Numbers -/

/-- The natural number at the front of a text, and the text behind it. -/
def readNatural? (text : List Char) : Option (Nat × List Char) :=
  let digits := text.takeWhile Char.isDigit
  if digits = [] ∨ digits.head? = some '0' ∧ digits ≠ ['0'] then none
  else (digits.mapM Text.digitValue?).map fun values =>
    (Text.value 10 values, text.dropWhile Char.isDigit)

/-- The whole number at the front of a text, and the text behind it. -/
def readNumber? : List Char → Option (Int × List Char)
  | '-' :: text => (readNatural? text).map fun (n, rest) => (-n, rest)
  | text        => (readNatural? text).map fun (n, rest) => (n, rest)

/-! ### Texts -/

/-- The character for which a letter stands behind a backslash. -/
def shortEscape? (c : Char) : Option Char :=
  [('"', '"'), ('\\', '\\'), ('/', '/'), ('b', '\x08'), ('f', '\x0c'), ('n', '\n'), ('r', '\r'),
    ('t', '\t')].lookup c

/-- The units of a text up to its closing quote, and what is behind the quote. -/
def readUnits? : List Char → Option (List Nat × List Char)
  | '"' :: rest                             => some ([], rest)
  | '\\' :: 'u' :: c₁ :: c₂ :: c₃ :: c₄ :: rest => do
    let unit ← hexNumber? [c₁, c₂, c₃, c₄]
    let (units, rest) ← readUnits? rest
    some (unit :: units, rest)
  | '\\' :: c :: rest                       => do
    let escaped ← shortEscape? c
    let (units, rest) ← readUnits? rest
    some (escaped.toNat :: units, rest)
  | c :: rest                               =>
    if c = '\\' ∨ c.toNat < ' '.toNat then none
    else (readUnits? rest).map fun (units, rest) => (c.toNat :: units, rest)
  | []                                      => none

/-- The characters that units stand for, a high surrogate and the low one behind it for one. -/
def joinUnits? : List Nat → Option (List Char)
  | []            => some []
  | unit :: units =>
    if unit < 0xD800 ∨ 0xDFFF < unit then (joinUnits? units).map (Char.ofNat unit :: ·)
    else match units with
      | low :: units =>
        if unit < 0xDC00 ∧ 0xDC00 ≤ low ∧ low ≤ 0xDFFF then
          (joinUnits? units).map
            (Char.ofNat (0x10000 + 0x400 * (unit - 0xD800) + (low - 0xDC00)) :: ·)
        else none
      | []           => none

/-- The text up to a closing quote, and what is behind the quote. -/
def readText? (text : List Char) : Option (String × List Char) := do
  let (units, rest) ← readUnits? text
  let chars ← joinUnits? units
  some (String.ofList chars, rest)

/-! ### Values -/

section

variable {α : Type} (close : Char) (one : List Char → Option (α × List Char))

/-- One part or more, with commas between them, up to a closing bracket. -/
def readParts? : (limit : Nat) → List Char → Option (List α × List Char)
  | 0,         _    => none
  | limit + 1, text => do
    let (part, rest) ← one text
    match skipGap rest with
    | []        => none
    | c :: rest =>
      if c = ',' then
        let (parts, rest) ← readParts? limit rest
        some (part :: parts, rest)
      else if c = close then some ([part], rest)
      else none

/-- What stands behind an opening bracket, up to the closing one. -/
def readBracketed? (text : List Char) : Option (List α × List Char) :=
  match skipGap text with
  | []        => none
  | c :: rest => if c = close then some ([], rest) else readParts? close one text.length text

end

/-- A field, by a reader of its value. -/
def readField? (value? : List Char → Option (Json × List Char)) (text : List Char) :
    Option ((String × Json) × List Char) :=
  match skipGap text with
  | '"' :: rest => do
    let (name, rest) ← readText? rest
    match skipGap rest with
    | ':' :: rest =>
      let (value, rest) ← value? rest
      some ((name, value), rest)
    | _           => none
  | _           => none

/-- The value at the front of a text, and the text behind it, where it is not too deep. -/
def readValue? : (depth : Nat) → List Char → Option (Json × List Char)
  | 0,         _    => none
  | depth + 1, text =>
    match skipGap text with
    | '"' :: rest    => (readText? rest).map fun (text, rest) => (.string text, rest)
    | '[' :: rest    =>
      (readBracketed? ']' (readValue? depth) rest).map fun (items, rest) => (.array items, rest)
    | '\x7b' :: rest =>
      (readBracketed? '\x7d' (readField? (readValue? depth)) rest).map fun (fields, rest) =>
        (.object fields, rest)
    | rest           => (readNumber? rest).map fun (n, rest) => (.number n, rest)

/-- The value that a JSON text stands for.  No value in it is deeper than the text is long. -/
def read? (text : String) : Option Json :=
  match readValue? text.toList.length text.toList with
  | some (json, rest) => if skipGap rest = [] then some json else none
  | none              => none

/-! ### Gaps are passed over -/

theorem skipGap_append {gap : List Char} (hgap : ∀ c ∈ gap, isGap c = true) (text : List Char) :
    skipGap (gap ++ text) = skipGap text :=
  List.dropWhile_append_of_pos hgap

theorem skipGap_cons {c : Char} (hc : isGap c = false) (text : List Char) :
    skipGap (c :: text) = c :: text :=
  List.dropWhile_cons_of_neg (by simp [hc])

theorem isGap_of_mem_newline {level : Nat} {c : Char} (h : c ∈ newline level) : isGap c = true := by
  rcases List.mem_cons.mp h with rfl | h
  · rfl
  · rw [List.eq_of_mem_replicate h]
    rfl

theorem readValue?_gap {gap : List Char} (hgap : ∀ c ∈ gap, isGap c = true) (depth : Nat)
    (text : List Char) : readValue? depth (gap ++ text) = readValue? depth text := by
  cases depth with
  | zero => rfl
  | succ depth => rw [readValue?, readValue?, skipGap_append hgap]

/-! ### Numbers -/

/-- A text that no numeral goes on with. -/
def Ends (rest : List Char) : Prop :=
  ∀ c ∈ rest.head?, c.isDigit = false

theorem ends_cons {c : Char} (hc : c.isDigit = false) (rest : List Char) : Ends (c :: rest) := by
  rintro d ⟨⟩
  exact hc

theorem eq_zero_of_head?_decimalDigits {n : Nat} (h : (Text.decimalDigits n).head? = some 0) :
    n = 0 := by
  -- the first digit of a number with more than one is that of its tenth, which is not zero
  fun_induction Text.decimalDigits n with
  | case1 n hn => exact Option.some.inj h
  | case2 n hn ih =>
      have hne : Text.decimalDigits (n / 10) ≠ [] :=
        List.ne_nil_of_length_pos (Text.length_decimalDigits_pos _)
      rw [List.head?_append, List.head?_eq_some_head hne, Option.some_or,
        ← List.head?_eq_some_head hne] at h
      have := ih h
      omega

/-- Only zero has a zero in front. -/
theorem decimal_of_head? {n : Nat} (h : (decimal n).head? = some '0') : decimal n = ['0'] := by
  have hzero : ∀ digit < 10, Text.digitChar digit = '0' → digit = 0 := by decide
  rw [decimal, List.head?_map, Option.map_eq_some_iff] at h
  obtain ⟨digit, hdigit, hchar⟩ := h
  rw [hzero digit (Text.decimalDigits_lt (List.mem_of_mem_head? hdigit)) hchar] at hdigit
  rw [eq_zero_of_head?_decimalDigits hdigit, decimal, Text.decimalDigits, if_pos (by decide)]
  rfl

theorem readNatural?_decimal (n : Nat) {rest : List Char} (hrest : Ends rest) :
    readNatural? (decimal n ++ rest) = some (n, rest) := by
  have hplain : ¬ (decimal n = [] ∨ (decimal n).head? = some '0' ∧ decimal n ≠ ['0']) := by
    rintro (hnil | ⟨hzero, hne⟩)
    · exact Text.decimal_ne_nil n hnil
    · exact hne (decimal_of_head? hzero)
  rw [readNatural?, Text.takeWhile_isDigit_decimal n hrest, Text.dropWhile_isDigit_decimal n hrest,
    if_neg hplain, Text.mapM_digitValue?_decimal, Option.map_some, Text.value_decimalDigits]

theorem readNumber?_decimalInt (n : Int) {rest : List Char} (hrest : Ends rest) :
    readNumber? (decimalInt n ++ rest) = some (n, rest) := by
  cases n with
  | ofNat n =>
      rw [decimalInt, readNumber?, readNatural?_decimal n hrest]
      · rfl
      -- the case of the sign does not apply
      · exact Text.decimal_append_ne_minus_cons n rest
  | negSucc n =>
      rw [decimalInt, List.cons_append, readNumber?, readNatural?_decimal (n + 1) hrest]
      rfl

/-! ### Texts -/

/-- The units that a character is written with. -/
def units (c : Char) : List Nat :=
  if c.toNat < 0x10000 then [c.toNat]
  else [0xD800 + (c.toNat - 0x10000) / 0x400, 0xDC00 + (c.toNat - 0x10000) % 0x400]

/-- An escaped unit is read. -/
theorem readUnits?_escapeUnit {unit : Nat} (h : unit < 0x10000) (rest : List Char) :
    readUnits? (escapeUnit unit ++ rest) =
      (readUnits? rest).map fun (units, rest) => (unit :: units, rest) := by
  have hnumber : hexNumber? (Text.Quoted.hex 4 unit) = some unit := Text.Quoted.hexNumber?_hex h
  obtain ⟨c₁, c₂, c₃, c₄, hhex⟩ : ∃ c₁ c₂ c₃ c₄, Text.Quoted.hex 4 unit = [c₁, c₂, c₃, c₄] :=
    ⟨_, _, _, _, rfl⟩
  rw [hhex] at hnumber
  simp only [escapeUnit, hhex, List.cons_append, List.nil_append, readUnits?, hnumber,
    Option.bind_eq_bind, Option.bind_some]
  cases readUnits? rest <;> rfl

theorem readUnits?_escapePoint (c : Char) (rest : List Char) :
    readUnits? (escapePoint c.toNat ++ rest) =
      (readUnits? rest).map fun (behind, rest) => (units c ++ behind, rest) := by
  have hbounds := Text.Utf8.toNat_bounds c
  rw [escapePoint, units]
  split_ifs with hunit
  · exact readUnits?_escapeUnit hunit rest
  · rw [List.append_assoc, readUnits?_escapeUnit (by omega), readUnits?_escapeUnit (by omega),
      Option.map_map]
    rfl

/-- **A character in a text is read as its units.** -/
theorem readUnits?_escapeChar (c : Char) (rest : List Char) :
    readUnits? (escapeChar c ++ rest) =
      (readUnits? rest).map fun (behind, rest) => (units c ++ behind, rest) := by
  have hshort {letter : Char} {escaped : Char} (hu : letter ≠ 'u')
      (hescaped : shortEscape? letter = some escaped) (hunits : units escaped = [escaped.toNat]) :
      readUnits? ('\\' :: letter :: rest) =
        (readUnits? rest).map fun (behind, rest) => (units escaped ++ behind, rest) := by
    rw [readUnits?, hescaped, hunits]
    · cases readUnits? rest <;> rfl
    · exact fun _ _ _ _ _ h => absurd h hu
  rw [escapeChar]
  -- seven characters are escaped by a letter, printable ASCII stands for itself, the rest by units
  split_ifs with hbare hn hr ht hb hf hascii
  · rcases hbare with rfl | rfl
    · exact hshort (by decide) rfl rfl
    · exact hshort (by decide) rfl rfl
  · rw [hn]
    exact hshort (by decide) rfl rfl
  · rw [hr]
    exact hshort (by decide) rfl rfl
  · rw [ht]
    exact hshort (by decide) rfl rfl
  · rw [hb]
    exact hshort (by decide) rfl rfl
  · rw [hf]
    exact hshort (by decide) rfl rfl
  · have hunits : units c = [c.toNat] := if_pos (Nat.lt_of_le_of_lt hascii.2 (by decide))
    rw [List.singleton_append, readUnits?, hunits, if_neg]
    · rfl
    · exact fun h => h.elim (fun hc => hbare (.inr hc)) (Nat.not_lt.mpr hascii.1)
    · exact fun hc => hbare (.inl hc)
    · exact fun _ _ _ _ _ hc => (hbare (.inr hc)).elim
    · exact fun _ _ hc => (hbare (.inr hc)).elim
  · exact readUnits?_escapePoint c rest

theorem readUnits?_flatMap_escapeChar (text rest : List Char) :
    readUnits? (text.flatMap escapeChar ++ '"' :: rest) = some (text.flatMap units, rest) := by
  induction text with
  | nil => rfl
  | cons c text ih =>
      rw [List.flatMap_cons, List.append_assoc, readUnits?_escapeChar, ih, Option.map_some,
        List.flatMap_cons]

theorem joinUnits?_cons {unit : Nat} (h : unit < 0xD800 ∨ 0xDFFF < unit) (behind : List Nat) :
    joinUnits? (unit :: behind) = (joinUnits? behind).map (Char.ofNat unit :: ·) := by
  rw [joinUnits?.eq_def]
  exact if_pos h

theorem joinUnits?_surrogates {high low : Nat} (h : 0xD800 ≤ high ∧ high < 0xDC00)
    (h' : 0xDC00 ≤ low ∧ low ≤ 0xDFFF) (behind : List Nat) :
    joinUnits? (high :: low :: behind) = (joinUnits? behind).map
      (Char.ofNat (0x10000 + 0x400 * (high - 0xD800) + (low - 0xDC00)) :: ·) := by
  rw [joinUnits?.eq_def]
  exact (if_neg (by omega)).trans (if_pos ⟨h.2, h'⟩)

/-- The units of a character are joined to it. -/
theorem joinUnits?_units (c : Char) (behind : List Nat) :
    joinUnits? (units c ++ behind) = (joinUnits? behind).map (c :: ·) := by
  have hbounds := Text.Utf8.toNat_bounds c
  rw [units]
  split_ifs with hunit
  · rw [List.singleton_append, joinUnits?_cons (by omega), Char.ofNat_toNat]
  · have hpoint : 0x10000 + 0x400 * (0xD800 + (c.toNat - 0x10000) / 0x400 - 0xD800) +
        (0xDC00 + (c.toNat - 0x10000) % 0x400 - 0xDC00) = c.toNat := by omega
    rw [List.cons_append, List.singleton_append, joinUnits?_surrogates (by omega) (by omega),
      hpoint, Char.ofNat_toNat]

theorem joinUnits?_flatMap_units (text : List Char) :
    joinUnits? (text.flatMap units) = some text := by
  induction text with
  | nil => rfl
  | cons c text ih => rw [List.flatMap_cons, joinUnits?_units, ih, Option.map_some]

/-- **A text reads back.** -/
theorem readText?_printText (text : String) (rest : List Char) :
    printText text.toList ++ rest =
        '"' :: (text.toList.flatMap escapeChar ++ '"' :: rest) ∧
      readText? (text.toList.flatMap escapeChar ++ '"' :: rest) = some (text, rest) := by
  constructor
  · rw [printText, List.cons_append, List.append_assoc, List.singleton_append]
  · simp only [readText?, readUnits?_flatMap_escapeChar, joinUnits?_flatMap_units,
      String.ofList_toList, Option.bind_eq_bind, Option.bind_some]

end Lexis.Json

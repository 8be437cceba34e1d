import Lexis.Text.Decimal
import Lexis.Text.Quoted
import Lexis.Text.Utf8
import Lexis.Toml.Scalar
import Mathlib.Algebra.Ring.Nat
import Mathlib.Tactic.SplitIfs

/-!
# Text — quoted texts, read back

Whatever is quoted, the quoted text has printable characters alone (`isPrintable_of_mem_encode`),
and hence no line terminator.  Between the marks a character is escaped in one of several widths,
but what is written for one can be read off the front of the text (`read?_escape`).  So **texts
that are quoted alike are the same** (`quoted_injective`), although the marks depend on the text.
-/

namespace Lexis.Text

/-! ### Hexadecimal numbers -/

/-- The number that hexadecimal digits stand for. -/
def hexNumber? (digits : List Char) : Option Nat :=
  (digits.mapM Toml.hexValue?).map (value 16)

namespace Quoted

theorem hexValue?_hexDigit {n : Nat} (h : n < 16) : Toml.hexValue? (hexDigit n) = some n := by
  revert n
  decide

@[simp] theorem length_hex (width n : Nat) : (hex width n).length = width := by
  induction width generalizing n with
  | zero => rfl
  | succ width ih => rw [hex, List.length_append, ih, List.length_singleton]

/-- What holds of the sixteen digits holds of every one of a number. -/
theorem forall_mem_hex {P : Char → Prop} (hdigit : ∀ digit < 16, P (hexDigit digit))
    {width n : Nat} {c : Char} (h : c ∈ hex width n) : P c := by
  induction width generalizing n with
  | zero => exact absurd h List.not_mem_nil
  | succ width ih =>
      rcases List.mem_append.mp h with h | h
      · exact ih h
      · rw [List.mem_singleton.mp h]
        exact hdigit _ (Nat.mod_lt n (by decide))

/-- A number is read back from as many hexadecimal digits as hold it. -/
theorem hexNumber?_hex {width n : Nat} (h : n < 16 ^ width) :
    hexNumber? (hex width n) = some n := by
  induction width generalizing n with
  | zero =>
      obtain rfl : n = 0 := by rwa [Nat.pow_zero, Nat.lt_one_iff] at h
      rfl
  | succ width ih =>
      rw [Nat.pow_succ, ← Nat.div_lt_iff_lt_mul (by decide)] at h
      obtain ⟨digits, hdigits, hvalue⟩ := Option.map_eq_some_iff.mp (ih h)
      have hlast := hexValue?_hexDigit (Nat.mod_lt n (by decide : 0 < 16))
      have hall : (hex (width + 1) n).mapM Toml.hexValue? = some (digits ++ [n % 16]) := by
        simp [hex, List.mapM_append, hdigits, hlast]
      rw [hexNumber?, hall, Option.map_some, value_append, hvalue, Nat.div_add_mod]

/-! ### Printable characters -/

theorem isPrintable_of_mem_hex {width n : Nat} {c : Char} (h : c ∈ hex width n) :
    isPrintable c = true :=
  forall_mem_hex (P := fun c => isPrintable c = true) (by decide) h

theorem isPrintable_of_mem_codePoint {n : Nat} {c : Char} (h : c ∈ codePoint n) :
    isPrintable c = true := by
  have hprefix {letter : Char} (hletter : isPrintable letter = true) {width : Nat}
      (h : c ∈ '\\' :: letter :: hex width n) : isPrintable c = true := by
    rcases List.mem_cons.mp h with rfl | h
    · decide
    · rcases List.mem_cons.mp h with rfl | h
      · exact hletter
      · exact isPrintable_of_mem_hex h
  rw [codePoint] at h
  split at h
  · exact hprefix (by decide) h
  · split at h
    · exact hprefix (by decide) h
    · exact hprefix (by decide) h

/-- The marks are two. -/
theorem mark_eq_or_eq (text : List Char) : mark text = '"' ∨ mark text = '\'' := by
  rw [mark]
  split
  · exact .inl rfl
  · exact .inr rfl

variable {q : Char}

theorem isPrintable_of_mem_escape (hq : q = '"' ∨ q = '\'') {c d : Char} (h : d ∈ escape q c) :
    isPrintable d = true := by
  have hpair {e : Char} (he : isPrintable e = true) (h : d ∈ ['\\', e]) : isPrintable d = true := by
    rcases List.mem_cons.mp h with rfl | h
    · decide
    · rwa [List.mem_singleton.mp h]
  rw [escape] at h
  split_ifs at h with hescaped _ _ _ hprintable
  · refine hpair ?_ h
    rcases hescaped with rfl | rfl
    · rcases hq with rfl | rfl <;> decide
    · decide
  · exact hpair (by decide) h
  · exact hpair (by decide) h
  · exact hpair (by decide) h
  · rwa [List.mem_singleton.mp h]
  · exact isPrintable_of_mem_codePoint h

/-- **What is quoted is printable.** -/
theorem isPrintable_of_mem_encode {text : List Char} {c : Char} (h : c ∈ encode text) :
    isPrintable c = true := by
  have hmark : isPrintable (mark text) = true := by
    rcases mark_eq_or_eq text with hq | hq <;> rw [hq] <;> decide
  rw [encode, List.mem_cons, List.mem_append, List.mem_flatMap, List.mem_singleton] at h
  rcases h with rfl | ⟨d, -, h⟩ | rfl
  · exact hmark
  · exact isPrintable_of_mem_escape (mark_eq_or_eq text) h
  · exact hmark

/-! ### Reading back -/

/-- The character whose code point is given by so many hexadecimal digits, and the text behind. -/
def readPoint (width : Nat) (text : List Char) : Option (Char × List Char) :=
  (hexNumber? (text.take width)).map fun n => (Char.ofNat n, text.drop width)

/-- The character that is escaped by what stands behind a backslash, and the text behind. -/
def readEscaped : List Char → Option (Char × List Char)
  | []        => none
  | c :: rest =>
    if c = 'n' then some ('\n', rest)
    else if c = 'r' then some ('\r', rest)
    else if c = 't' then some ('\t', rest)
    else if c = 'x' then readPoint 2 rest
    else if c = 'u' then readPoint 4 rest
    else if c = 'U' then readPoint 8 rest
    else some (c, rest)

/-- The first character of a text between marks, and the text behind what is written for it. -/
def read? : List Char → Option (Char × List Char)
  | []        => none
  | c :: rest => if c = '\\' then readEscaped rest else some (c, rest)

theorem readPoint_hex (width : Nat) {c : Char} (h : c.toNat < 16 ^ width) (rest : List Char) :
    readPoint width (hex width c.toNat ++ rest) = some (c, rest) := by
  rw [readPoint, List.take_left' (length_hex _ _), List.drop_left' (length_hex _ _),
    hexNumber?_hex h, Option.map_some, Char.ofNat_toNat]

theorem read?_codePoint (c : Char) (rest : List Char) :
    read? (codePoint c.toNat ++ rest) = some (c, rest) := by
  have hbounds := Utf8.toNat_bounds c
  rw [codePoint]
  split_ifs with hbyte hunit
  · exact readPoint_hex 2 hbyte rest
  · exact readPoint_hex 4 hunit rest
  · exact readPoint_hex 8 (show c.toNat < 16 ^ 8 by omega) rest

/-- **A character is read back from what is written for it**, whatever is behind that. -/
theorem read?_escape (hq : q = '"' ∨ q = '\'') (c : Char) (rest : List Char) :
    read? (escape q c ++ rest) = some (c, rest) := by
  rw [escape]
  split_ifs with hescaped hn hr ht
  · rcases hescaped with rfl | rfl
    · rcases hq with rfl | rfl <;> rfl
    · rfl
  · rw [hn]
    rfl
  · rw [hr]
    rfl
  · rw [ht]
    rfl
  · exact if_neg fun hc => hescaped (.inr hc)
  · exact read?_codePoint c rest

theorem flatMap_escape_injective (hq : q = '"' ∨ q = '\'') {text text' : List Char}
    (h : text.flatMap (escape q) = text'.flatMap (escape q)) : text = text' := by
  -- what is read at the front tells whether there is a first character, and which
  induction text generalizing text' with
  | nil =>
      cases text' with
      | nil => rfl
      | cons c text' =>
          have hread := read?_escape hq c (text'.flatMap (escape q))
          rw [← List.flatMap_cons, ← h] at hread
          exact nomatch hread
  | cons c text ih =>
      have hread := read?_escape hq c (text.flatMap (escape q))
      rw [← List.flatMap_cons, h] at hread
      cases text' with
      | nil => exact nomatch hread
      | cons d text' =>
          rw [List.flatMap_cons, read?_escape hq, Option.some.injEq, Prod.mk.injEq] at hread
          rw [hread.1, ih hread.2.symm]

theorem encode_injective {text text' : List Char} (h : encode text = encode text') :
    text = text' := by
  rw [encode, encode, List.cons.injEq] at h
  -- the escapes depend on the mark, which stands in front
  obtain ⟨hmark, h⟩ := h
  rw [hmark, List.append_cancel_right_eq] at h
  exact flatMap_escape_injective (mark_eq_or_eq text') h

end Quoted

/-- **Texts that are quoted alike are the same.** -/
theorem quoted_injective {text text' : String} (h : quoted text = quoted text') : text = text' :=
  String.toList_injective (Quoted.encode_injective (String.ofList_injective h))

end Lexis.Text

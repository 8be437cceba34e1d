import Lexis.Text.Decimal
import Lexis.Text.Quoted

/-!
# Text — UTF-8

Texts as bytes.  `encode` gives each character one to four bytes; `decode` reads bytes one at a
time and keeps, inside a character, the bytes still owed and the bounds of the next one.  The
bounds shut out overlong forms, surrogates and code points above `U+10FFFF`, so that every text
has one form, and a flaw is reported at the longest start of a character that the bytes hold.

What is encoded decodes to itself (`decode_encode`).
-/

namespace Lexis.Text.Utf8

/-! ### Encoding -/

/-- A byte that continues a character, with six bits of its code point. -/
def continuation (bits : Nat) : UInt8 :=
  UInt8.ofNat (0x80 + bits % 0x40)

/-- The bytes of a code point. -/
def encodePoint (n : Nat) : List UInt8 :=
  if n < 0x80 then [UInt8.ofNat n]
  else if n < 0x800 then [UInt8.ofNat (0xC0 + n / 0x40), continuation n]
  else if n < 0x10000 then
    [UInt8.ofNat (0xE0 + n / 0x1000), continuation (n / 0x40), continuation n]
  else
    [UInt8.ofNat (0xF0 + n / 0x40000), continuation (n / 0x1000), continuation (n / 0x40),
     continuation n]

/-- The bytes of a text. -/
def encode (text : List Char) : List UInt8 :=
  text.flatMap fun c => encodePoint c.toNat

/-! ### Decoding -/

/-- Why bytes are no text. -/
inductive Flaw where
  /-- A byte that begins no character. -/
  | badStart
  /-- A byte that does not continue the character before it. -/
  | badContinuation
  /-- The bytes end within a character. -/
  | truncated
  deriving DecidableEq, Repr

/-- A flaw and the bytes at fault: the place of the first, its value, and their number. -/
structure Failure where
  flaw  : Flaw
  start : Nat
  first : UInt8
  size  : Nat
  deriving DecidableEq, Repr

/-- A character under way: its first byte, the number of bytes taken, the number of bytes owed,
the bounds of the next byte, and the bits so far. -/
structure Pending where
  first : UInt8
  taken : Nat
  owed  : Nat
  low   : Nat
  high  : Nat
  bits  : Nat
  deriving DecidableEq, Repr

/-- The character that a byte begins. -/
def begin? (b : UInt8) : Option Pending :=
  let n := b.toNat
  if n < 0x80 then some ⟨b, 1, 0, 0, 0, n⟩
  else if 0xC2 ≤ n ∧ n ≤ 0xDF then some ⟨b, 1, 1, 0x80, 0xBF, n - 0xC0⟩
  else if n = 0xE0 then some ⟨b, 1, 2, 0xA0, 0xBF, 0⟩
  else if n = 0xED then some ⟨b, 1, 2, 0x80, 0x9F, 0xD⟩
  else if 0xE1 ≤ n ∧ n ≤ 0xEF then some ⟨b, 1, 2, 0x80, 0xBF, n - 0xE0⟩
  else if n = 0xF0 then some ⟨b, 1, 3, 0x90, 0xBF, 0⟩
  else if 0xF1 ≤ n ∧ n ≤ 0xF3 then some ⟨b, 1, 3, 0x80, 0xBF, n - 0xF0⟩
  else if n = 0xF4 then some ⟨b, 1, 3, 0x80, 0x8F, 4⟩
  else none

/-- The character under way with one more byte. -/
def Pending.continue? (p : Pending) (b : UInt8) : Option Pending :=
  if p.low ≤ b.toNat ∧ b.toNat ≤ p.high then
    some ⟨p.first, p.taken + 1, p.owed - 1, 0x80, 0xBF, p.bits * 0x40 + (b.toNat - 0x80)⟩
  else none

/-- The failure of a character under way, `place` bytes into the text. -/
def Pending.failure (p : Pending) (flaw : Flaw) (place : Nat) : Failure :=
  ⟨flaw, place - p.taken, p.first, p.taken⟩

/-- The text of the bytes from `place` on, where a character may be under way. -/
def decodeFrom (place : Nat) : Option Pending → List UInt8 → Except Failure (List Char)
  | none,   []     => .ok []
  | some p, []     => .error (p.failure .truncated place)
  | none,   b :: r =>
    match begin? b with
    | none   => .error ⟨.badStart, place, b, 1⟩
    | some p =>
      if p.owed = 0 then (decodeFrom (place + 1) none r).map (Char.ofNat p.bits :: ·)
      else decodeFrom (place + 1) (some p) r
  | some p, b :: r =>
    match p.continue? b with
    | none   => .error (p.failure .badContinuation place)
    | some p =>
      if p.owed = 0 then (decodeFrom (place + 1) none r).map (Char.ofNat p.bits :: ·)
      else decodeFrom (place + 1) (some p) r

/-- The text of some bytes. -/
def decode (bytes : List UInt8) : Except Failure (List Char) :=
  decodeFrom 0 none bytes

/-! ### Messages -/

/-- What is wrong with the bytes, in words. -/
def Flaw.reason : Flaw → String
  | .badStart        => "invalid start byte"
  | .badContinuation => "invalid continuation byte"
  | .truncated       => "unexpected end of data"

/-- The bytes at fault: a single one with its value, several by their places. -/
def Failure.span (f : Failure) : String :=
  if f.size = 1 then
    "byte 0x" ++ String.ofList (Quoted.hex 2 f.first.toNat) ++ " in position " ++ integer f.start
  else
    "bytes in position " ++ integer f.start ++ "-" ++ integer (f.start + f.size - 1 : Nat)

/-- The failure in words. -/
def Failure.message (f : Failure) : String :=
  "'utf-8' codec can't decode " ++ f.span ++ ": " ++ f.flaw.reason

/-! ### Reading back -/

theorem toNat_continuation (bits : Nat) : (continuation bits).toNat = 0x80 + bits % 0x40 := by
  simp [continuation]
  omega

theorem toNat_ofNat_of_lt {n : Nat} (h : n < 256) : (UInt8.ofNat n).toNat = n := by
  simp
  omega

/-- The code points of characters: those below the surrogates, and those above. -/
theorem toNat_bounds (c : Char) :
    c.toNat < 0xD800 ∨ (0xDFFF < c.toNat ∧ c.toNat < 0x110000) := by
  have h := c.valid
  simp only [UInt32.isValidChar, Nat.isValidChar] at h
  exact h

/-- A byte that begins a longer character. -/
theorem decodeFrom_begin {place : Nat} {b : UInt8} {p : Pending} (r : List UInt8)
    (h : begin? b = some p) (owed : p.owed ≠ 0) :
    decodeFrom place none (b :: r) = decodeFrom (place + 1) (some p) r := by
  simp only [decodeFrom, h, if_neg owed]

/-- A byte that continues a character and does not end it. -/
theorem decodeFrom_continue {place : Nat} {p : Pending} {bits : Nat} (r : List UInt8)
    (owed : 2 ≤ p.owed) (low : p.low ≤ 0x80 + bits % 0x40) (high : 0x80 + bits % 0x40 ≤ p.high) :
    decodeFrom place (some p) (continuation bits :: r) =
      decodeFrom (place + 1)
        (some ⟨p.first, p.taken + 1, p.owed - 1, 0x80, 0xBF, p.bits * 0x40 + bits % 0x40⟩) r := by
  simp only [decodeFrom, Pending.continue?, toNat_continuation, if_pos (And.intro low high)]
  rw [if_neg (by omega), Nat.add_sub_cancel_left]

/-- A byte that ends a character. -/
theorem decodeFrom_end {place : Nat} {p : Pending} {bits : Nat} (r : List UInt8)
    (owed : p.owed = 1) (low : p.low ≤ 0x80 + bits % 0x40) (high : 0x80 + bits % 0x40 ≤ p.high) :
    decodeFrom place (some p) (continuation bits :: r) =
      (decodeFrom (place + 1) none r).map (Char.ofNat (p.bits * 0x40 + bits % 0x40) :: ·) := by
  simp only [decodeFrom, Pending.continue?, toNat_continuation, if_pos (And.intro low high)]
  rw [if_pos (by omega), Nat.add_sub_cancel_left]

theorem begin?_two {n : Nat} (low : 0x80 ≤ n) (high : n < 0x800) :
    begin? (UInt8.ofNat (0xC0 + n / 0x40)) =
      some ⟨UInt8.ofNat (0xC0 + n / 0x40), 1, 1, 0x80, 0xBF, n / 0x40⟩ := by
  simp only [begin?, toNat_ofNat_of_lt (show 0xC0 + n / 0x40 < 256 by omega)]
  rw [if_neg (by omega), if_pos (by omega), Nat.add_sub_cancel_left]

/-- The first byte of three bounds the second so that it fits the code point. -/
theorem begin?_three {n : Nat} (low : 0x800 ≤ n) (high : n < 0x10000)
    (bounds : n < 0xD800 ∨ 0xDFFF < n) :
    ∃ p, begin? (UInt8.ofNat (0xE0 + n / 0x1000)) = some p ∧ p.owed = 2 ∧ p.bits = n / 0x1000 ∧
      p.low ≤ 0x80 + n / 0x40 % 0x40 ∧ 0x80 + n / 0x40 % 0x40 ≤ p.high := by
  simp only [begin?, toNat_ofNat_of_lt (show 0xE0 + n / 0x1000 < 256 by omega)]
  rw [if_neg (by omega), if_neg (by omega)]
  split
  · exact ⟨_, rfl, rfl, by simp only; omega, by simp only; omega, by simp only; omega⟩
  · split
    · exact ⟨_, rfl, rfl, by simp only; omega, by simp only; omega, by simp only; omega⟩
    · rw [if_pos (by omega)]
      exact ⟨_, rfl, rfl, by simp only; omega, by simp only; omega, by simp only; omega⟩

/-- The first byte of four bounds the second so that it fits the code point. -/
theorem begin?_four {n : Nat} (low : 0x10000 ≤ n) (high : n < 0x110000) :
    ∃ p, begin? (UInt8.ofNat (0xF0 + n / 0x40000)) = some p ∧ p.owed = 3 ∧ p.bits = n / 0x40000 ∧
      p.low ≤ 0x80 + n / 0x1000 % 0x40 ∧ 0x80 + n / 0x1000 % 0x40 ≤ p.high := by
  simp only [begin?, toNat_ofNat_of_lt (show 0xF0 + n / 0x40000 < 256 by omega)]
  rw [if_neg (by omega), if_neg (by omega), if_neg (by omega), if_neg (by omega),
    if_neg (by omega)]
  split
  · exact ⟨_, rfl, rfl, by simp only; omega, by simp only; omega, by simp only; omega⟩
  · split
    · exact ⟨_, rfl, rfl, by simp only; omega, by simp only; omega, by simp only; omega⟩
    · rw [if_pos (by omega)]
      exact ⟨_, rfl, rfl, by simp only; omega, by simp only; omega, by simp only; omega⟩

/-- The bytes of a character decode to it. -/
theorem decodeFrom_encodePoint (place : Nat) (c : Char) (rest : List UInt8) :
    decodeFrom place none (encodePoint c.toNat ++ rest) =
      (decodeFrom (place + (encodePoint c.toNat).length) none rest).map (c :: ·) := by
  have bounds := toNat_bounds c
  have back := Char.ofNat_toNat c
  generalize c.toNat = n at *
  unfold encodePoint
  split
  · have one : (UInt8.ofNat n).toNat = n := toNat_ofNat_of_lt (by omega)
    simp only [List.cons_append, List.nil_append, decodeFrom, begin?, one]
    rw [if_pos (by omega)]
    simp only [if_true, back]
    rfl
  · split
    · simp only [List.cons_append, List.nil_append]
      rw [decodeFrom_begin _ (begin?_two (by omega) (by omega)) (by simp),
        decodeFrom_end _ rfl (by simp only; omega) (by simp only; omega)]
      rw [show n / 0x40 * 0x40 + n % 0x40 = n by omega, back]
      rfl
    · split
      · obtain ⟨p, hp, owed, bits, low, high⟩ :=
          begin?_three (n := n) (by omega) (by omega) (by omega)
        simp only [List.cons_append, List.nil_append]
        rw [decodeFrom_begin _ hp (by omega), decodeFrom_continue _ (by omega) low high,
          decodeFrom_end _ (by simp only; omega) (by simp only; omega) (by simp only; omega)]
        simp only [bits]
        rw [show (n / 0x1000 * 0x40 + n / 0x40 % 0x40) * 0x40 + n % 0x40 = n by omega, back]
        rfl
      · obtain ⟨p, hp, owed, bits, low, high⟩ := begin?_four (n := n) (by omega) (by omega)
        simp only [List.cons_append, List.nil_append]
        rw [decodeFrom_begin _ hp (by omega), decodeFrom_continue _ (by omega) low high,
          decodeFrom_continue _ (by simp only; omega) (by simp only; omega) (by simp only; omega),
          decodeFrom_end _ (by simp only; omega) (by simp only; omega) (by simp only; omega)]
        simp only [bits]
        rw [show ((n / 0x40000 * 0x40 + n / 0x1000 % 0x40) * 0x40 + n / 0x40 % 0x40) * 0x40 +
          n % 0x40 = n by omega, back]
        rfl

/-- What is encoded decodes to itself. -/
theorem decode_encode (text : List Char) : decode (encode text) = .ok text := by
  have from_ : ∀ place, decodeFrom place none (encode text) = .ok text := by
    induction text with
    | nil => intro place; rfl
    | cons c text ih =>
      intro place
      rw [encode, List.flatMap_cons, decodeFrom_encodePoint]
      rw [encode] at ih
      rw [ih]
      rfl
  exact from_ 0

end Lexis.Text.Utf8

import Lexis.Binary64.Basic

/-!
# Binary64 — shortest text

The text of a floating-point number with the fewest digits that read back as that number; of
several such decimals the one nearest to it.  A finite number and the ends of the interval that
rounds to it are whole multiples of one power of ten, so that each test is one of whole numbers.
-/

namespace Lexis.Binary64

/-! ### Digits -/

/-- A number and the ends of its interval, as multiples of `10 ^ exponent`. -/
structure Interval where
  low      : Nat
  middle   : Nat
  high     : Nat
  exponent : Int
  /-- Whether the ends round to the number too. -/
  closed   : Bool
  deriving DecidableEq, Repr

/-- The interval of decimals that round to `mantissa * 2 ^ exponent`.  Below a power of two the
next number is only half as far. -/
def interval (mantissa : Nat) (exponent : Int) : Interval :=
  let quarters := fun n : Nat => n * Nat.pow 2 (exponent - 2).toNat * Nat.pow 5 (2 - exponent).toNat
  let below := if mantissa = Nat.pow 2 52 ∧ leastExponent < exponent then 1 else 2
  ⟨quarters (4 * mantissa - below), quarters (4 * mantissa), quarters (4 * mantissa + 2),
    min 0 (exponent - 2), mantissa % 2 = 0⟩

/-- The interval with its multiples a number of powers of ten finer. -/
def Interval.refine (i : Interval) (places : Nat) : Interval :=
  let scale := Nat.pow 10 places
  ⟨i.low * scale, i.middle * scale, i.high * scale, i.exponent - places, i.closed⟩

/-- Whether a multiple lies in the interval. -/
def Interval.holds (i : Interval) (n : Nat) : Bool :=
  if i.closed then i.low ≤ n && n ≤ i.high else i.low < n && n < i.high

/-- The multiple of `unit` in the interval that is nearest to its number, if one lies in it; a
tie goes to the even one. -/
def Interval.nearest? (i : Interval) (unit : Nat) : Option Nat :=
  let floor := i.middle / unit
  match i.holds (floor * unit), i.holds ((floor + 1) * unit) with
  | true,  true  => some (roundDiv i.middle unit)
  | true,  false => some floor
  | false, true  => some (floor + 1)
  | false, false => none

/-- The first decimal in the interval on grids of ever more digits, and its grid's exponent. -/
def Interval.search (i : Interval) : (grids : Nat) → Nat × Int
  | 0         => (i.middle, i.exponent)
  | grids + 1 =>
    match i.nearest? (Nat.pow 10 grids) with
    | some n => (n, i.exponent + grids)
    | none   => i.search grids

/-- A positive number without the zeros at its end, and their number. -/
def dropZeros (n : Nat) : Nat × Nat :=
  if _h : 0 < n ∧ n % 10 = 0 then
    let (rest, zeros) := dropZeros (n / 10)
    (rest, zeros + 1)
  else (n, 0)
termination_by n

/-- The shortest decimal of a positive number: its digits, the last not zero, and its power of
ten. -/
def shortest (mantissa : Nat) (exponent : Int) : Nat × Int :=
  let i := (interval mantissa exponent).refine 17
  let (n, power) := i.search (Text.decimalDigits i.middle).length
  let (digits, zeros) := dropZeros n
  (digits, power + zeros)

/-! ### Text -/

/-- How decimals are written. -/
structure Style where
  /-- The least exponent of ten of a first digit that is written by place. -/
  placedFrom : Int
  /-- The exponent of ten from which on the power is written out. -/
  placedBelow : Int
  /-- The least number of digits of a power. -/
  powerWidth : Nat

/-- Numbers from `10 ^ -4` up to but not including `10 ^ 16` are written by place, with one digit
behind the point at least; a power has a sign and two digits. -/
def plainStyle : Style := ⟨-4, 16, 2⟩

/-- A power of ten with its sign. -/
def Style.power (style : Style) (exponent : Int) : List Char :=
  let digits := Text.decimal exponent.natAbs
  'e' :: (if exponent < 0 then '-' else '+') ::
    (List.replicate (style.powerWidth - digits.length) '0' ++ digits)

/-- The number `digits * 10 ^ power`. -/
def Style.decimal (style : Style) (digits : Nat) (power : Int) : List Char :=
  let shown := Text.decimal digits
  let first : Int := power + shown.length - 1
  if style.placedFrom ≤ first ∧ first < style.placedBelow then
    if 0 ≤ power then shown ++ List.replicate power.toNat '0' ++ ['.', '0']
    else if 0 ≤ first then
      shown.take (first.toNat + 1) ++ '.' :: shown.drop (first.toNat + 1)
    else '0' :: '.' :: (List.replicate (-first - 1).toNat '0' ++ shown)
  else
    match shown with
    | [digit]       => digit :: style.power first
    | digit :: rest => digit :: '.' :: (rest ++ style.power first)
    | []            => style.power first

/-- A number as a text. -/
def text : Binary64 → List Char
  | .nan                                 => ['n', 'a', 'n']
  | .infinite true                       => ['-', 'i', 'n', 'f']
  | .infinite false                      => ['i', 'n', 'f']
  | .finite negative mantissa exponent   =>
    (if negative then ['-'] else []) ++
      (if mantissa = 0 then ['0', '.', '0']
       else
        let (digits, power) := shortest mantissa exponent
        plainStyle.decimal digits power)

end Lexis.Binary64

import PropertyPath.Numeric.Binary64

/-!
# The shortest decimal that reads back

Every finite nonzero double is the nearest double to a whole interval of reals.
Its shortest decimal is a point of that interval on the coarsest grid of powers
of ten that has one; of two such points the nearer is taken, and the upper one
when both are equally near. All comparisons are between natural numbers after
clearing the powers of two and ten.
-/

namespace PropertyPath.Shortest

open Binary64

/-- A positive decimal `coefficient * 10 ^ exponent`. -/
structure Decimal where
  coefficient : Nat
  exponent : Int
  deriving DecidableEq, Repr

/-- The reals that round to a magnitude, in units of a quarter of its last
place: `lower`, `value` and `upper` count those units, and `closed` tells that
the ends belong to the interval. -/
structure Interval where
  lower : Nat
  value : Nat
  upper : Nat
  closed : Bool
  exponent : Int
  deriving DecidableEq, Repr

/-- Half a place on both sides, but a quarter below a power of two, whose lower
neighbour lies in the finer binade. Ties round to even, so exactly the even
significands own their ends. -/
def Interval.of (m : Magnitude) : Interval :=
  let narrow := m.significand = Nat.pow 2 52 ∧ -1074 < m.exponent
  { lower := 4 * m.significand - (if narrow then 1 else 2)
    value := 4 * m.significand
    upper := 4 * m.significand + 2
    closed := m.significand % 2 = 0
    exponent := m.exponent - 2 }

/-- The ratio of one interval unit to one step of the grid of `10 ^ k`, as a
numerator and a denominator. -/
def unitRatio (binary k : Int) : Nat × Nat :=
  (Nat.pow 2 binary.toNat * Nat.pow 10 (-k).toNat,
    Nat.pow 2 (-binary).toNat * Nat.pow 10 k.toNat)

/-- The grid point of `10 ^ k` nearest to the value among those inside the
interval. Only the two neighbours of the value can be inside when any point is. -/
def Interval.gridPoint? (i : Interval) (k : Int) : Option Decimal :=
  let (num, den) := unitRatio i.exponent k
  let inside (d : Nat) : Bool :=
    if i.closed then i.lower * num ≤ d * den && d * den ≤ i.upper * num
    else i.lower * num < d * den && d * den < i.upper * num
  let below := i.value * num / den
  let above := below + 1
  let roomBelow := i.value * num - below * den
  let roomAbove := above * den - i.value * num
  match inside below, inside above with
  | true, true => some ⟨if roomBelow < roomAbove then below else above, k⟩
  | true, false => some ⟨below, k⟩
  | false, true => some ⟨above, k⟩
  | false, false => none

/-- Tries the grids `10 ^ k`, `10 ^ (k - 1)`, … for the given number of steps. -/
def Interval.coarsest? (i : Interval) : Nat → Int → Option Decimal
  | 0, _ => none
  | steps + 1, k =>
    match i.gridPoint? k with
    | some d => some d
    | none => i.coarsest? steps (k - 1)

/-- Count of decimal digits of a natural number, zero having none. -/
def digitCount (n : Nat) : Nat := if n = 0 then 0 else (Nat.toDigits 10 n).length

/-- A power of ten above the whole interval, where the search begins. -/
def Interval.ceiling (i : Interval) : Nat :=
  digitCount (i.upper * Nat.pow 2 i.exponent.toNat / Nat.pow 2 (-i.exponent).toNat)

/-- The shortest decimal of a nonzero magnitude. Every magnitude is itself a
point of the grid `10 ^ (-1074)`, so the search ends within the steps allowed. -/
def ofMagnitude (m : Magnitude) : Decimal :=
  let i := Interval.of m
  ((i.coarsest? (i.ceiling + 1076) i.ceiling).getD ⟨0, 0⟩)

end PropertyPath.Shortest

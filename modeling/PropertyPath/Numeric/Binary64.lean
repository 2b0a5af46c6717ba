/-!
# Binary64 values as integers times powers of two

A finite double is a sign and a magnitude `significand * 2 ^ exponent`. The
decoding reads the bit fields and performs no rounding, so every later decision
about a double (its decimal text, whether it denotes an index) is exact
arithmetic on natural numbers and integers.
-/

namespace PropertyPath.Binary64

/-- The absolute value `significand * 2 ^ exponent` of a finite double. -/
structure Magnitude where
  significand : Nat
  exponent : Int
  deriving DecidableEq, Repr

/-- What the bits of a double denote. -/
inductive Form where
  | nan
  | infinite (negative : Bool)
  | finite (negative : Bool) (magnitude : Magnitude)
  deriving DecidableEq, Repr

/-- Splits the sign bit, the eleven exponent bits and the 52 fraction bits. The
all-ones exponent holds the infinities and the NaNs; the zero exponent holds the
numbers without the implicit leading bit. -/
def decode (bits : UInt64) : Form :=
  let word := bits.toNat
  let negative := decide (Nat.pow 2 63 ≤ word)
  let exponent : Nat := word / Nat.pow 2 52 % Nat.pow 2 11
  let fraction : Nat := word % Nat.pow 2 52
  if exponent = 2047 then
    if fraction = 0 then .infinite negative else .nan
  else if exponent = 0 then
    .finite negative ⟨fraction, -1074⟩
  else
    .finite negative ⟨Nat.pow 2 52 + fraction, (exponent : Int) - 1075⟩

/-- The form of a double. -/
def form (x : Float) : Form := decode x.toBits

/-- The natural number a magnitude equals, if it has no fractional part. -/
def Magnitude.toNat? (m : Magnitude) : Option Nat :=
  match m.exponent with
  | .ofNat up => some (m.significand * Nat.pow 2 up)
  | .negSucc down =>
    if m.significand % Nat.pow 2 (down + 1) = 0 then some (m.significand / Nat.pow 2 (down + 1)) else none

/-- The integer a double equals, if it is finite and has no fractional part. -/
def toInt? (x : Float) : Option Int :=
  match form x with
  | .finite negative magnitude =>
    magnitude.toNat?.map fun n => if negative then -(n : Int) else (n : Int)
  | _ => none

end PropertyPath.Binary64

import PropertyPath.Numeric.Layout
import PropertyPath.Numeric.Reading

/-!
# Numbers

A number is a 64-bit integer or a double. The two kinds are kept apart: an
integer never equals a double, and doubles compare as the arithmetic standard
says, so a NaN differs from itself and both zeros are equal.
-/

namespace PropertyPath

/-- A number of either kind. -/
inductive Number where
  | integer (n : Int64)
  | float (x : Float)
  deriving DecidableEq, Inhabited

namespace Number

/-- Equality within one kind. -/
def equals : Number → Number → Bool
  | integer m, integer n => m = n
  | float x, float y => x == y
  | _, _ => false

/-- The text of a number inside a path expression. -/
def text : Number → String
  | integer n => toString n.toInt
  | float x => Layout.plain x

/-- The number under inspection, with its kind. -/
def inspect : Number → String
  | integer n => "Integer(" ++ toString n.toInt ++ ")"
  | float x => "Float(" ++ Layout.diagnostic x ++ ")"

/-- The index a number denotes: itself, or a double without fractional part,
moved into the 64-bit range. -/
def index? : Number → Option Int64
  | integer n => some n
  | float x => (Binary64.toInt? x).map Reading.clampInt64

end Number

end PropertyPath

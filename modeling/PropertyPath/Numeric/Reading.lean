import PropertyPath.Numeric.Shortest

/-!
# Numbers from text

Decimal digits denote a natural number; a signed run of digits denotes a 64-bit
integer or lies outside its range on one side; a decimal with a fraction and an
exponent denotes the nearest double. Infinity and NaN have names of their own.
-/

namespace PropertyPath.Reading

/-- The value of a run of decimal digits, most significant first. -/
def natural (digits : List Char) : Nat :=
  digits.foldl (fun n c => 10 * n + (c.toNat - '0'.toNat)) 0

/-- Which end of the 64-bit range an integer lies beyond. -/
inductive Excess where
  | tooLarge
  | tooSmall
  deriving DecidableEq, Repr

/-- The integer as a 64-bit word, unless it lies beyond one end of the range. -/
def toInt64 (n : Int) : Except Excess Int64 :=
  if n < Int64.minValue.toInt then .error .tooSmall
  else if Int64.maxValue.toInt < n then .error .tooLarge
  else .ok (Int64.ofInt n)

/-- The nearest 64-bit integer: values beyond an end are moved to that end. -/
def clampInt64 (n : Int) : Int64 :=
  match toInt64 n with
  | .ok word => word
  | .error .tooLarge => Int64.maxValue
  | .error .tooSmall => Int64.minValue

/-- Splits off an optional sign; the flag tells that it was a minus. -/
def sign : List Char → Bool × List Char
  | '-' :: rest => (true, rest)
  | '+' :: rest => (false, rest)
  | text => (false, text)

/-- An optionally signed run of digits, as an unbounded integer. -/
def integer? (text : List Char) : Option Int :=
  let (negative, digits) := sign text
  if !digits.isEmpty && digits.all Char.isDigit then
    some (if negative then -(natural digits : Int) else natural digits)
  else none

/-- An optionally signed run of digits within the 64-bit range. -/
def int64? (text : List Char) : Option Int64 :=
  (integer? text).bind fun n => (toInt64 n).toOption

/-- Positive infinity. -/
def infinity : Float := Float.ofBits 0x7FF0000000000000

/-- The NaN without payload. -/
def nan : Float := Float.ofBits 0x7FF8000000000000

/-- The double nearest to `coefficient * 10 ^ exponent`. Values from `10 ^ 310`
on round to infinity and values below `10 ^ (-330)` round to zero, so the power
of ten that is formed stays small whatever exponent is written. -/
def nearest (coefficient : Nat) (exponent : Int) : Float :=
  let magnitude := Shortest.digitCount coefficient + exponent
  if coefficient = 0 then 0
  else if 310 < magnitude then infinity
  else if magnitude < -330 then 0
  else Float.ofScientific coefficient (exponent < 0) exponent.natAbs

/-- The exponent after a mantissa: nothing at all, or `e` with a signed run of
digits that reaches the end of the text. -/
def exponent? : List Char → Option Int
  | [] => some 0
  | mark :: rest => if mark = 'e' ∨ mark = 'E' then integer? rest else none

/-- An unsigned decimal: digits around an optional point, at least one digit in
all, and an optional exponent. -/
def unsigned? (text : List Char) : Option Float :=
  let whole := text.takeWhile Char.isDigit
  let rest := text.dropWhile Char.isDigit
  let (fraction, rest) :=
    match rest with
    | '.' :: rest => (rest.takeWhile Char.isDigit, rest.dropWhile Char.isDigit)
    | rest => ([], rest)
  if whole.isEmpty && fraction.isEmpty then none
  else (exponent? rest).map fun e => nearest (natural (whole ++ fraction)) (e - fraction.length)

/-- A double from its text: an optional sign before a decimal, `inf`,
`infinity` or `nan`, the names in any case. -/
def float? (text : List Char) : Option Float :=
  let (negative, body) := sign text
  let name := String.ofList (body.map Char.toLower)
  let magnitude :=
    if name = "inf" ∨ name = "infinity" then some infinity
    else if name = "nan" then some nan
    else unsigned? body
  magnitude.map fun x => if negative then -x else x

end PropertyPath.Reading

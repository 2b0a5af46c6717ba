import PropertyPath.Numeric.Shortest

/-!
# Texts of doubles

Two layouts of the same shortest digits. The *plain* layout is what a path
expression shows: always positional, without a fractional part when there is
none. The *diagnostic* layout is what inspection shows: a fractional part or an
exponent is always visible, and magnitudes outside `[1e-4, 1e16)` use an exponent.
-/

namespace PropertyPath.Layout

open Binary64 Shortest

/-- Digits with the decimal point after the first `point` of them; a negative
`point` counts zeros between the point and the first digit. -/
structure Digits where
  digits : List Char
  point : Int

/-- The digits of a decimal. -/
def Digits.of (d : Decimal) : Digits :=
  let digits := Nat.toDigits 10 d.coefficient
  ⟨digits, digits.length + d.exponent⟩

/-- Positional notation, padded with zeros up to the point or after it. -/
def Digits.positional (d : Digits) : List Char :=
  if d.point ≤ 0 then
    '0' :: '.' :: (List.replicate (-d.point).toNat '0' ++ d.digits)
  else if d.digits.length ≤ d.point.toNat then
    d.digits ++ List.replicate (d.point.toNat - d.digits.length) '0'
  else
    d.digits.take d.point.toNat ++ '.' :: d.digits.drop d.point.toNat

/-- One digit before the point, the rest after it, and the power of ten. -/
def Digits.exponential (d : Digits) : List Char :=
  let exponent := d.point - 1
  match d.digits with
  | [] => ['0']
  | [single] => single :: 'e' :: (toString exponent).toList
  | first :: rest => first :: '.' :: (rest ++ 'e' :: (toString exponent).toList)

/-- Joins a sign, the text of zero, and the text of a nonzero magnitude. -/
def arrange (zero : String) (nonzero : Digits → List Char) (x : Float) : String :=
  match form x with
  | .nan => "NaN"
  | .infinite negative => if negative then "-inf" else "inf"
  | .finite negative m =>
    let body := if m.significand = 0 then zero else String.ofList (nonzero (Digits.of (ofMagnitude m)))
    if negative then "-" ++ body else body

/-- The text a number has inside a path expression. -/
def plain (x : Float) : String := arrange "0" Digits.positional x

/-- Positional from `1e-4` up to below `1e16`, with a visible fractional part;
exponential elsewhere. -/
def Digits.diagnostic (d : Digits) : List Char :=
  if d.point ≤ -4 ∨ 16 < d.point then d.exponential
  else if d.digits.length ≤ d.point.toNat then d.positional ++ ['.', '0']
  else d.positional

/-- The text a double has under inspection. -/
def diagnostic (x : Float) : String := arrange "0.0" Digits.diagnostic x

end PropertyPath.Layout
